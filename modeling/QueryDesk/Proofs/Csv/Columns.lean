import QueryDesk.Proofs.Csv.Statements

/-!
# The columns that statements list

Which columns a statement creates and which it fills is read off its text. Both statements of a
plan list the headers of its document, and the second has a placeholder for each of them, as many as
a row of the document has fields (`planFor_ofText`). A text is read in one way only, given the table
(`Creates.unique`, `Fills.unique`).
-/

set_option autoImplicit false

namespace QueryDesk.Csv

open Text

/-- The text is the items with a comma and a blank between neighbours, and no item has a comma in
it. -/
structure Lists (t : Text) (items : List Text) : Prop where
  some : items ≠ []
  bare : ∀ item ∈ items, ',' ∉ item
  whole : join [',', ' '] items = t

theorem join_cons_cons (separator : Text) (c : Char) (piece : Text) (pieces : List Text) :
    join separator ((c :: piece) :: pieces) = c :: join separator (piece :: pieces) := by
  cases pieces with
  | nil => simp [join]
  | cons next more => simp [join, List.intercalate_cons_cons]

/-- The blanks of a list, counted in with the items that they stand before. -/
theorem join_blanks (first : Text) (items : List Text) :
    join [','] (first :: items.map (' ' :: ·)) = join [',', ' '] (first :: items) := by
  induction items generalizing first with
  | nil => rfl
  | cons next more ih =>
    have rest := join_cons_cons [','] ' ' next (more.map (' ' :: ·))
    rw [ih next] at rest
    rw [join, join, List.map_cons, List.intercalate_cons_cons, List.intercalate_cons_cons, ← join,
      ← join, rest]
    simp

theorem Lists.pieces {t first : Text} {items : List Text} (lists : Lists t (first :: items)) :
    Pieces ',' t (first :: items.map (' ' :: ·)) := by
  obtain ⟨head, tail⟩ := List.forall_mem_cons.1 lists.bare
  refine ⟨List.cons_ne_nil _ _, List.forall_mem_cons.2 ⟨head, ?_⟩, ?_⟩
  · intro piece member
    obtain ⟨item, inside, rfl⟩ := List.mem_map.1 member
    exact List.not_mem_cons_of_ne_of_not_mem (by decide) (tail item inside)
  · rw [join_blanks]
    exact lists.whole

theorem Lists.unique {t : Text} {items items' : List Text} (lists : Lists t items)
    (lists' : Lists t items') : items = items' := by
  obtain ⟨first, more, rfl⟩ := List.exists_cons_of_ne_nil lists.some
  obtain ⟨first', more', rfl⟩ := List.exists_cons_of_ne_nil lists'.some
  have pieces := (splitOn_eq_iff ',' t _).2 lists.pieces
  have pieces' := (splitOn_eq_iff ',' t _).2 lists'.pieces
  obtain ⟨rfl, same⟩ := List.cons.inj (pieces.symm.trans pieces')
  rw [List.map_inj_right (fun _ _ shape => (List.cons.inj shape).2) |>.1 same]

/-- What follows the last occurrence of a character is determined, and so is what comes before. -/
theorem last_unique {front front' back back' : Text} {c : Char} (absent : c ∉ back)
    (absent' : c ∉ back') (same : front ++ c :: back = front' ++ c :: back') :
    front = front' ∧ back = back' := by
  have plain {t : Text} (absent : c ∉ t) : ∀ d ∈ t.reverse, (d != c) = true :=
    ne_of_not_mem fun member => absent (List.mem_reverse.1 member)
  have turned : back.reverse ++ c :: front.reverse = back'.reverse ++ c :: front'.reverse := by
    simpa using congrArg List.reverse same
  obtain ⟨backs, fronts⟩ := run_unique turned (plain absent) (by simp) (plain absent') (by simp)
  exact ⟨List.reverse_injective (List.cons.inj fronts).2, List.reverse_injective backs⟩

/-- A column of the given name, as it is defined in a statement. -/
def Defines (definition column : Text) : Prop :=
  ∃ type : ColumnType, definition = column ++ ' ' :: type.sqlName

/-- The statement creates the table, if it is missing, with the given columns in that order. -/
def Creates (sql table : Text) (columns : List Text) : Prop :=
  ∃ listed definitions,
    sql = "CREATE TABLE IF NOT EXISTS ".toList ++
      (table ++ (" (".toList ++ (listed ++ ");".toList))) ∧
    Lists listed definitions ∧ List.Forall₂ Defines definitions columns

/-- The template inserts into the given columns of the table, with that many placeholders. -/
def Fills (template table : Text) (columns : List Text) (places : Nat) : Prop :=
  ∃ listed values,
    template = "INSERT INTO ".toList ++ (table ++ (" (".toList ++ (listed ++
      (") VALUES (".toList ++ (values ++ ");".toList))))) ∧
    Lists listed columns ∧ Lists values (List.replicate places ['?'])

theorem defines_unique {definition column column' : Text} (defines : Defines definition column)
    (defines' : Defines definition column') : column = column' := by
  have solid (type : ColumnType) : ' ' ∉ type.sqlName := by cases type <;> decide
  obtain ⟨type, rfl⟩ := defines
  obtain ⟨type', same⟩ := defines'
  exact (last_unique (solid type) (solid type') same).1

theorem Creates.unique {sql table : Text} {columns columns' : List Text}
    (creates : Creates sql table columns) (creates' : Creates sql table columns') :
    columns = columns' := by
  obtain ⟨listed, definitions, rfl, lists, defined⟩ := creates
  obtain ⟨listed', definitions', same, lists', defined'⟩ := creates'
  have same := List.append_cancel_left (List.append_cancel_left (List.append_cancel_left same))
  obtain rfl := List.append_cancel_right same
  obtain rfl := lists.unique lists'
  clear lists lists' same
  induction defined generalizing columns' with
  | nil => cases defined'; rfl
  | cons here _ ih =>
    cases defined' with
    | cons here' rest' => rw [defines_unique here here', ih rest']

theorem Lists.no_paren {values : Text} {places : Nat}
    (lists : Lists values (List.replicate places ['?'])) : '(' ∉ values := by
  intro member
  rw [← lists.whole] at member
  rcases mem_join member with here | ⟨piece, inside, here⟩
  · exact absurd here (by decide)
  · rw [List.eq_of_mem_replicate inside] at here
    exact absurd here (by decide)

/-- The values follow the last parenthesis that opens. -/
theorem values_shape : ∃ front : Text, ∀ values : Text,
    ") VALUES (".toList ++ values = front ++ '(' :: values :=
  ⟨") VALUES ".toList, fun _ => rfl⟩

theorem Fills.unique {template table : Text} {columns columns' : List Text} {places places' : Nat}
    (fills : Fills template table columns places) (fills' : Fills template table columns' places') :
    columns = columns' ∧ places = places' := by
  obtain ⟨front, shape⟩ := values_shape
  obtain ⟨listed, values, rfl, lists, filled⟩ := fills
  obtain ⟨listed', values', same, lists', filled'⟩ := fills'
  have same := List.append_cancel_left (List.append_cancel_left (List.append_cancel_left same))
  simp only [← List.append_assoc _ _ ");".toList] at same
  have same := List.append_cancel_right same
  rw [shape, shape, ← List.append_assoc, ← List.append_assoc] at same
  obtain ⟨lists_same, rfl⟩ := last_unique filled.no_paren filled'.no_paren same
  obtain rfl := List.append_cancel_right lists_same
  have counts := congrArg List.length (filled.unique filled')
  simp only [List.length_replicate] at counts
  exact ⟨lists.unique lists', counts⟩

variable {table : Text} {headers : List Text}

theorem lists_typedColumns {types : List ColumnType} (some : headers ≠ [])
    (bare : ∀ header ∈ headers, ',' ∉ header) (typed : headers.length = types.length) :
    Lists (join [',', ' '] (typedColumns headers types)) (typedColumns headers types) := by
  have plain (type : ColumnType) : ',' ∉ ' ' :: type.sqlName := by cases type <;> decide
  have firsts : (headers.zip types).map Prod.fst = headers :=
    List.map_fst_zip (Nat.le_of_eq typed)
  refine ⟨?_, ?_, rfl⟩
  · rw [← firsts] at some
    simpa [typedColumns] using some
  · intro definition member
    obtain ⟨⟨header, type⟩, listed, rfl⟩ := List.mem_map.1 member
    exact List.not_mem_append (bare header (List.of_mem_zip listed).1) (plain type)

theorem creates_createStatement {types : List ColumnType} (some : headers ≠ [])
    (bare : ∀ header ∈ headers, ',' ∉ header) (typed : headers.length = types.length) :
    Creates (createStatement table headers types) table headers := by
  have firsts : (headers.zip types).map Prod.fst = headers :=
    List.map_fst_zip (Nat.le_of_eq typed)
  refine ⟨_, _, ?_, lists_typedColumns some bare typed, ?_⟩
  · rw [createStatement_eq]
    simp only [List.append_assoc]
    rfl
  · rw [typedColumns, List.forall₂_map_left_iff]
    conv => arg 3; rw [← firsts]
    rw [List.forall₂_map_right_iff]
    exact List.forall₂_same.2 fun column _ => ⟨column.2, rfl⟩

theorem fills_insertStatement {rows : List (List Text)} (some : headers ≠ [])
    (bare : ∀ header ∈ headers, ',' ∉ header) (full : rows ≠ []) :
    Fills (insertStatement table headers rows) table headers headers.length := by
  refine ⟨_, _, ?_, ⟨some, bare, rfl⟩, ⟨?_, ?_, rfl⟩⟩
  · rw [insertStatement_eq table headers full, List.map_const']
    simp only [List.append_assoc]
    rfl
  · simpa using some
  · intro place member
    rw [List.eq_of_mem_replicate member]
    decide

theorem Fills.ne_nil {template : Text} {columns : List Text} {places : Nat}
    (fills : Fills template table columns places) : template ≠ [] := by
  obtain ⟨listed, values, rfl, -, -⟩ := fills
  exact List.cons_ne_nil _ _

theorem insertStatement_eq_nil_iff (rows : List (List Text)) :
    insertStatement table headers rows = [] ↔ rows = [] := by
  constructor
  · intro none
    by_contra full
    rw [insertStatement_eq table headers full] at none
    cases (List.append_eq_nil_iff.1 none).2
  · rintro rfl
    rfl

/-- The statements and the rows of a load into a table agree on its columns. -/
structure Fit (table : Text) (columns : List Text) (create insert : Text)
    (rows : List (List Text)) : Prop where
  creates : Creates create table columns
  fills : Fills insert table columns columns.length
  used : insert ≠ []
  some : rows ≠ []
  width : ∀ row ∈ rows, row.length = columns.length

/-- What the parts of a plan have to do with each other. -/
structure PlanFor (table : Text) (plan : Plan) : Prop where
  name : plan.table = table
  creates : Creates plan.create table plan.document.headers
  insert : plan.insert = [] ↔ plan.document.rows = []
  fit : plan.document.rows ≠ [] →
    Fit table plan.document.headers plan.create plan.insert plan.document.rows

theorem planFor_ofText {t : Text} {plan : Plan} (made : Plan.ofText table t = .ok plan) :
    PlanFor table plan := by
  obtain ⟨d, first, rest, rfl, documentOf⟩ := exists_documentOf made
  obtain ⟨header, member, -⟩ := documentOf.named
  have some : d.headers ≠ [] := List.ne_nil_of_mem member
  have bare : ∀ header ∈ d.headers, ',' ∉ header :=
    fun header member comma => (documentOf.bare header member ',' comma).2.1 rfl
  have typed : d.headers.length = (ColumnType.inferAll d).length := by
    rw [ColumnType.inferAll, List.length_map, List.length_range]
    rfl
  have creates : Creates (createStatement table d.headers _) table d.headers :=
    creates_createStatement some bare typed
  refine ⟨rfl, creates, insertStatement_eq_nil_iff d.rows, fun full => ?_⟩
  have fills : Fills (insertStatement table d.headers d.rows) table d.headers _ :=
    fills_insertStatement some bare full
  exact ⟨creates, fills, fills.ne_nil, full, documentOf.width⟩

/-- There is no plan for a table without a name or a text without a header. -/
theorem ofText_error {t : Text} {error : Error} (failed : Plan.ofText table t = .error error) :
    (table = [] ∧ error = .invalidTableName table) ∨
      (table ≠ [] ∧ (error = .emptyInput ∨ ∃ reason, error = .invalidHeader reason)) := by
  cases table with
  | nil =>
    cases failed
    exact .inl ⟨rfl, rfl⟩
  | cons c cs =>
    refine .inr ⟨List.cons_ne_nil c cs, ?_⟩
    change (parse t).map (Plan.ofDocument (c :: cs)) = .error error at failed
    cases shape : contentLines t with
    | nil =>
      rw [parse_nil shape] at failed
      cases failed
      exact .inl rfl
    | cons first rest =>
      by_cases nameless : Nameless first
      · rw [parse_nameless shape nameless] at failed
        cases failed
        exact .inr ⟨_, rfl⟩
      · obtain ⟨d, read, -⟩ := parse_document shape nameless
        rw [read] at failed
        cases failed

end QueryDesk.Csv
