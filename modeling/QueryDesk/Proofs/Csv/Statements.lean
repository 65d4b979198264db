import QueryDesk.Csv.Plan
import QueryDesk.Proofs.Csv.Document
import QueryDesk.Proofs.Tokens.Semicolons

/-!
# What headers do to the statements of a plan

Headers are written into both statements as they are. They lose their quotes and blanks before, but
not a semicolon, a backquote or the start of a comment. `ofText_single_iff` says what that comes to:
without backquotes and comments, each statement is a single one just if no header has a semicolon.
-/

set_option autoImplicit false

namespace QueryDesk.Csv

open Text Sql

/-- The header opens neither a comment nor a quoted identifier. -/
structure Unopened (header : Text) : Prop where
  backquote : Token.backquote ∉ header
  dashes : ¬ ['-', '-'] <:+: header
  slash : ¬ ['/', '*'] <:+: header

/-- Text with which a list of columns can be surrounded. -/
def Calm (t : Text) : Prop := ∀ c ∈ t, c ∉ ';' :: '*' :: openers

instance (t : Text) : Decidable (Calm t) := List.decidableBAll _ t

theorem Calm.append {a b : Text} (calm : Calm a) (calm' : Calm b) : Calm (a ++ b) :=
  fun c member => (List.mem_append.1 member).elim (calm c) (calm' c)

theorem Calm.no_opener {t : Text} (calm : Calm t) : ∀ c ∈ t, c ∉ openers :=
  fun c member opens => calm c member (List.mem_cons_of_mem _ (List.mem_cons_of_mem _ opens))

theorem Calm.unopened {t : Text} (calm : Calm t) : Unopened t :=
  have flat := flat_of_no_opener calm.no_opener
  ⟨flat.backquote, flat.dashes, flat.slash⟩

theorem calm_word {t : Text} (word : ∀ c ∈ t, isWordChar c = true) : Calm t := by
  intro c member mark
  have letter := word c member
  simp only [openers, List.mem_cons, List.not_mem_nil, or_false] at mark
  rcases mark with rfl | rfl | rfl | rfl | rfl | rfl | rfl <;> revert letter <;> decide

theorem calm_join {separator : Text} {pieces : List Text} (calm : Calm separator)
    (calm' : ∀ piece ∈ pieces, Calm piece) : Calm (join separator pieces) := by
  intro c member
  rcases mem_join member with here | ⟨piece, inside, here⟩
  · exact calm c here
  · exact calm' piece inside c here

theorem Calm.append_flat {a b : Text} (calm : Calm a) (flat : Flat b) : Flat (a ++ b) :=
  (flat_of_no_opener calm.no_opener).append flat
    (.inl fun c last => calm.no_opener c (List.mem_of_getLast? last))

theorem flat_append_calm {a b : Text} (flat : Flat a) (calm : Calm b) : Flat (a ++ b) := by
  refine flat.append (flat_of_no_opener calm.no_opener) (.inr ⟨fun first => ?_, fun first => ?_⟩)
  · exact calm _ (List.mem_of_head? first) (by decide)
  · exact calm _ (List.mem_of_head? first) (by decide)

theorem flat_join {columns : List Text} (flat : ∀ column ∈ columns, Flat column) :
    Flat (join [',', ' '] columns) := by
  induction columns with
  | nil => exact flat_of_no_opener nofun
  | cons first rest ih =>
    have head := flat first List.mem_cons_self
    cases rest with
    | nil =>
      rw [join, List.intercalate_singleton]
      exact head
    | cons second more =>
      have tail := ih fun column member => flat column (List.mem_cons_of_mem first member)
      have comma : Calm [',', ' '] := by decide
      rw [join, List.intercalate_cons_cons, List.append_assoc]
      exact head.append (comma.append_flat tail) (.inr (by simp))

/-- A list of columns between texts that open nothing, with a semicolon at the end. -/
theorem singleStatement_list_iff {front back : Text} {columns : List Text} (calm : Calm front)
    (calm' : Calm back) (flat : ∀ column ∈ columns, Flat column) :
    SingleStatement (front ++ join [',', ' '] columns ++ back ++ [';']) ↔
      ∀ column ∈ columns, ';' ∉ column := by
  have flatAll : Flat (front ++ join [',', ' '] columns ++ back ++ [';']) :=
    (flat_append_calm (calm.append_flat (flat_join flat)) calm').append
      (flat_of_no_opener (List.forall_mem_singleton.2 (by decide))) (.inr (by decide))
  have bare {t : Text} (calm : Calm t) : ';' ∉ t := fun member => calm _ member List.mem_cons_self
  rw [singleStatement_iff flatAll, List.mem_append, List.mem_append]
  constructor
  · intro absent column member inside
    exact absent (.inl (.inr (mem_join_of_mem member inside)))
  · rintro absent ((here | here) | here)
    · exact bare calm here
    · rcases mem_join here with here | ⟨column, member, inside⟩
      · exact absurd here (by decide)
      · exact absent column member inside
    · exact bare calm' here

theorem calm_sqlName (type : ColumnType) : Calm (' ' :: type.sqlName) := by
  cases type <;> decide

/-- The columns of a table as they are written. -/
def typedColumns (headers : List Text) (types : List ColumnType) : List Text :=
  (headers.zip types).map fun column => column.1 ++ ' ' :: column.2.sqlName

theorem createStatement_eq (table : Text) (headers : List Text) (types : List ColumnType) :
    createStatement table headers types =
      "CREATE TABLE IF NOT EXISTS ".toList ++ table ++ " (".toList ++
        join [',', ' '] (typedColumns headers types) ++ [')'] ++ [';'] := by
  have columns : typedColumns headers types =
      List.zipWith (fun header type => header ++ ' ' :: ColumnType.sqlName type) headers types :=
    List.map_zip_eq_zipWith
  unfold createStatement
  rw [columns, List.append_assoc _ [')']]
  rfl

theorem insertStatement_eq (table : Text) (headers : List Text) {rows : List (List Text)}
    (full : rows ≠ []) : insertStatement table headers rows =
      "INSERT INTO ".toList ++ table ++ " (".toList ++ join [',', ' '] headers ++
        (") VALUES (".toList ++ join [',', ' '] (headers.map fun _ => ['?']) ++ [')']) ++ [';'] := by
  rw [insertStatement, if_neg (by simp [full])]
  simp only [List.append_assoc]
  rfl

theorem flat_typedColumns {headers : List Text} (types : List ColumnType)
    (flat : ∀ header ∈ headers, Flat header) : ∀ column ∈ typedColumns headers types, Flat column := by
  intro column member
  obtain ⟨⟨header, type⟩, inside, rfl⟩ := List.mem_map.1 member
  exact flat_append_calm (flat header (List.of_mem_zip inside).1) (calm_sqlName type)

/-- With a type for each header, the semicolons of the columns are those of the headers. -/
theorem typedColumns_bare_iff {headers : List Text} {types : List ColumnType}
    (typed : headers.length ≤ types.length) :
    (∀ column ∈ typedColumns headers types, ';' ∉ column) ↔ ∀ header ∈ headers, ';' ∉ header := by
  constructor
  · intro absent header member inside
    rw [← List.map_fst_zip typed] at member
    obtain ⟨column, listed, rfl⟩ := List.mem_map.1 member
    exact absent _ (List.mem_map_of_mem listed) (List.mem_append_left _ inside)
  · intro absent column member inside
    obtain ⟨⟨header, type⟩, listed, rfl⟩ := List.mem_map.1 member
    rcases List.mem_append.1 inside with inside | inside
    · exact absent header (List.of_mem_zip listed).1 inside
    · exact calm_sqlName type _ inside List.mem_cons_self

theorem single_createStatement_iff {table : Text} {headers : List Text} {types : List ColumnType}
    (word : ∀ c ∈ table, isWordChar c = true) (typed : headers.length ≤ types.length)
    (flat : ∀ header ∈ headers, Flat header) :
    SingleStatement (createStatement table headers types) ↔ ∀ header ∈ headers, ';' ∉ header := by
  have start : Calm "CREATE TABLE IF NOT EXISTS ".toList := by decide
  rw [createStatement_eq, singleStatement_list_iff
    ((start.append (calm_word word)).append (by decide)) (by decide) (flat_typedColumns types flat)]
  exact typedColumns_bare_iff typed

theorem single_insertStatement_iff {table : Text} {headers : List Text} {rows : List (List Text)}
    (word : ∀ c ∈ table, isWordChar c = true) (full : rows ≠ [])
    (flat : ∀ header ∈ headers, Flat header) :
    SingleStatement (insertStatement table headers rows) ↔ ∀ header ∈ headers, ';' ∉ header := by
  have start : Calm "INSERT INTO ".toList := by decide
  have values : Calm ") VALUES (".toList := by decide
  have places : Calm (join [',', ' '] (headers.map fun _ => ['?'])) := by
    refine calm_join (by decide) fun piece member => ?_
    obtain ⟨-, -, rfl⟩ := List.mem_map.1 member
    decide
  rw [insertStatement_eq table headers full, singleStatement_list_iff
    ((start.append (calm_word word)).append (by decide))
    ((values.append places).append (by decide)) flat]

/-- A plan that is made from a text holds a document of its content lines. -/
theorem exists_documentOf {table t : Text} {plan : Plan} (made : Plan.ofText table t = .ok plan) :
    ∃ d first rest, plan = .ofDocument table d ∧ DocumentOf first rest d := by
  have named : table.isEmpty = false := by
    cases empty : table.isEmpty with
    | false => rfl
    | true =>
      rw [Plan.ofText, empty] at made
      cases made
  rw [Plan.ofText, named] at made
  change (parse t).map (Plan.ofDocument table) = .ok plan at made
  cases read : parse t with
  | error e =>
    rw [read] at made
    cases made
  | ok d =>
    rw [read] at made
    obtain ⟨first, rest, -, documentOf⟩ := documentOf_of_parse read
    exact ⟨d, first, rest, (Except.ok.inj made).symm, documentOf⟩

theorem flat_of_unopened {first : Text} {rest : List Text} {d : Document}
    (documentOf : DocumentOf first rest d) (unopened : ∀ header ∈ d.headers, Unopened header) :
    ∀ header ∈ d.headers, Flat header := by
  intro header member
  have plain := documentOf.bare header member
  obtain ⟨backquote, dashes, slash⟩ := unopened header member
  exact ⟨fun inside => (plain _ inside).2.2.2 rfl, fun inside => (plain _ inside).2.2.1 rfl,
    backquote, dashes, slash⟩

/-- Where no header opens a comment or a quoted identifier, a semicolon in a header is all that can
make more than one statement of either text, and always does. -/
theorem ofText_single_iff {table t : Text} {plan : Plan} (word : ∀ c ∈ table, isWordChar c = true)
    (made : Plan.ofText table t = .ok plan)
    (unopened : ∀ header ∈ plan.document.headers, Unopened header) :
    (SingleStatement plan.create ↔ ∀ header ∈ plan.document.headers, ';' ∉ header) ∧
      (plan.insert ≠ [] →
        (SingleStatement plan.insert ↔ ∀ header ∈ plan.document.headers, ';' ∉ header)) := by
  obtain ⟨d, first, rest, rfl, documentOf⟩ := exists_documentOf made
  have flat := flat_of_unopened documentOf unopened
  refine ⟨single_createStatement_iff word ?_ flat, fun used => ?_⟩
  · rw [ColumnType.inferAll, List.length_map, List.length_range]
    exact Nat.le_refl _
  · refine single_insertStatement_iff word ?_ flat
    rintro none
    exact used (if_pos (by rw [none]; rfl))

theorem ofText_single_people :
    ∃ plan, Plan.ofText "people".toList "id,full name\n1,Ann\n".toList = .ok plan ∧
      SingleStatement plan.create ∧ plan.insert ≠ [] ∧ SingleStatement plan.insert := by
  have made : Plan.ofText "people".toList "id,full name\n1,Ann\n".toList =
      .ok (.ofDocument "people".toList
        ⟨["id".toList, "full_name".toList], [["1".toList, "Ann".toList]]⟩) := rfl
  have word := List.all_eq_true.1 (show "people".toList.all isWordChar = true by decide)
  have calm : ∀ header ∈ ["id".toList, "full_name".toList], Calm header := by decide
  have bare : ∀ header ∈ ["id".toList, "full_name".toList], ';' ∉ header := by decide
  have used : insertStatement "people".toList ["id".toList, "full_name".toList]
      [["1".toList, "Ann".toList]] ≠ [] := by decide
  have single := ofText_single_iff word made fun header member => (calm header member).unopened
  exact ⟨_, made, single.1.2 bare, used, (single.2 used).2 bare⟩

/-- A header can end the statement that creates the table and begin another one. -/
theorem ofText_two_statements : ¬ ∀ (table t : Text) (plan : Plan), table ≠ [] →
    (∀ c ∈ table, isWordChar c = true) → Plan.ofText table t = .ok plan →
      SingleStatement plan.create ∧ (plan.insert ≠ [] → SingleStatement plan.insert) := by
  intro single
  have made : Plan.ofText "t".toList "a/**/TEXT);CREATE/**/TABLE/**/pwned(x\n".toList =
      .ok (.ofDocument "t".toList ⟨["a/**/TEXT);CREATE/**/TABLE/**/pwned(x".toList], []⟩) := rfl
  have word := List.all_eq_true.1 (show ['t'].all isWordChar = true by decide)
  have one := (single _ _ _ (List.cons_ne_nil _ _) word made).1.1
  have two : (Token.scan (Plan.ofDocument "t".toList
      ⟨["a/**/TEXT);CREATE/**/TABLE/**/pwned(x".toList], []⟩).create).countP
        Token.isSemicolon = 2 := by decide +kernel
  rw [two] at one
  exact absurd one (by decide)

end QueryDesk.Csv
