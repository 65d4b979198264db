import Mathlib.Data.List.Chain
import Mathlib.Data.List.DropRight
import QueryDesk.Proofs.Csv.Columns

/-!
# Plans read back from their statements

The columns of a plan can be read off its statements again: the list between the parentheses is cut
at every comma with a space behind it, and a column at its last space. Nothing in a header stands in
the way, since headers have neither commas nor blanks in them, and so two plans for one table with
the same first statement have the same columns: `ofText_readBack`.
-/

set_option autoImplicit false

namespace QueryDesk.Csv

open Text

/-- The items of a list: what stands between commas with a space behind them, found from the
left. -/
def listItems : Text → List Text
  | ',' :: ' ' :: cs => [] :: listItems cs
  | c :: cs => (listItems cs).modifyHead (c :: ·)
  | [] => [[]]

/-- What comes before the last occurrence of a character, and what comes after it. -/
def cutAtLast (c : Char) (t : Text) : Text × Text :=
  ((t.rdropWhile (· != c)).dropLast, t.rtakeWhile (· != c))

theorem listItems_cons {c : Char} (other : c ≠ ',') (cs : Text) :
    listItems (c :: cs) = (listItems cs).modifyHead (c :: ·) :=
  listItems.eq_2 c cs fun _ comma => absurd comma other

theorem listItems_of_bare {item : Text} (bare : ',' ∉ item) : listItems item = [item] := by
  induction item with
  | nil => rfl
  | cons c cs ih =>
    obtain ⟨other, rest⟩ : ',' ≠ c ∧ ',' ∉ cs := by simpa using bare
    rw [listItems_cons (Ne.symm other), ih rest]
    rfl

theorem listItems_append {item : Text} (bare : ',' ∉ item) (rest : Text) :
    listItems (item ++ ([',', ' '] ++ rest)) = item :: listItems rest := by
  induction item with
  | nil => rfl
  | cons c cs ih =>
    obtain ⟨other, absent⟩ : ',' ≠ c ∧ ',' ∉ cs := by simpa using bare
    rw [List.cons_append, listItems_cons (Ne.symm other), ih absent]
    rfl

/-- A list is read as its items. -/
theorem Lists.listItems_eq {t : Text} {items : List Text} (lists : Lists t items) :
    listItems t = items := by
  obtain ⟨some, bare, rfl⟩ := lists
  induction items with
  | nil => exact absurd rfl some
  | cons first rest ih =>
    obtain ⟨here, others⟩ := List.forall_mem_cons.1 bare
    cases rest with
    | nil =>
      rw [join, List.intercalate_singleton]
      exact listItems_of_bare here
    | cons second more =>
      rw [join, List.intercalate_cons_cons, List.append_assoc, listItems_append here]
      exact congrArg (first :: ·) (ih (List.cons_ne_nil second more) others)

theorem cutAtLast_append {c : Char} (front : Text) {back : Text} (absent : c ∉ back) :
    cutAtLast c (front ++ c :: back) = (front, back) := by
  have inside := ne_of_not_mem fun member => absent (List.mem_reverse.1 member)
  have stops : (c :: front.reverse).head?.any (· != c) = false := by simp
  have turned : (front ++ c :: back).reverse = back.reverse ++ (c :: front.reverse) := by simp
  rw [cutAtLast, List.rdropWhile, List.rtakeWhile, turned, dropWhile_run inside stops,
    takeWhile_run inside stops]
  simp

theorem no_space_sqlName (type : ColumnType) : ' ' ∉ type.sqlName := by
  cases type <;> decide

theorem sqlName_injective : Function.Injective ColumnType.sqlName := by
  intro a b same
  cases a <;> cases b <;> first | rfl | cases same

theorem map_cutAtLast_typedColumns (headers : List Text) (types : List ColumnType) :
    (typedColumns headers types).map (cutAtLast ' ') =
      headers.zip (types.map ColumnType.sqlName) := by
  rw [typedColumns, List.map_map, List.zip_map_right]
  exact List.map_congr_left fun column _ => cutAtLast_append column.1 (no_space_sqlName column.2)

/-- Names and types that go together are known from their pairs. -/
theorem of_zip_sqlNames {headers headers' : List Text} {types types' : List ColumnType}
    (typed : types.length = headers.length) (typed' : types'.length = headers'.length)
    (same : headers.zip (types.map ColumnType.sqlName) =
      headers'.zip (types'.map ColumnType.sqlName)) :
    headers = headers' ∧ types = types' := by
  have fits {headers : List Text} {types : List ColumnType}
      (typed : types.length = headers.length) :
      (headers.zip (types.map ColumnType.sqlName)).unzip =
        (headers, types.map ColumnType.sqlName) :=
    List.unzip_zip (by rw [List.length_map, typed])
  have both := congrArg List.unzip same
  rw [fits typed, fits typed', Prod.mk.injEq] at both
  exact ⟨both.1, List.map_injective_iff.2 sqlName_injective both.2⟩

/-- Every space has a comma in front of it. -/
def Spaced (t : Text) : Prop := t.IsChain fun c d => d = ' ' → c = ','

theorem spaced_cons {t : Text} (solid : ' ' ∉ t) (c : Char) : Spaced (c :: t) := by
  induction t generalizing c with
  | nil => exact .singleton c
  | cons d ds ih =>
    obtain ⟨other, rest⟩ : ' ' ≠ d ∧ ' ' ∉ ds := by simpa using solid
    exact .cons_cons (fun space => absurd space.symm other) (ih rest d)

theorem Spaced.append {t u : Text} (spaced : Spaced t) (spaced' : Spaced u)
    (other : u.head? ≠ some ' ') : Spaced (t ++ u) := by
  refine List.isChain_append.2 ⟨spaced, spaced', fun _ _ d first space => ?_⟩
  rw [Option.mem_def, space] at first
  exact absurd first other

/-- Items without spaces make a list in which only commas have spaces behind them. -/
theorem spaced_join {items : List Text} (solid : ∀ item ∈ items, ' ' ∉ item) :
    Spaced (join [',', ' '] items) := by
  have item {t : Text} (solid : ' ' ∉ t) : Spaced ([',', ' '] ++ t) :=
    .cons_cons (fun _ => rfl) (spaced_cons solid ' ')
  have rest {items : List Text} (solid : ∀ item ∈ items, ' ' ∉ item) :
      Spaced (items.flatMap ([',', ' '] ++ ·)) := by
    induction items with
    | nil => exact .nil
    | cons first more ih =>
      obtain ⟨here, others⟩ := List.forall_mem_cons.1 solid
      refine (item here).append (ih others) ?_
      cases more <;> simp
  cases items with
  | nil => exact .nil
  | cons first more =>
    obtain ⟨here, others⟩ := List.forall_mem_cons.1 solid
    rw [join, intercalate_cons]
    have first_spaced : Spaced first := (spaced_cons here ',').tail
    refine first_spaced.append (rest others) ?_
    cases more <;> simp

/-- The list of columns ends at the only parenthesis with a space behind it: there is none in the
list, and no parenthesis at all comes later. -/
theorem listed_unique {listed listed' values values' between : Text} (spaced : Spaced listed)
    (plain : ')' ∉ between ++ values)
    (same : listed ++ (')' :: ' ' :: (between ++ values)) =
      listed' ++ (')' :: ' ' :: (between ++ values'))) : listed' = listed ∧ values' = values := by
  rcases List.append_eq_append_iff.1 same with ⟨more, rfl, tail⟩ | ⟨more, rfl, tail⟩
  case inl =>
    cases more with
    | nil =>
      have tails := (List.cons.inj (List.cons.inj tail).2).2
      exact ⟨List.append_nil _, (List.append_cancel_left tails).symm⟩
    | cons c cs =>
      have later : ')' ∈ ' ' :: (between ++ values) := by
        rw [(List.cons.inj tail).2]
        exact List.mem_append_right _ List.mem_cons_self
      exact absurd later (List.not_mem_cons_of_ne_of_not_mem (by decide) plain)
  case inr =>
    match more, tail with
    | [], tail =>
      have tails := (List.cons.inj (List.cons.inj tail).2).2
      exact ⟨(List.append_nil _).symm, List.append_cancel_left tails⟩
    | [c], tail => exact absurd (List.cons.inj (List.cons.inj tail).2).1 (by decide)
    | c :: d :: more, tail =>
      obtain ⟨paren, later⟩ := List.cons.inj tail
      obtain rfl := paren
      obtain rfl := (List.cons.inj later).1
      have pair : Spaced [')', ' '] := spaced.infix ⟨listed', more, by simp⟩
      exact absurd (List.isChain_pair.1 pair rfl) (by decide)

theorem createStatement_enclosed (table : Text) (headers : List Text) (types : List ColumnType) :
    createStatement table headers types = "CREATE TABLE IF NOT EXISTS ".toList ++ (table ++
      (" (".toList ++ (join [',', ' '] (typedColumns headers types) ++ ");".toList))) := by
  rw [createStatement_eq]
  simp only [List.append_assoc]
  rfl

/-- The statement that inserts rows with these columns and these values. -/
def insertion (table listed values : Text) : Text :=
  "INSERT INTO ".toList ++ (table ++ (" (".toList ++ (listed ++ (") VALUES (".toList ++
    (values ++ ");".toList)))))

theorem insertStatement_enclosed (table : Text) (headers : List Text) {rows : List (List Text)}
    (full : rows ≠ []) : insertStatement table headers rows = insertion table
      (join [',', ' '] headers) (join [',', ' '] (List.replicate headers.length ['?'])) := by
  rw [insertStatement_eq table headers full, List.map_const']
  simp only [List.append_assoc]
  rfl

theorem insertion_inj {table listed listed' values values' : Text} (spaced : Spaced listed)
    (plain : ')' ∉ values) (same : insertion table listed values = insertion table listed' values') :
    listed' = listed ∧ values' = values := by
  have within (listed values : Text) : listed ++ (") VALUES (".toList ++ (values ++ ");".toList)) =
      (listed ++ (')' :: ' ' :: ("VALUES (".toList ++ values))) ++ ");".toList := by
    simp only [List.append_assoc]
    rfl
  have same := List.append_cancel_left (List.append_cancel_left (List.append_cancel_left same))
  rw [within, within] at same
  have plain' : ')' ∉ "VALUES (".toList ++ values := List.not_mem_append (by decide) plain
  exact listed_unique spaced plain' (List.append_cancel_right same)

/-- What can be read off the statements of a plan: a type for each header, both of them in the first
statement, and in the second the same headers with a placeholder for each. -/
structure ReadsBack (table : Text) (plan : Plan) : Prop where
  typed : plan.types.length = plan.document.headers.length
  create : ∃ listed, plan.create = "CREATE TABLE IF NOT EXISTS ".toList ++
      (table ++ (" (".toList ++ (listed ++ ");".toList))) ∧
    (listItems listed).length = plan.document.headers.length ∧
    (listItems listed).map (cutAtLast ' ') =
      plan.document.headers.zip (plan.types.map ColumnType.sqlName)
  insert : plan.insert = [] ↔ plan.document.rows = []
  filled : plan.document.rows ≠ [] → ∃ listed values,
    (∀ listed' values', plan.insert = insertion table listed' values' ↔
      listed' = listed ∧ values' = values) ∧
    listItems listed = plan.document.headers ∧
    listItems values = List.replicate plan.document.headers.length ['?']

theorem readsBack_ofText {table t : Text} {plan : Plan} (made : Plan.ofText table t = .ok plan) :
    ReadsBack table plan := by
  obtain ⟨d, first, rest, rfl, documentOf⟩ := exists_documentOf made
  obtain ⟨header, member, -⟩ := documentOf.named
  have some : d.headers ≠ [] := List.ne_nil_of_mem member
  have bare : ∀ header ∈ d.headers, ',' ∉ header :=
    fun header member comma => (documentOf.bare header member ',' comma).2.1 rfl
  have solid : ∀ header ∈ d.headers, ' ' ∉ header :=
    fun header member space => absurd (documentOf.bare header member ' ' space).1 (by decide)
  have typed : (ColumnType.inferAll d).length = d.headers.length := by
    rw [ColumnType.inferAll, List.length_map, List.length_range]
    rfl
  refine ⟨typed, ?_, insertStatement_eq_nil_iff d.rows, fun full => ?_⟩
  case refine_1 =>
    have columns := (lists_typedColumns some bare typed.symm).listItems_eq
    refine ⟨_, createStatement_enclosed table d.headers (ColumnType.inferAll d), ?_, ?_⟩
    · rw [columns, typedColumns, List.length_map, List.length_zip, typed, Nat.min_self]
      rfl
    · rw [columns]
      exact map_cutAtLast_typedColumns d.headers (ColumnType.inferAll d)
  case refine_2 =>
    have headers : Lists (join [',', ' '] d.headers) d.headers := ⟨some, bare, rfl⟩
    have places : Lists (join [',', ' '] (List.replicate d.headers.length ['?']))
        (List.replicate d.headers.length ['?']) := by
      refine ⟨by simpa using some, fun place listed => ?_, rfl⟩
      rw [List.eq_of_mem_replicate listed]
      decide
    have plain : ')' ∉ join [',', ' '] (List.replicate d.headers.length ['?']) := by
      intro member
      rcases mem_join member with here | ⟨place, listed, here⟩
      · exact absurd here (by decide)
      · rw [List.eq_of_mem_replicate listed] at here
        exact absurd here (by decide)
    have written : insertStatement table d.headers d.rows = _ :=
      insertStatement_enclosed table d.headers full
    refine ⟨_, _, fun listed' values' => ?_, headers.listItems_eq, places.listItems_eq⟩
    change insertStatement table d.headers d.rows = _ ↔ _
    rw [written]
    constructor
    · exact insertion_inj (spaced_join solid) plain
    · rintro ⟨rfl, rfl⟩
      rfl

/-- The statements of a plan are read back as its headers and types, and given the table the first
statement tells as much as these. -/
theorem ofText_readBack {table t : Text} {plan : Plan} (made : Plan.ofText table t = .ok plan) :
    ReadsBack table plan ∧ ∀ t' plan', Plan.ofText table t' = .ok plan' →
      (plan.create = plan'.create ↔
        plan.document.headers = plan'.document.headers ∧ plan.types = plan'.types) := by
  have readsBack := readsBack_ofText made
  refine ⟨readsBack, fun t' plan' made' => ⟨fun same => ?_, fun same => ?_⟩⟩
  · have readsBack' := readsBack_ofText made'
    obtain ⟨listed, create, -, columns⟩ := readsBack.create
    obtain ⟨listed', create', -, columns'⟩ := readsBack'.create
    have lists := List.append_cancel_left (create.symm.trans (same.trans create'))
    have lists := List.append_cancel_left (List.append_cancel_left lists)
    obtain rfl := List.append_cancel_right lists
    exact of_zip_sqlNames readsBack.typed readsBack'.typed (columns.symm.trans columns')
  · obtain ⟨d, -, -, rfl, -⟩ := exists_documentOf made
    obtain ⟨d', -, -, rfl, -⟩ := exists_documentOf made'
    obtain ⟨headers, types⟩ := same
    change createStatement table d.headers (ColumnType.inferAll d) =
      createStatement table d'.headers (ColumnType.inferAll d')
    exact congrArg₂ (createStatement table) headers types

theorem ofText_readBack_marks :
    Plan.ofText "t".toList "a?,,(b),,a?\n1,2,x,,0.5\n".toList = .ok (.ofDocument "t".toList
      ⟨["a?".toList, [], "(b)".toList, [], "a?".toList],
        [["1".toList, "2".toList, "x".toList, [], "0.5".toList]]⟩) ∧
    ReadsBack "t".toList (.ofDocument "t".toList
      ⟨["a?".toList, [], "(b)".toList, [], "a?".toList],
        [["1".toList, "2".toList, "x".toList, [], "0.5".toList]]⟩) := by
  have made : Plan.ofText "t".toList "a?,,(b),,a?\n1,2,x,,0.5\n".toList =
      .ok (.ofDocument "t".toList
        ⟨["a?".toList, [], "(b)".toList, [], "a?".toList],
          [["1".toList, "2".toList, "x".toList, [], "0.5".toList]]⟩) := rfl
  exact ⟨made, (ofText_readBack made).1⟩

end QueryDesk.Csv
