import QueryDesk.Proofs.Session.Tables
import QueryDesk.Proofs.Store.Headers

/-!
# Inferred types and stored values

A column is inferred to be one of numbers by a grammar that knows more literals than those which a
database with type affinity takes for numbers in text (`Affinity`). What the two have in common are
the ordinary decimal literals: these are read back as numbers, and the others as the text they are
(`importText_affinity`).
-/

set_option autoImplicit false

namespace QueryDesk.Session

open Text Csv

theorem isSome_of_inferFrom {sofar : ColumnType} {values : List Text}
    (number : ColumnType.inferFrom sofar values ≠ .text) :
    ∀ v ∈ values, v ≠ [] → (NumberLiteral.parse? v).isSome = true := by
  induction values generalizing sofar with
  | nil => exact List.forall_mem_nil _
  | cons v vs ih =>
    rw [ColumnType.inferFrom] at number
    split at number
    case isTrue empty =>
      exact List.forall_mem_cons.2 ⟨fun full => absurd (List.isEmpty_iff.1 empty) full, ih number⟩
    case isFalse =>
      cases read : NumberLiteral.parse? v with
      | none =>
        rw [read] at number
        exact absurd rfl number
      | some x =>
        rw [read] at number
        exact List.forall_mem_cons.2 ⟨fun _ => by rw [read]; rfl, ih number⟩

/-- Every field of a column of numbers that is not empty is a number literal. -/
theorem isSome_of_infer {values : List Text} (number : ColumnType.infer values ≠ .text) :
    ∀ v ∈ values, v ≠ [] → (NumberLiteral.parse? v).isSome = true := by
  rw [ColumnType.infer] at number
  split at number
  case isTrue => exact absurd rfl number
  case isFalse => exact isSome_of_inferFrom number

theorem type_eq_infer {doc : Document} {j : Nat} {type : ColumnType}
    (typed : (ColumnType.inferAll doc)[j]? = some type) :
    type = ColumnType.infer (doc.column j) := by
  rw [ColumnType.inferAll, List.getElem?_map] at typed
  obtain ⟨i, here, rfl⟩ := Option.map_eq_some_iff.1 typed
  obtain ⟨inside, rfl⟩ := List.getElem?_eq_some_iff.1 here
  rw [List.getElem_range]

/-- An ordinary decimal literal comes back as a number. Other number literals come back as they
are. -/
inductive ReadsBack (field : Text) : Value → Prop
  | number {value : Value} : Numeral.Literal field → IsNumber value → ReadsBack field value
  | text : ¬ Numeral.Literal field →
      NumberLiteral.Radix field ∨ NumberLiteral.Infinite field ∨ NumberLiteral.Marked field →
      ReadsBack field (.text field)

/-- The relation holds between every field that is not empty, in a column of numbers, and the value
in its place. -/
def NumbersRelate (doc : Document) (rows : List (List Value)) (back : Text → Value → Prop) : Prop :=
  ∀ (i j : Nat) (row : List Text) (field : Text) (type : ColumnType), doc.rows[i]? = some row →
    row[j]? = some field → field ≠ [] → (ColumnType.inferAll doc)[j]? = some type → type ≠ .text →
      ∃ value, rows[i]?.bind (·[j]?) = some value ∧ back field value

variable {σ : Type} {c : Connection σ} {find? : σ → Text → Option TableView}
  {stored : ColumnType → Text → Value} {table t : Text} {doc : Document}

theorem numbersRelate_stored (affinity : Affinity stored)
    (width : ∀ row ∈ doc.rows, row.length = doc.headers.length)
    (trimmed : ∀ row ∈ doc.rows, ∀ field ∈ row, Trimmed field) :
    NumbersRelate doc (doc.rows.map (List.zipWith stored (ColumnType.inferAll doc))) ReadsBack := by
  intro i j row field type here inside full typed number
  have member := List.mem_of_getElem? here
  have trimmed := trimmed row member field (List.mem_of_getElem? inside)
  obtain ⟨type', typed', value⟩ := getElem?_zipWith stored
    ((length_inferAll doc).trans (width row member).symm) inside
  obtain rfl := Option.some.inj (typed'.symm.trans typed)
  refine ⟨stored type' field, by rw [List.getElem?_map, here]; exact value, ?_⟩
  have column : field ∈ doc.column j := List.mem_filterMap.2 ⟨row, member, inside⟩
  have read := isSome_of_infer (type_eq_infer typed ▸ number) field column full
  by_cases literal : Numeral.Literal field
  · exact .number literal (affinity.number number trimmed literal)
  · rw [affinity.other type' trimmed literal]
    exact .text literal ((NumberLiteral.of_isSome_parse? trimmed full read).resolve_left literal)

/-- After a load that has inserted rows into a table of its own, these are all rows of the table. -/
theorem load_declares (declares : c.Declares find? stored) {first : Text} {rest : List Text}
    (documentOf : DocumentOf first rest doc) (full : doc.rows ≠ []) {s s' : Session σ}
    {summary : Summary} (missing : find? s.database table = none)
    (loaded : load c.engine (.ofDocument table doc) s = (.ok summary, s'))
    (there : (find? s'.database table).isSome = true) :
    ∃ view, find? s'.database table = some view ∧ view.types = ColumnType.inferAll doc ∧
      view.rows = doc.rows.map (List.zipWith stored (ColumnType.inferAll doc)) ∧
      view.plain = true := by
  have used : (Plan.ofDocument table doc).insert ≠ [] :=
    fun empty => full ((insertStatement_eq_nil_iff doc.rows).1 empty)
  obtain ⟨d, n, executed, inserted⟩ := exists_of_load used loaded
  rw [create_ofDocument] at executed
  rw [insert_ofDocument full] at inserted
  obtain ⟨st, prepared, ran⟩ := Connection.exists_of_insertRows inserted
  have prepares : c.Prepares find? table doc.headers (ColumnType.inferAll doc) d st := by
    obtain ⟨header, member, -⟩ := documentOf.named
    exact ⟨List.ne_nil_of_mem member, length_inferAll doc, documentOf.bare,
      ⟨s.database, missing, Connection.executeBatch_of_execute executed⟩, prepared⟩
  cases made : find? d table with
  | none =>
    rw [declares.insertEach_missing prepares made ran] at there
    cases there
  | some view =>
    obtain ⟨types, empty, plain⟩ := declares.columns prepares made
    refine ⟨_, declares.insertEach prepares made made rfl plain documentOf.width ran, types, ?_,
      plain⟩
    rw [TableView.add, empty, List.nil_append]

/-- After an import into a table that was missing and is there now, the rows of the text are read
back one for one, if it has any. A field in a column of numbers comes back as a number just if it is
an ordinary decimal literal. Otherwise it is a literal in another base, infinity, or has a byte-order
mark at an end, and comes back as text. -/
theorem importText_affinity (declares : c.Declares find? stored) (affinity : Affinity stored)
    {s s' : Session σ} {summary : Summary} (missing : find? s.database table = none)
    (imported : importText c.engine table t s = (.ok summary, s'))
    (there : (find? s'.database table).isSome = true) :
    ∃ doc, parse t = .ok doc ∧ (doc.rows ≠ [] → ∃ columns rows,
      (run c.engine ("SELECT * FROM ".toList ++ table) s').1 = .ok [⟨columns, rows⟩] ∧
        rows.length = doc.rows.length ∧ NumbersRelate doc rows ReadsBack) := by
  obtain ⟨doc, read, loaded⟩ := exists_of_importText imported
  refine ⟨doc, read, fun full => ?_⟩
  obtain ⟨_, _, documentOf⟩ := exists_documentOf_parse read
  obtain ⟨view, found, types, rows, plain⟩ :=
    load_declares declares documentOf full missing loaded there
  have width : view.columns.length = doc.headers.length := by
    rw [← length_inferAll, ← types, TableView.types, List.length_map]
  have some : view.columns ≠ [] := by
    obtain ⟨header, member, -⟩ := documentOf.named
    exact List.length_pos_iff.1 (width ▸ List.length_pos_of_mem member)
  have filled : ∀ row ∈ view.rows, row.length = view.columns.length := by
    rw [rows]
    refine List.forall_mem_map.2 fun row member => ?_
    rw [List.length_zipWith, documentOf.width row member, length_inferAll, Nat.min_self, width]
  refine ⟨view.names, view.rows, run_select declares.toReads trivial found plain some filled,
    ?_, ?_⟩
  · rw [rows, List.length_map]
  · rw [rows]
    exact numbersRelate_stored affinity documentOf.width
      fun row member field inside => (documentOf.clean row member field inside).2.2

theorem lookUp_demo : Store.lookUp (start Store.demo).database ['t'] = none := by
  rw [start, Store.demo_eq]
  decide +kernel

/-- Texts with one column, imported into a new desk. -/
theorem importText_column {fields : List (List Text)} (read : parse t = .ok ⟨[['n']], fields⟩) :
    ∃ s', importText Store.engine ['t'] t (start Store.demo) =
        (.ok ⟨['t'], 1, fields.length⟩, s') ∧
      Store.lookUp s'.database ['t'] =
        some (viewOf [['n']] (ColumnType.inferAll ⟨[['n']], fields⟩)
          (fields.map (List.zipWith Store.storedText (ColumnType.inferAll ⟨[['n']], fields⟩)))) := by
  have fillable : Fillable IsReserved ['t'] [['n']] :=
    ⟨by decide, List.cons_ne_nil _ _, by decide, by decide⟩
  obtain ⟨s', imported, found, -⟩ := importText_creates (Store.stores_connection IsReserved)
    fillable lookUp_demo read rfl
  exact ⟨s', imported, found⟩

/-- The number one comes back as a number from the same column as a hexadecimal one as text. -/
theorem importText_affinity_mixed :
    ∃ (s' : Session Store.Database) (columns : List Text) (rows : List (List Value)),
      (importText Store.engine ['t'] "n\n1\n0x10\n".toList (start Store.demo)).2 = s' ∧
      (run Store.engine "SELECT * FROM t".toList s').1 = .ok [⟨columns, rows⟩] ∧
      NumbersRelate ⟨[['n']], [[['1']], ["0x10".toList]]⟩ rows ReadsBack := by
  have read : parse "n\n1\n0x10\n".toList = .ok ⟨[['n']], [[['1']], ["0x10".toList]]⟩ := rfl
  obtain ⟨s', imported, found⟩ := importText_column read
  obtain ⟨doc, same, holds⟩ := importText_affinity Store.declares_connection
    Store.affinity_storedText lookUp_demo imported (by rw [found]; rfl)
  cases read.symm.trans same
  obtain ⟨columns, rows, selected, -, relate⟩ := holds (List.cons_ne_nil _ _)
  exact ⟨s', columns, rows, congrArg Prod.snd imported, selected, relate⟩

/-- A hexadecimal number makes a column one of integers, and comes back as text. -/
theorem importText_hexadecimal : ¬ ∀ (σ : Type) (c : Connection σ)
    (find? : σ → Text → Option TableView) (stored : ColumnType → Text → Value),
    c.Declares find? stored → Affinity stored →
    ∀ (table t : Text) (s s' : Session σ) (summary : Summary), find? s.database table = none →
      importText c.engine table t s = (.ok summary, s') →
      (find? s'.database table).isSome = true →
      ∀ (doc : Document) (columns : List Text) (rows : List (List Value)), parse t = .ok doc →
        (run c.engine ("SELECT * FROM ".toList ++ table) s').1 = .ok [⟨columns, rows⟩] →
        NumbersRelate doc rows fun _ value => IsNumber value := by
  intro claim
  have read : parse "n\n0x10\n".toList = .ok ⟨[['n']], [["0x10".toList]]⟩ := rfl
  have typed : ColumnType.inferAll ⟨[['n']], [["0x10".toList]]⟩ = [.integer] := by decide +kernel
  have kept : List.zipWith Store.storedText [.integer] ["0x10".toList] = [.text "0x10".toList] := by
    decide +kernel
  obtain ⟨s', imported, found⟩ := importText_column read
  rw [typed, List.map_singleton, kept] at found
  have selected := run_select (Store.reads_connection fun _ => True) trivial found rfl
    (List.cons_ne_nil _ _) (by decide)
  obtain ⟨value, here, number⟩ := claim _ _ _ _ Store.declares_connection Store.affinity_storedText
    _ _ _ _ _ lookUp_demo imported (by rw [found]; rfl) _ _ _ read selected 0 0 _ _ .integer rfl rfl
    (by decide) (by rw [typed]; rfl) (by decide)
  cases here
  rcases number with ⟨i, same⟩ | ⟨x, same⟩
  · cases same
  · cases same

end QueryDesk.Session
