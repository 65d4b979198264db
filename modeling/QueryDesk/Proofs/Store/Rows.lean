import QueryDesk.Proofs.Engine.Tables
import QueryDesk.Store.Batch

/-!
# Tables of a store

How a store finds its tables after one is added (`find?_add`) or gets more rows (`find?_append`), and
what it does with a row of texts that is inserted into all columns of a table: the row is put at the
end, with every text as its own column keeps it (`insertRows_texts`).
-/

set_option autoImplicit false

namespace QueryDesk.Store

open Text Statement

theorem sameWord_refl (a : Text) : sameWord a a = true := beq_self_eq_true _

theorem sameWord_trans {a b c : Text} (first : sameWord a b = true) (second : sameWord b c = true) :
    sameWord a c = true := by
  rw [sameWord, beq_iff_eq] at *
  exact first.trans second

theorem sameWord_comm (a b : Text) : sameWord a b = sameWord b a := BEq.comm

variable {t : Table} {d : Database} {table other : Text} {row : List Text} {rows : List (List Value)}

theorem find?_add (missing : d.find? table = none) (columns : List Column) :
    (d.add ⟨table, columns, []⟩).find? table = some ⟨table, columns, []⟩ := by
  rw [Database.find?] at missing
  rw [Database.find?, Database.add, List.find?_append, missing, Option.none_or]
  exact List.find?_cons_of_pos (sameWord_refl table)

theorem find?_add_other (apart : sameWord other table = false) (columns : List Column) :
    (d.add ⟨table, columns, []⟩).find? other = d.find? other := by
  have new : [Table.mk table columns []].find? (fun t => sameWord t.name other) = none :=
    List.find?_cons_of_neg (by rw [sameWord_comm, apart]; exact Bool.false_ne_true)
  rw [Database.find?, Database.add, List.find?_append, new, Option.or_none, ← Database.find?]

/-- Every table is found under the same name as before, and has more rows if it is the one. -/
theorem find?_append (d : Database) (table other : Text) (rows : List (List Value)) :
    (d.append table rows).find? other = (d.find? other).map fun t =>
      if sameWord t.name table then { t with rows := t.rows ++ rows } else t := by
  rw [Database.find?, Database.append, List.find?_map, Database.find?]
  congr 2
  funext t
  rw [Function.comp_apply]
  split <;> rfl

theorem sameWord_of_find? (found : d.find? table = some t) : sameWord t.name table = true := by
  rw [Database.find?] at found
  have named := List.find?_some found
  exact named

theorem find?_append_same (found : d.find? table = some t) (rows : List (List Value)) :
    (d.append table rows).find? table = some { t with rows := t.rows ++ rows } := by
  rw [find?_append, found, Option.map_some, if_pos (sameWord_of_find? found)]

theorem find?_append_other (apart : sameWord other table = false) (rows : List (List Value)) :
    (d.append table rows).find? other = d.find? other := by
  rw [find?_append]
  cases found : d.find? other with
  | none => rfl
  | some t =>
    have named := sameWord_of_find? found
    have elsewhere : ¬ sameWord t.name table = true := by
      intro same
      rw [sameWord_comm] at named
      rw [sameWord_trans named same] at apart
      cases apart
    rw [Option.map_some, if_neg elsewhere]

theorem repeatedName?_eq_none_iff (before columns : List Column) :
    repeatedName? before columns = none ↔
      (∀ c ∈ columns, ∀ b ∈ before, sameWord b.name c.name = false) ∧
        Distinct (columns.map Column.name) := by
  induction columns generalizing before with
  | nil => simp [repeatedName?, Distinct]
  | cons c cs ih =>
    rw [repeatedName?, List.forall_mem_cons]
    split
    case isTrue found =>
      obtain ⟨b, member, same⟩ := List.any_eq_true.1 found
      refine iff_of_false (Option.some_ne_none _) fun apart => ?_
      rw [apart.1.1 b member] at same
      cases same
    case isFalse none =>
      have apart : ∀ b ∈ before, sameWord b.name c.name = false := by
        simpa using none
      have both : (∀ c' ∈ cs, ∀ b ∈ c :: before, sameWord b.name c'.name = false) ↔
          (∀ c' ∈ cs, ∀ b ∈ before, sameWord b.name c'.name = false) ∧
            ∀ c' ∈ cs, sameWord c.name c'.name = false := by
        simp only [List.forall_mem_cons]
        exact ⟨fun all => ⟨fun c' member => (all c' member).2, fun c' member => (all c' member).1⟩,
          fun all c' member => ⟨all.2 c' member, all.1 c' member⟩⟩
      have names : Distinct (c.name :: cs.map Column.name) ↔
          (∀ c' ∈ cs, sameWord c.name c'.name = false) ∧ Distinct (cs.map Column.name) := by
        rw [Distinct, List.pairwise_cons, List.forall_mem_map, Distinct]
      rw [ih, both, List.map_cons, names, and_assoc]
      exact ⟨fun all => ⟨⟨apart, all.1⟩, all.2⟩, fun all => ⟨all.1.2, all.2⟩⟩

theorem createTable_new (missing : d.find? table = none) {columns : List Column}
    (distinct : Distinct (columns.map Column.name)) :
    createTable d table true columns = .ok (d.add ⟨table, columns, []⟩) := by
  have none : repeatedName? [] columns = none :=
    (repeatedName?_eq_none_iff [] columns).2 ⟨by simp, distinct⟩
  rw [createTable, missing]
  dsimp only
  rw [none]

theorem createTable_again (found : d.find? table = some t) (columns : List Column) :
    createTable d table true columns = .ok d := by
  rw [createTable, found]
  rfl

/-- A creation of a missing table that succeeds has columns of different names. -/
theorem distinct_of_createTable {columns : List Column} {d₁ : Database}
    (missing : d.find? table = none) (created : createTable d table true columns = .ok d₁) :
    Distinct (columns.map Column.name) := by
  rw [createTable, missing] at created
  dsimp only at created
  split at created
  case h_1 => cases created
  case h_2 none => exact ((repeatedName?_eq_none_iff [] columns).1 none).2

theorem bindRow_replicate (row : List Text) :
    bindRow (List.replicate row.length .parameter) row = row.map Value.text := by
  induction row with
  | nil => rfl
  | cons field fields ih => exact congrArg (Value.text field :: ·) ih

theorem length_bindRow (operands : List Operand) (texts : List Text) :
    (bindRow operands texts).length = operands.length := by
  induction operands generalizing texts with
  | nil => rfl
  | cons operand operands ih =>
    cases operand with
    | literal v => exact congrArg (· + 1) (ih texts)
    | parameter => cases texts <;> exact congrArg (· + 1) (ih _)

/-- A name is found in its own place. -/
theorem findIdx?_distinct {names : List Text} (distinct : Distinct names) {i : Nat}
    (inside : i < names.length) : names.findIdx? (sameWord · names[i]) = some i := by
  rw [List.findIdx?_eq_some_iff_getElem]
  refine ⟨inside, sameWord_refl _, fun j before => ?_⟩
  rw [List.pairwise_iff_getElem.1 distinct j i _ inside before]
  simp

/-- What a table keeps of a row of texts. -/
def kept (t : Table) (row : List Text) : List Value :=
  List.zipWith (fun c field => stored c.type (.text field)) t.columns row

theorem placed_texts (distinct : Distinct (t.columns.map Column.name))
    (width : row.length = t.columns.length) :
    placed t (some (t.columns.map Column.name)) (row.map .text) = kept t row := by
  apply List.ext_getElem
  · simp [placed, kept, width]
  · intro i inside inside'
    simp only [kept, List.length_zipWith] at inside'
    have column : i < (t.columns.map Column.name).length := by
      rw [List.length_map]
      omega
    have found := findIdx?_distinct distinct column
    rw [List.getElem_map] at found
    have field : i < row.length := by omega
    simp only [placed, kept, List.getElem_map, List.getElem_zipWith]
    rw [found]
    simp [field]

theorem misfit?_eq_none {values : List Value} (table : Text)
    (width : values.length = t.columns.length) :
    misfit? t table (some (t.columns.map Column.name)) values = none := by
  have listed : (t.columns.map Column.name).find? (fun n => !t.columns.any
      fun c => sameWord c.name n) = none := by
    refine List.find?_eq_none.2 fun n member => ?_
    obtain ⟨c, inside, rfl⟩ := List.mem_map.1 member
    simpa using ⟨c, inside, sameWord_refl c.name⟩
  rw [misfit?]
  simp only [listed]
  exact if_pos (by rw [List.length_map, width])

/-- One row fits if it is as wide as the table. -/
theorem insertRows_fits (found : d.find? table = some t) {values : List Value}
    (width : values.length = t.columns.length) :
    insertRows d table (some (t.columns.map Column.name)) [values] =
      .ok (d.append table [placed t (some (t.columns.map Column.name)) values]) := by
  rw [insertRows, found]
  dsimp only
  rw [List.findSome?_singleton, misfit?_eq_none table width]
  rfl

theorem insertRows_texts (found : d.find? table = some t)
    (distinct : Distinct (t.columns.map Column.name)) (width : row.length = t.columns.length) :
    insertRows d table (some (t.columns.map Column.name)) [row.map .text] =
      .ok (d.append table [kept t row]) := by
  rw [insertRows_fits found (by rw [List.length_map, width]), placed_texts distinct width]

/-- An insertion goes into a table that is there, with as many values as it lists columns. -/
theorem exists_of_insertRows {names : List Text} {values : List Value} {d' : Database}
    (inserted : insertRows d table (some names) [values] = .ok d') :
    ∃ t, d.find? table = some t ∧ values.length = names.length ∧
      d' = d.append table [placed t (some names) values] := by
  rw [insertRows] at inserted
  split at inserted
  case h_1 => cases inserted
  case h_2 t found =>
    rw [List.findSome?_singleton] at inserted
    split at inserted
    case h_1 => cases inserted
    case h_2 fits =>
      rw [misfit?] at fits
      split at fits
      case h_1 => cases fits
      case h_2 =>
        split at fits
        case isTrue same => exact ⟨t, found, same, (Except.ok.inj inserted).symm⟩
        case isFalse => cases fits

end QueryDesk.Store
