import Mathlib.Data.List.MinMax
import QueryDesk.Csv.ColumnType

/-!
# The type of a column as a maximum

Types are in the order integer, real, text. Inference stops at the first value that is no number,
and it takes text for a column of empty values, but what it returns is the greatest of the types of
the single values (`infer_eq`). Everything about the order of the values, about empty ones and about
values that are added follows from that: `infer_joins`.
-/

set_option autoImplicit false

namespace QueryDesk

namespace ColumnType

/-- The place of a type in the order. -/
def rank : ColumnType → Nat
  | .integer => 0
  | .real => 1
  | .text => 2

theorem rank_injective : Function.Injective rank := by
  intro a b same
  cases a <;> cases b <;> first | rfl | cases same

instance : LinearOrder ColumnType := LinearOrder.lift' rank rank_injective

theorem integer_le (type : ColumnType) : integer ≤ type := Nat.zero_le type.rank

theorem le_text (type : ColumnType) : type ≤ text := by cases type <;> decide

/-- The type of a column with this value alone. -/
def ofValue (v : Text) : ColumnType :=
  match NumberLiteral.parse? v with
  | none => .text
  | some x => if x.isWhole then .integer else .real

/-- The values that have a say. -/
def counted (values : List Text) : List Text := values.filter (!·.isEmpty)

/-- Whether a value is not empty. -/
def HasValue (values : List Text) : Prop := ∃ v ∈ values, v ≠ []

/-- The greatest type of a value that counts, if there is one. -/
def greatest (values : List Text) : WithBot ColumnType := ((counted values).map ofValue).maximum

theorem counted_ne_nil_iff (values : List Text) : counted values ≠ [] ↔ HasValue values := by
  simp [counted, HasValue]

theorem counted_append (a b : List Text) : counted (a ++ b) = counted a ++ counted b :=
  List.filter_append ..

theorem greatest_append (a b : List Text) :
    greatest (a ++ b) = max (greatest a) (greatest b) := by
  rw [greatest, counted_append, List.map_append, List.maximum_append, greatest, greatest]

theorem greatest_cons {v : Text} (full : v ≠ []) (vs : List Text) :
    greatest (v :: vs) = max ↑(ofValue v) (greatest vs) := by
  have here : counted (v :: vs) = v :: counted vs := List.filter_cons_of_pos (by simp [full])
  rw [greatest, here, List.map_cons, List.maximum_cons, greatest]

theorem greatest_eq_bot_iff (values : List Text) : greatest values = ⊥ ↔ ¬ HasValue values := by
  rw [greatest, List.maximum_eq_bot, List.map_eq_nil_iff, ← counted_ne_nil_iff, not_not]

theorem inferFrom_cons {sofar : ColumnType} (number : sofar ≤ real) {v : Text} (full : v ≠ [])
    (vs : List Text) : inferFrom sofar (v :: vs) =
      if ofValue v = text then text else inferFrom (max sofar (ofValue v)) vs := by
  rw [inferFrom, if_neg (by simp [full]), ofValue]
  cases NumberLiteral.parse? v with
  | none => rfl
  | some x =>
    cases whole : x.isWhole with
    | true =>
      simp only [whole, if_true]
      rw [if_neg (by decide), max_eq_left (integer_le sofar)]
    | false =>
      simp only [whole, Bool.false_eq_true, if_false]
      rw [if_neg (by decide), max_eq_right number]

theorem ofValue_le_real {v : Text} (number : ofValue v ≠ text) : ofValue v ≤ real := by
  cases type : ofValue v with
  | integer => exact integer_le real
  | real => exact le_rfl
  | text => exact absurd type number

/-- Stopping at a text loses nothing, as no type is above it. -/
theorem max_text (type : WithBot ColumnType) : max ↑text type = ↑text := by
  refine max_eq_left ?_
  cases type with
  | bot => exact bot_le
  | coe type => exact WithBot.coe_le_coe.2 (le_text type)

/-- Inference goes on to the greatest of the type so far and the types that come. -/
theorem inferFrom_eq {sofar : ColumnType} (number : sofar ≤ real) (values : List Text) :
    ↑(inferFrom sofar values) = max (↑sofar : WithBot ColumnType) (greatest values) := by
  induction values generalizing sofar with
  | nil => exact (max_eq_left (bot_le (a := (↑sofar : WithBot ColumnType)))).symm
  | cons v vs ih =>
    by_cases full : v = []
    case pos =>
      subst full
      exact ih number
    case neg =>
      rw [inferFrom_cons number full, greatest_cons full]
      split
      case isTrue stop => rw [stop, max_text, max_comm, max_text]
      case isFalse more =>
        rw [ih (max_le number (ofValue_le_real more)), WithBot.coe_max, max_assoc]

/-- The type of a column is the greatest type of its values, and text without any. -/
theorem infer_eq (values : List Text) : infer values = (greatest values).unbotD text := by
  have all : values.all (·.isEmpty) = true ↔ ¬ HasValue values := by
    simp [HasValue]
  rw [infer]
  split
  case isTrue none => rw [(greatest_eq_bot_iff values).2 (all.1 none), WithBot.unbotD_bot]
  case isFalse some =>
    have bot : greatest values ≠ ⊥ := fun bot =>
      some (all.2 ((greatest_eq_bot_iff values).1 bot))
    obtain ⟨type, above⟩ := WithBot.ne_bot_iff_exists.1 bot
    have whole := inferFrom_eq (integer_le real) values
    rw [← above, max_eq_right (WithBot.coe_le_coe.2 (integer_le type))] at whole
    rw [← above, WithBot.unbotD_coe, WithBot.coe_inj.1 whole]

theorem coe_infer {values : List Text} (some : HasValue values) :
    ↑(infer values) = greatest values := by
  have bot : greatest values ≠ ⊥ := fun bot => (greatest_eq_bot_iff values).1 bot some
  obtain ⟨type, above⟩ := WithBot.ne_bot_iff_exists.1 bot
  rw [infer_eq, ← above, WithBot.unbotD_coe]

/-- A column with a value is not above a type if none of its values is. -/
theorem infer_le_iff {values : List Text} (some : HasValue values) (type : ColumnType) :
    infer values ≤ type ↔ ∀ v ∈ values, v ≠ [] → ofValue v ≤ type := by
  rw [← WithBot.coe_le_coe, coe_infer some, greatest]
  constructor
  · intro below v member full
    have kept : v ∈ counted values := List.mem_filter.2 ⟨member, by simp [full]⟩
    exact WithBot.coe_le_coe.1
      ((List.le_maximum_of_mem' (List.mem_map_of_mem kept)).trans below)
  · intro each
    refine List.maximum_le_of_forall_le fun type' member => ?_
    obtain ⟨v, kept, rfl⟩ := List.mem_map.1 member
    obtain ⟨member, full⟩ := List.mem_filter.1 kept
    exact WithBot.coe_le_coe.2 (each v member (by simpa using full))

theorem infer_append {a b : List Text} (some : HasValue a) (some' : HasValue b) :
    infer (a ++ b) = max (infer a) (infer b) := by
  have both : HasValue (a ++ b) := by
    obtain ⟨v, member, full⟩ := some
    exact ⟨v, List.mem_append_left _ member, full⟩
  rw [← WithBot.coe_inj, WithBot.coe_max, coe_infer both, coe_infer some, coe_infer some',
    greatest_append]

theorem infer_append_empty (a : List Text) {b : List Text} (none : ¬ HasValue b) :
    infer (a ++ b) = infer a ∧ infer (b ++ a) = infer a := by
  have bot := (greatest_eq_bot_iff b).2 none
  rw [infer_eq, infer_eq, infer_eq, greatest_append, greatest_append, bot, max_bot_right,
    max_bot_left]
  exact ⟨rfl, rfl⟩

theorem infer_perm {a b : List Text} (same : (counted a).Perm (counted b)) :
    infer a = infer b := by
  rw [infer_eq, infer_eq, greatest, greatest, (same.map ofValue).maximum_eq]

/-- More values do not lower the type of a column that has a value. -/
theorem infer_le_append {a : List Text} (some : HasValue a) (b : List Text) :
    infer a ≤ infer (a ++ b) := by
  by_cases value : HasValue b
  case pos =>
    rw [infer_append some value]
    exact le_max_left _ _
  case neg => rw [(infer_append_empty a value).1]

/-- A value of each type. -/
def sample : ColumnType → Text
  | .integer => "1".toList
  | .real => "0.5".toList
  | .text => "x".toList

theorem infer_sample (type : ColumnType) : infer [sample type] = type := by
  cases type <;> decide +kernel

theorem getElem?_inferAll (d : Csv.Document) {i : Nat} (inside : i < d.headers.length) :
    (inferAll d)[i]? = some (infer (d.rows.filterMap (·[i]?))) := by
  have range : (List.range d.columnCount)[i]? = some i := List.getElem?_range inside
  rw [inferAll, List.getElem?_map, range]
  rfl

end ColumnType

namespace Csv.Document

/-- The document with further rows at its end. -/
def withRows (d : Document) (more : List (List Text)) : Document := ⟨d.headers, d.rows ++ more⟩

theorem column_withRows (d : Document) (more : List (List Text)) (i : Nat) :
    (d.withRows more).column i = d.column i ++ more.filterMap (·[i]?) :=
  List.filterMap_append ..

end Csv.Document

namespace ColumnType

theorem getElem?_withRows (d : Csv.Document) {i : Nat} (inside : i < d.headers.length)
    (more : List (List Text)) :
    (inferAll (d.withRows more))[i]? = some (infer (d.column i ++ more.filterMap (·[i]?))) := by
  rw [getElem?_inferAll (d.withRows more) inside, ← Csv.Document.column_withRows]
  rfl

/-- Inference takes the greatest type. For two columns one behind the other that is the greater of
both types, if both have values; empty values and the order make no difference. Each header of a
document has a type, from the fields in its place alone. Further rows do not lower it if there is
a value in that place, and can make any type of it if there is none. -/
theorem infer_joins :
    (∀ a b, HasValue a → HasValue b → infer (a ++ b) = max (infer a) (infer b)) ∧
    (∀ a b, ¬ HasValue b → infer (a ++ b) = infer a ∧ infer (b ++ a) = infer a) ∧
    (∀ a b, (counted a).Perm (counted b) → infer a = infer b) ∧
    ∀ d : Csv.Document, (inferAll d).length = d.headers.length ∧ ∀ i < d.headers.length,
      (inferAll d)[i]? = some (infer (d.rows.filterMap (·[i]?))) ∧
      (HasValue (d.column i) → ∀ more, ∃ type type', (inferAll d)[i]? = some type ∧
        (inferAll (d.withRows more))[i]? = some type' ∧ type ≤ type') ∧
      (¬ HasValue (d.column i) → (inferAll d)[i]? = some text ∧
        ∀ type, ∃ more, (inferAll (d.withRows more))[i]? = some type) := by
  refine ⟨fun a b => infer_append, fun a b => infer_append_empty a, fun a b => infer_perm,
    fun d => ⟨?_, fun i inside => ⟨getElem?_inferAll d inside, ?_, ?_⟩⟩⟩
  · rw [inferAll, List.length_map, List.length_range]
    rfl
  · intro some more
    exact ⟨_, _, getElem?_inferAll d inside, getElem?_withRows d inside more,
      infer_le_append some _⟩
  · intro none
    have alone (more : List Text) : infer (d.column i ++ more) = infer more :=
      (infer_append_empty more none).2
    constructor
    · rw [getElem?_inferAll d inside]
      have nothing := alone []
      rw [List.append_nil] at nothing
      exact congrArg Option.some nothing
    · intro type
      have row : [List.replicate (i + 1) (sample type)].filterMap (·[i]?) = [sample type] := by
        simp
      refine ⟨[List.replicate (i + 1) (sample type)], ?_⟩
      rw [getElem?_withRows d inside, row, alone, infer_sample]

end ColumnType

end QueryDesk
