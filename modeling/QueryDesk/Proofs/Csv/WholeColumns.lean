import QueryDesk.Proofs.Csv.Inference
import QueryDesk.Proofs.Number.Whole

/-!
# Columns of whole numbers

The type of a column of numbers says whether all of them are whole, although each is rounded before
it is looked at: exactly for numbers of up to fifteen digits, and without taking a whole number for
a fraction below `2 ^ 1023` (`whole_through_binary64`).
-/

set_option autoImplicit false

namespace QueryDesk.ColumnType

open NumberLiteral

theorem ofValue_of_parse? {v : Text} {x : Binary64} (read : parse? v = some x) :
    ofValue v = if x.isWhole then integer else real := by
  rw [ofValue, read]

/-- A number with up to fifteen digits makes a column integer exactly if it is whole. -/
theorem ofValue_short {v : Text} (short : Short v) :
    ofValue v ≤ real ∧ (ofValue v ≤ integer ↔ ∃ z : ℤ, Reads v z) := by
  obtain ⟨q, x, reads, read, iff⟩ := short.isWhole_iff
  have whole : x.isWhole = true ↔ ∃ z : ℤ, Reads v z := by
    rw [iff]
    constructor
    · rintro ⟨z, rfl⟩
      exact ⟨z, reads⟩
    · rintro ⟨z, reads'⟩
      exact ⟨z, reads.unique reads'⟩
  rw [ofValue_of_parse? read, ← whole]
  cases x.isWhole <;> decide

theorem infer_short {values : List Text} (some : HasValue values)
    (short : ∀ v ∈ values, v ≠ [] → Short v) :
    (infer values = integer ↔ ∀ v ∈ values, v ≠ [] → ∃ z : ℤ, Reads v z) ∧
      (infer values = real ↔ ¬ ∀ v ∈ values, v ≠ [] → ∃ z : ℤ, Reads v z) := by
  have number : infer values ≤ real :=
    (infer_le_iff some real).2 fun v member full => (ofValue_short (short v member full)).1
  have whole : infer values = integer ↔ ∀ v ∈ values, v ≠ [] → ∃ z : ℤ, Reads v z := by
    rw [← (integer_le _).ge_iff_eq', infer_le_iff some]
    exact forall₂_congr fun v member => forall_congr' fun full =>
      (ofValue_short (short v member full)).2
  refine ⟨whole, ?_⟩
  rw [← whole]
  cases type : infer values with
  | integer => decide
  | real => decide
  | text => exact absurd (type ▸ number) (by decide)

theorem infer_whole {values : List Text} (some : HasValue values)
    (whole : ∀ v ∈ values, v ≠ [] → ∃ z : ℤ, Reads v z ∧ z.natAbs < 2 ^ 1023) :
    infer values = integer := by
  refine le_antisymm ((infer_le_iff some integer).2 fun v member full => ?_) (integer_le _)
  obtain ⟨z, reads, small⟩ := whole v member full
  obtain ⟨x, read, isWhole⟩ := reads.isWhole small
  rw [ofValue_of_parse? read, isWhole]
  exact le_rfl

/-- Each text that is read as a number is infinity with a sign or without, or a literal for one
rational number; padding around either does not matter. A literal for a whole number below
`2 ^ 1023` is found to be whole after it was rounded, and a number with up to fifteen digits only
if it is. So a column of such numbers is integer if all of them are whole and real otherwise, and a
column of whole numbers below `2 ^ 1023` is always integer. -/
theorem whole_through_binary64 :
    (∀ t, (parse? t).isSome = true → (∃ u, Unpads t u ∧ Infinite u) ∨ ∃! q, Reads t q) ∧
    (∀ u q, Denotes u q → Reads u q) ∧
    (∀ t (z : ℤ), Reads t z → z.natAbs < 2 ^ 1023 →
      ∃ x, parse? t = some x ∧ x.isWhole = true) ∧
    (∀ t, Short t → ∃ q x, Reads t q ∧ parse? t = some x ∧
      (x.isWhole = true ↔ ∃ z : ℤ, q = z)) ∧
    (∀ values, HasValue values → (∀ v ∈ values, v ≠ [] → Short v) →
      (infer values = integer ↔ ∀ v ∈ values, v ≠ [] → ∃ z : ℤ, Reads v z) ∧
      (infer values = real ↔ ¬ ∀ v ∈ values, v ≠ [] → ∃ z : ℤ, Reads v z)) ∧
    ∀ values, HasValue values →
      (∀ v ∈ values, v ≠ [] → ∃ z : ℤ, Reads v z ∧ z.natAbs < 2 ^ 1023) →
      infer values = integer := by
  refine ⟨fun t read => ?_, fun u q denotes => ⟨u, denotes.unpads, denotes⟩,
    fun t z => Reads.isWhole, fun t => Short.isWhole_iff, fun values => infer_short,
    fun values => infer_whole⟩
  obtain ⟨u, unpads, formed⟩ := (isSome_parse?_iff t).1 read
  rcases formed.denotes with infinite | ⟨q, denotes⟩
  · exact .inl ⟨u, unpads, infinite⟩
  · exact .inr ⟨q, ⟨u, unpads, denotes⟩, fun q' reads => reads.unique ⟨u, unpads, denotes⟩⟩

end QueryDesk.ColumnType
