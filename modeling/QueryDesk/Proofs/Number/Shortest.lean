import Mathlib.Data.Rat.Floor
import QueryDesk.Number.Decimal
import QueryDesk.Proofs.Number.Nearest

/-!
# The shortest decimal

On the grid of the multiples of a power of ten the search looks at two candidates only. They are
enough, as those nearest to a number lie side by side (`onGrid?_none`), and with seventeen digits
one of them always is (`exists_nearest`). So the decimal that is found reads back
(`nearest_shortest`), none with fewer digits does (`length_shortest_le`), and none with as many is
nearer (`abs_shortest_sub_le`).
-/

set_option autoImplicit false

namespace QueryDesk.Decimal

open Binary64

/-- The units from one multiple of a power of ten to the next. -/
def step (exponent : ℤ) : ℚ := 10 ^ exponent * unitsPerOne

theorem step_pos (exponent : ℤ) : 0 < step exponent := by
  have unit : (0 : ℚ) < unitsPerOne := by exact_mod_cast unitsPerOne_pos
  exact mul_pos (zpow_pos (by norm_num) exponent) unit

theorem step_add (e k : ℤ) : step (e + k) = 10 ^ k * step e := by
  rw [step, step, zpow_add₀ (by norm_num)]
  ring

theorem step_le_step {e e' : ℤ} (le : e ≤ e') : step e ≤ step e' :=
  mul_le_mul_of_nonneg_right (zpow_le_zpow_right₀ (by norm_num) le)
    (by exact_mod_cast unitsPerOne_pos.le)

/-- A multiple of a power of ten as a quotient of natural numbers. -/
theorem mul_step_eq (n : Nat) (exponent : ℤ) : n * step exponent =
    ((n * (unitsPerOne * 10 ^ exponent.toNat) : Nat) / (10 ^ (-exponent).toNat : Nat) : ℚ) := by
  rw [step]
  rcases Int.eq_nat_or_neg exponent with ⟨e, rfl | rfl⟩
  · have none : (-(e : ℤ)).toNat = 0 := by omega
    rw [none, Int.toNat_natCast, zpow_natCast]
    push_cast
    ring
  · have none : (-(e : ℤ)).toNat = 0 := by omega
    rw [none, neg_neg, Int.toNat_natCast, zpow_neg, zpow_natCast]
    push_cast
    ring

variable {code : Nat} {exponent : ℤ}

theorem mul_step_le {a b : Nat} (le : a ≤ b) : (a * step exponent : ℚ) ≤ b * step exponent :=
  mul_le_mul_of_nonneg_right (by exact_mod_cast le) (step_pos exponent).le

/-- No multiple lies between two that follow each other. -/
theorem le_or_succ_le (below n : Nat) : (n * step exponent : ℚ) ≤ below * step exponent ∨
    ((below + 1 : Nat) * step exponent : ℚ) ≤ n * step exponent :=
  (Nat.lt_or_ge below n).symm.imp mul_step_le mul_step_le

/-- A multiple of a power of ten that is nearest to a code can be replaced by one of the two beside
the magnitude with this code. -/
theorem nearest_beside {n below : Nat} (least : below * step exponent ≤ unitsOfCode code)
    (most : unitsOfCode code ≤ (below + 1 : Nat) * step exponent)
    (nearest : Nearest code (n * step exponent)) :
    Nearest code (below * step exponent) ∨ Nearest code ((below + 1 : Nat) * step exponent) := by
  rcases le_or_succ_le below n with under | above
  · exact .inl (nearest.between (.inl ⟨under, least⟩))
  · exact .inr (nearest.between (.inr ⟨most, above⟩))

/-- What is found among two candidates: one that passes, the preferred one if both do, and nothing
only if neither does. -/
theorem candidate_cases (p q : Bool) (first : Prop) [Decidable first] (a b : Nat)
    {found : Option Nat} (search : (if p && q then some (if first then a else b)
      else if p then some a else if q then some b else none) = found) :
    (∀ n, found = some n → (n = a ∧ p = true ∧ (q = true → first)) ∨
      (n = b ∧ q = true ∧ (p = true → ¬ first))) ∧
      (found = none → p = false ∧ q = false) := by
  subst search
  by_cases first <;> cases p <;> cases q <;> simp_all

/-- The answer is the nearer one of the two multiples beside the magnitude, or the only one of them
that is nearest to the code, and there is one unless neither is. -/
theorem onGrid?_cases (code : Nat) (exponent : ℤ) :
    ∃ below : Nat, below * step exponent ≤ unitsOfCode code ∧
      unitsOfCode code < (below + 1 : Nat) * step exponent ∧
      (∀ n, onGrid? code exponent = some n →
        (n = below ∧ Nearest code (below * step exponent) ∧
          (Nearest code ((below + 1 : Nat) * step exponent) →
            2 * unitsOfCode code < (2 * below + 1 : Nat) * step exponent)) ∨
        (n = below + 1 ∧ Nearest code ((below + 1 : Nat) * step exponent) ∧
          (Nearest code (below * step exponent) →
            (2 * below + 1 : Nat) * step exponent ≤ 2 * unitsOfCode code))) ∧
      (onGrid? code exponent = none → ¬ Nearest code (below * step exponent) ∧
        ¬ Nearest code ((below + 1 : Nat) * step exponent)) := by
  unfold onGrid?
  extract_lets finer width value low high readsBack below
  have finer_pos : 0 < finer := Nat.pow_pos (by decide)
  have width_pos : 0 < width := Nat.mul_pos unitsPerOne_pos (Nat.pow_pos (by decide))
  have point (n : Nat) : (n * step exponent : ℚ) = (n * width : Nat) / finer := mul_step_eq n exponent
  have reads (n : Nat) : readsBack n = true ↔ Nearest code (n * step exponent) := by
    have bounds : low = (unitsOfCode (code - 1) + unitsOfCode code) * finer ∧
        high = (unitsOfCode code + unitsOfCode (code + 1)) * finer :=
      ⟨(Nat.add_mul ..).symm, (Nat.add_mul ..).symm⟩
    rw [point, nearest_div_iff finer_pos, ← bounds.1, ← bounds.2, ← Nat.mul_assoc]
    change (if code % 2 = 0 then _ else _ : Bool) = true ↔ _
    split <;> simp only [Bool.and_eq_true, decide_eq_true_eq] <;> omega
  have nearer : 2 * value < (2 * below + 1) * width ↔
      2 * unitsOfCode code < (2 * below + 1 : Nat) * step exponent := by
    rw [point, lt_div_iff₀ (by exact_mod_cast finer_pos), mul_assoc]
    exact_mod_cast Iff.rfl
  obtain ⟨one, neither⟩ := candidate_cases (readsBack below) (readsBack (below + 1))
    (2 * value < (2 * below + 1) * width) below (below + 1) rfl
  refine ⟨below, ?_, ?_, fun n answer => ?_, fun none => ?_⟩
  · rw [point, div_le_iff₀ (by exact_mod_cast finer_pos)]
    exact_mod_cast Nat.div_mul_le_self value width
  · rw [point, lt_div_iff₀ (by exact_mod_cast finer_pos)]
    exact_mod_cast (Nat.div_lt_iff_lt_mul width_pos).1 (Nat.lt_succ_self below)
  · have found := one n answer
    simp only [reads, nearer, not_lt] at found
    exact found
  · rw [← reads, ← reads, Bool.not_eq_true, Bool.not_eq_true]
    exact neither none

/-- An answer is nearest to the code, at most one step above the magnitude, and not farther from it
than any other multiple that is nearest to the code. -/
theorem onGrid?_some {n : Nat} (found : onGrid? code exponent = some n) :
    Nearest code (n * step exponent) ∧
      n * step exponent ≤ unitsOfCode code + step exponent ∧
      ∀ k : Nat, Nearest code (k * step exponent) →
        |n * step exponent - unitsOfCode code| ≤ |k * step exponent - unitsOfCode code| := by
  obtain ⟨below, least, most, one, -⟩ := onGrid?_cases code exponent
  have positive := step_pos exponent
  have distance (k : Nat) := And.intro (neg_abs_le (k * step exponent - unitsOfCode code : ℚ))
    (le_abs_self (k * step exponent - unitsOfCode code : ℚ))
  rcases one n found with ⟨rfl, nearest, choice⟩ | ⟨rfl, nearest, choice⟩
  case inl =>
    push_cast at most
    refine ⟨nearest, by linarith, fun k other => abs_le.2 ?_⟩
    obtain ⟨back, ahead⟩ := distance k
    rcases le_or_succ_le n k with under | above
    · constructor <;> linarith
    · have near := choice (other.between (.inr ⟨by exact_mod_cast most.le, above⟩))
      push_cast at near above
      constructor <;> linarith
  case inr =>
    refine ⟨nearest, by push_cast; linarith, fun k other => abs_le.2 ?_⟩
    obtain ⟨back, ahead⟩ := distance k
    rcases le_or_succ_le below k with under | above
    · have near := choice (other.between (.inl ⟨under, least⟩))
      push_cast at most near ⊢
      constructor <;> linarith
    · constructor <;> linarith

theorem onGrid?_none (none : onGrid? code exponent = none) (n : Nat) :
    ¬ Nearest code (n * step exponent) := by
  intro nearest
  obtain ⟨below, least, most, -, neither⟩ := onGrid?_cases code exponent
  obtain ⟨low, high⟩ := neither none
  rcases nearest_beside least most.le nearest with nearest | nearest
  · exact low nearest
  · exact high nearest

theorem leadingZeros_spec {limit units : Nat} (small : units < unitsPerOne)
    (enough : unitsPerOne ≤ 10 ^ (limit + 1) * units) :
    10 ^ leadingZeros limit units * units < unitsPerOne ∧
      unitsPerOne ≤ 10 ^ (leadingZeros limit units + 1) * units := by
  induction limit generalizing units with
  | zero =>
    simp only [leadingZeros, Nat.pow_zero, Nat.one_mul]
    exact ⟨small, enough⟩
  | succ limit ih =>
    unfold leadingZeros
    split
    case isTrue last =>
      simp only [Nat.pow_zero, Nat.one_mul]
      exact ⟨small, last⟩
    case isFalse more =>
      rw [Nat.pow_succ, Nat.mul_assoc] at enough
      have next := ih (Nat.lt_of_not_le more) enough
      simp only [Nat.pow_succ, Nat.mul_assoc] at next ⊢
      exact next

/-- As many digits as a whole number has, so many powers of ten are not above it. -/
theorem length_ofNat {n k : Nat} : (Text.ofNat n).length ≤ k + 1 ↔ n < 10 ^ (k + 1) :=
  Nat.length_toDigits_le_iff (by decide) (Nat.succ_pos k)

theorem length_ofNat_pos (n : Nat) : 0 < (Text.ofNat n).length := Nat.length_toDigits_pos

theorem step_natCast (k : Nat) : step k = (10 ^ k * unitsPerOne : Nat) := by
  rw [step, zpow_natCast]
  push_cast
  rfl

theorem step_neg (k : Nat) : 10 ^ k * step (-k) = unitsPerOne := by
  rw [← zpow_natCast, ← step_add, neg_add_cancel, step, zpow_zero, one_mul]

/-- A magnitude lies between the powers of ten on both sides of its first digit. -/
theorem pointPosition_spec {units : Nat} (some : 0 < units) :
    step (pointPosition units - 1) ≤ units ∧ units < step (pointPosition units) := by
  unfold pointPosition
  split
  case isTrue large =>
    obtain ⟨k, length⟩ := Nat.exists_eq_succ_of_ne_zero
      (length_ofNat_pos (units / unitsPerOne)).ne'
    have whole : units / unitsPerOne < 10 ^ (k + 1) := length_ofNat.1 length.le
    have least : 10 ^ k ≤ units / unitsPerOne := by
      by_contra less
      cases k with
      | zero => exact less (Nat.div_pos large unitsPerOne_pos)
      | succ k =>
        have := length_ofNat.2 (Nat.lt_of_not_le less)
        omega
    have position : ((k.succ : Nat) : ℤ) - 1 = k := by push_cast; ring
    rw [length, position, step_natCast, step_natCast]
    constructor
    · exact_mod_cast (Nat.le_div_iff_mul_le unitsPerOne_pos).1 least
    · exact_mod_cast (Nat.div_lt_iff_lt_mul unitsPerOne_pos).1 whole
  case isFalse small =>
    have enough : unitsPerOne ≤ 10 ^ (400 + 1) * units :=
      le_trans (by decide +kernel) (Nat.le_mul_of_pos_right _ some)
    obtain ⟨less, least⟩ := leadingZeros_spec (Nat.lt_of_not_le small) enough
    generalize leadingZeros 400 units = k at *
    have power (k : Nat) : (0 : ℚ) < 10 ^ k := by positivity
    have position : -(k : ℤ) - 1 = -(k + 1 : Nat) := by push_cast; ring
    constructor
    · refine le_of_mul_le_mul_left ?_ (power (k + 1))
      rw [position, step_neg]
      exact_mod_cast least
    · refine lt_of_mul_lt_mul_left ?_ (power k).le
      rw [step_neg]
      exact_mod_cast less

/-- Where the seventeenth digit of a magnitude stands, the middles to its neighbours are farther
apart than the multiples of the power of ten. -/
theorem exists_nearest (digits : 10 ^ 16 * step exponent ≤ unitsOfCode code) :
    ∃ n : Nat, Nearest code (n * step exponent) := by
  have positive := step_pos exponent
  have apart : (unitsOfCode code + 5 * 10 ^ 15 * unitsOfCode (code - 1) : ℚ) <
      5 * 10 ^ 15 * unitsOfCode (code + 1) := by exact_mod_cast lt_neighbours code
  -- the first multiple above the lower middle is below the upper one
  have below := Nat.floor_le (a := (unitsOfCode (code - 1) + unitsOfCode code) / 2 / step exponent)
    (div_nonneg (div_nonneg (add_nonneg (Nat.cast_nonneg _) (Nat.cast_nonneg _)) two_pos.le)
      positive.le)
  have above := Nat.lt_floor_add_one
    ((unitsOfCode (code - 1) + unitsOfCode code) / 2 / step exponent : ℚ)
  generalize ⌊((unitsOfCode (code - 1) + unitsOfCode code) / 2 / step exponent : ℚ)⌋₊ = n at *
  rw [le_div_iff₀ positive] at below
  rw [div_lt_iff₀ positive] at above
  refine ⟨n + 1, ?_, ?_, fun _ => ⟨?_, ?_⟩⟩ <;> push_cast <;> linarith

/-- A search through the numbers below a bound finds the first hit. -/
theorem first_of_findSome? {β : Type} {f : Nat → Option β} {bound : Nat} {b : β}
    (found : (List.range bound).findSome? f = some b) :
    ∃ i < bound, f i = some b ∧ ∀ j < i, f j = none := by
  obtain ⟨front, i, back, shape, here, earlier⟩ := List.findSome?_eq_some_iff.1 found
  rw [List.range_eq_range', List.range'_eq_append_iff] at shape
  obtain ⟨k, -, rfl, rest⟩ := shape
  obtain ⟨first, less, -⟩ := List.range'_eq_cons_iff.1 rest.symm
  refine ⟨i, by omega, here, fun j less => earlier j ?_⟩
  rw [List.mem_range'_1]
  omega

/-- The grids are tried from the first digit of the magnitude on, and one of the first seventeen has
an answer. -/
theorem shortest_first {x : Binary64} (some : 0 < x.units) : ∃ i n : Nat,
    onGrid? x.magnitude.val (pointPosition x.units - 1 - i) = .some n ∧
    (∀ j < i, onGrid? x.magnitude.val (pointPosition x.units - 1 - (j : Nat)) = none) ∧
    shortest x = dropZero ⟨n, pointPosition x.units - 1 - i⟩ := by
  have least := (pointPosition_spec some).1
  unfold shortest
  extract_lets position search
  have last : onGrid? x.magnitude.val (position - 1 - (16 : Nat)) ≠ none := by
    have digits : 10 ^ 16 * step (position - 1 - (16 : Nat)) ≤ unitsOfCode x.magnitude.val := by
      rw [← zpow_natCast, ← step_add, sub_add_cancel]
      exact least
    obtain ⟨n, nearest⟩ := exists_nearest digits
    exact fun none => onGrid?_none none n nearest
  have hit : search.isSome = true := by
    rw [List.findSome?_isSome_iff]
    refine ⟨16, by decide, ?_⟩
    rw [Option.isSome_map]
    exact Option.isSome_iff_ne_none.2 last
  obtain ⟨d, found⟩ := Option.isSome_iff_exists.1 hit
  obtain ⟨i, -, here, earlier⟩ := first_of_findSome? found
  obtain ⟨n, answer, rfl⟩ := Option.map_eq_some_iff.1 here
  refine ⟨i, n, answer, fun j less => Option.map_eq_none_iff.1 (earlier j less), ?_⟩
  rw [found]
  rfl

theorem dropZero_mul_step (d : Decimal) :
    (dropZero d).digits * step (dropZero d).exponent = d.digits * step d.exponent := by
  unfold dropZero
  split
  case isTrue zero =>
    have ten : (d.digits : ℚ) = (d.digits / 10 : Nat) * 10 := by
      exact_mod_cast (Nat.div_mul_cancel (Nat.dvd_of_mod_eq_zero zero)).symm
    rw [step_add, ten, zpow_one]
    ring
  case isFalse => rfl

/-- A carry into one more digit leaves a zero behind. -/
theorem dropZero_digits_lt {d : Decimal} {k : Nat} (le : d.digits ≤ 10 ^ (k + 1)) :
    (dropZero d).digits < 10 ^ (k + 1) := by
  have power := Nat.pow_pos (n := k) (show 0 < 10 by decide)
  unfold dropZero
  rw [Nat.pow_succ] at *
  split
  case isTrue =>
    change d.digits / 10 < _
    omega
  case isFalse => omega

variable {x : Binary64}

/-- The shortest decimal is the answer of the first grid that has one, which ends `i` places behind
the first digit of the number. -/
theorem shortest_spec (some : 0 < x.units) : ∃ (top : ℤ) (i n : Nat), step top ≤ x.units ∧
    onGrid? x.magnitude.val (top - i) = .some n ∧
    (∀ j < i, onGrid? x.magnitude.val (top - (j : Nat)) = none) ∧
    shortest x = dropZero ⟨n, top - i⟩ ∧ (Text.ofNat (shortest x).digits).length ≤ i + 1 := by
  obtain ⟨i, n, answer, earlier, made⟩ := shortest_first some
  obtain ⟨least, most⟩ := pointPosition_spec some
  rw [← sub_add_cancel (pointPosition x.units) 1] at most
  generalize pointPosition x.units - 1 = top at *
  refine ⟨top, i, n, least, answer, earlier, made, ?_⟩
  have shift : step (top + 1) = 10 ^ (i + 1) * step (top - i) := by
    rw [← zpow_natCast, ← step_add]
    exact congrArg step (by push_cast; ring)
  have bound : (n * step (top - i) : ℚ) < (10 ^ (i + 1) + 1) * step (top - i) := by
    have near := (onGrid?_some answer).2.1
    change (unitsOfCode x.magnitude.val : ℚ) < _ at most
    linarith
  have less : n < 10 ^ (i + 1) + 1 := by
    exact_mod_cast lt_of_mul_lt_mul_right bound (step_pos _).le
  rw [made, length_ofNat]
  exact dropZero_digits_lt (Nat.le_of_lt_succ less)

/-- The decimal is nearest to the number it is made for. -/
theorem nearest_shortest (some : 0 < x.units) :
    Nearest x.magnitude.val ((shortest x).digits * step (shortest x).exponent) := by
  obtain ⟨top, i, n, -, answer, -, made, -⟩ := shortest_spec some
  rw [made, dropZero_mul_step]
  exact (onGrid?_some answer).1

/-- A decimal with few digits that is nearest to a code can be replaced by one that ends no later
than the digits of the magnitude do and is not farther away. -/
theorem exists_on_grid {d : Decimal} {top : ℤ} {k : Nat} (least : step top ≤ unitsOfCode code)
    (few : (Text.ofNat d.digits).length ≤ k + 1)
    (nearest : Nearest code (d.digits * step d.exponent)) :
    ∃ n : Nat, Nearest code (n * step (top - k)) ∧
      |n * step (top - k) - unitsOfCode code| ≤ |d.digits * step d.exponent - unitsOfCode code| := by
  rcases le_or_gt (top - k) d.exponent with coarse | fine
  case inl =>
    obtain ⟨e, shift⟩ := Int.le.dest coarse
    have same : ((d.digits * 10 ^ e : Nat) * step (top - k) : ℚ) = d.digits * step d.exponent := by
      rw [← shift, step_add, zpow_natCast]
      push_cast
      ring
    exact ⟨d.digits * 10 ^ e, by rwa [same], by rw [same]⟩
  case inr =>
    -- it is below the first digit of the magnitude, which is nearer
    have below : d.digits * step d.exponent ≤ step top := calc
      d.digits * step d.exponent ≤ 10 ^ (k + 1) * step d.exponent :=
        mul_le_mul_of_nonneg_right (by exact_mod_cast (length_ofNat.1 few).le) (step_pos _).le
      _ = step (d.exponent + (k + 1 : Nat)) := by rw [step_add, zpow_natCast]
      _ ≤ step top := step_le_step (by push_cast; omega)
    have same : ((10 ^ k : Nat) * step (top - k) : ℚ) = step top := by
      rw [← sub_add_cancel top k, step_add, zpow_natCast, add_sub_cancel_right]
      push_cast
      rfl
    refine ⟨10 ^ k, ?_, ?_⟩
    · rw [same]
      exact nearest.between (.inl ⟨below, least⟩)
    · rw [same, abs_of_nonpos (by linarith), abs_of_nonpos (by linarith)]
      linarith

/-- No decimal with fewer digits is nearest to the number. -/
theorem length_shortest_le (some : 0 < x.units) {d : Decimal}
    (nearest : Nearest x.magnitude.val (d.digits * step d.exponent)) :
    (Text.ofNat (shortest x).digits).length ≤ (Text.ofNat d.digits).length := by
  obtain ⟨top, i, n, least, -, earlier, -, short⟩ := shortest_spec some
  by_contra fewer
  obtain ⟨k, rfl⟩ := Nat.exists_eq_succ_of_ne_zero
    (show i ≠ 0 by have := length_ofNat_pos d.digits; omega)
  obtain ⟨m, coarse, -⟩ := exists_on_grid (k := k) least (by omega) nearest
  exact onGrid?_none (earlier k (Nat.lt_succ_self k)) m coarse

/-- No decimal with as few digits that is nearest to the number is less far from it. -/
theorem abs_shortest_sub_le (some : 0 < x.units) {d : Decimal}
    (nearest : Nearest x.magnitude.val (d.digits * step d.exponent))
    (few : (Text.ofNat d.digits).length ≤ (Text.ofNat (shortest x).digits).length) :
    |(shortest x).digits * step (shortest x).exponent - x.units| ≤
      |d.digits * step d.exponent - x.units| := by
  obtain ⟨top, i, n, least, answer, -, made, short⟩ := shortest_spec some
  obtain ⟨m, other, nearer⟩ := exists_on_grid least (few.trans short) nearest
  rw [made, dropZero_mul_step]
  exact ((onGrid?_some answer).2.2 m other).trans nearer

theorem units_pos (fraction : x.units % unitsPerOne ≠ 0) : 0 < x.units :=
  Nat.pos_of_ne_zero fun none => fraction (by rw [none, Nat.zero_mod])

/-- A number that is not whole takes digits behind the point. -/
theorem shortest_fraction (fraction : x.units % unitsPerOne ≠ 0) : (shortest x).exponent < 0 := by
  have nearest := nearest_shortest (units_pos fraction)
  by_contra natural
  obtain ⟨e, exponent⟩ := Int.eq_ofNat_of_zero_le (Int.not_lt.1 natural)
  obtain ⟨s, m, fields⟩ := exists_fields x.magnitude.val
  have units : x.units = m * 2 ^ s := fields.units
  have small : s ≤ unitPlaces := by
    by_contra large
    refine fraction (Nat.mod_eq_zero_of_dvd ?_)
    rw [units, unitsPerOne_eq]
    exact Dvd.dvd.mul_left (pow_dvd_pow 2 (Nat.le_of_not_le large)) m
  have one : unitsPerOne = 2 ^ (unitPlaces - s) * 2 ^ s := by
    rw [← Nat.pow_add, Nat.sub_add_cancel small, unitsPerOne_eq]
  -- what ends before the point is a multiple of the last bit's weight
  rw [exponent, step_natCast, ← Nat.cast_mul, one, ← Nat.mul_assoc, ← Nat.mul_assoc] at nearest
  refine fraction ?_
  rw [units, ← fields.eq_of_nearest nearest, Nat.mul_assoc, ← one]
  exact Nat.mul_mod_left ..

end QueryDesk.Decimal
