import Mathlib.Algebra.Order.Field.Power
import Mathlib.Algebra.Order.Ring.Rat
import Mathlib.Order.Monotone.Basic
import Mathlib.Tactic.Positivity
import QueryDesk.Proofs.Number.Rounding

/-!
# The nearest number of binary64

The magnitudes that are rounded to a number lie between the middles to its two neighbours, and the
middles themselves belong to the number with the even code (`Nearest`). No magnitude is nearest to
two numbers (`Nearest.unique`), and the one it is nearest to is what a quotient and a decimal are
rounded to (`ofRatio_eq_iff`, `ofDecimal_eq_iff`).
-/

set_option autoImplicit false

namespace QueryDesk.Binary64

/-- A code is a number of binary places and a significand, which is short only without places. -/
structure Fields (code s m : Nat) : Prop where
  parts : code = s * exponentUnit + m
  most : m < 2 ^ 53
  normal : s = 0 ∨ 2 ^ 52 ≤ m

theorem exists_fields (code : Nat) : ∃ s m, Fields code s m := by
  by_cases small : code < exponentUnit
  · refine ⟨0, code, ⟨by omega, ?_, .inl rfl⟩⟩
    unfold exponentUnit at small
    omega
  · have rest := Nat.mod_lt code (show 0 < exponentUnit by decide)
    have whole := Nat.div_add_mod code exponentUnit
    refine ⟨code / exponentUnit - 1, exponentUnit + code % exponentUnit, ⟨?_, ?_, .inr ?_⟩⟩
    all_goals unfold exponentUnit at *; omega

variable {code s m : Nat}

theorem Fields.units (fields : Fields code s m) : unitsOfCode code = m * 2 ^ s := by
  rw [fields.parts, unitsOfCode_eq (Nat.le_of_lt fields.most) fields.normal]

theorem Fields.next (fields : Fields code s m) : unitsOfCode (code + 1) = (m + 1) * 2 ^ s := by
  rw [fields.parts, Nat.add_assoc]
  exact unitsOfCode_eq fields.most (fields.normal.imp_right fun normal => by omega)

theorem unitsOfCode_pred (most : m ≤ 2 ^ 53) (long : s = 0 ∨ 2 ^ 52 < m) :
    unitsOfCode (s * exponentUnit + m - 1) = (m - 1) * 2 ^ s := by
  by_cases zero : m = 0
  · obtain rfl : s = 0 := by omega
    subst zero
    rfl
  · have code : s * exponentUnit + m - 1 = s * exponentUnit + (m - 1) := by omega
    rw [code]
    exact unitsOfCode_eq (by omega) (by omega)

/-- Below a power of two the numbers lie twice as close. -/
theorem Fields.previous (fields : Fields code s m) :
    unitsOfCode (code - 1) = (m - 1) * 2 ^ s ∨
      ∃ t, s = t + 1 ∧ m = 2 ^ 52 ∧ unitsOfCode (code - 1) = (2 ^ 53 - 1) * 2 ^ t := by
  obtain ⟨rfl, most, normal⟩ := fields
  by_cases long : s = 0 ∨ 2 ^ 52 < m
  case pos => exact .inl (unitsOfCode_pred (Nat.le_of_lt most) long)
  case neg =>
    obtain ⟨some, short⟩ := not_or.1 long
    obtain ⟨t, rfl⟩ := Nat.exists_eq_succ_of_ne_zero some
    have power : m = 2 ^ 52 := by omega
    have code : t.succ * exponentUnit + m - 1 = t * exponentUnit + (2 ^ 53 - 1) := by
      unfold exponentUnit
      omega
    exact .inr ⟨t, rfl, power, by rw [code]; exact unitsOfCode_eq (by decide) (.inr (by decide))⟩

/-- Above a power of two they lie at least as far apart as below. -/
theorem le_unitsOfCode_succ (most : m ≤ 2 ^ 53) (normal : s = 0 ∨ 2 ^ 52 ≤ m) :
    (m + 1) * 2 ^ s ≤ unitsOfCode (s * exponentUnit + m + 1) := by
  by_cases carry : m = 2 ^ 53
  · have code : s * exponentUnit + m + 1 = (s + 1) * exponentUnit + (2 ^ 52 + 1) := by
      unfold exponentUnit
      omega
    rw [code, unitsOfCode_eq (by decide) (.inr (by decide)), carry, Nat.pow_succ]
    have := Nat.two_pow_pos s
    omega
  · rw [Nat.add_assoc, unitsOfCode_eq (by omega) (by omega)]

theorem unitsOfCode_strictMono : StrictMono unitsOfCode := by
  refine strictMono_nat_of_lt_succ fun code => ?_
  obtain ⟨s, m, fields⟩ := exists_fields code
  rw [fields.units, fields.next]
  exact Nat.mul_lt_mul_of_pos_right (Nat.lt_succ_self m) (Nat.two_pow_pos s)

/-- The magnitude, in units, is not farther than the middles from the number with this code, and at
a middle the code is even. -/
structure Nearest (code : Nat) (q : ℚ) : Prop where
  above : (unitsOfCode (code - 1) + unitsOfCode code : ℚ) ≤ 2 * q
  below : 2 * q ≤ (unitsOfCode code + unitsOfCode (code + 1) : ℚ)
  inside : code % 2 = 1 → (unitsOfCode (code - 1) + unitsOfCode code : ℚ) < 2 * q ∧
    2 * q < (unitsOfCode code + unitsOfCode (code + 1) : ℚ)

theorem nearest_div_iff {num den : Nat} (pos : 0 < den) : Nearest code (num / den : ℚ) ↔
    (unitsOfCode (code - 1) + unitsOfCode code) * den ≤ 2 * num ∧
    2 * num ≤ (unitsOfCode code + unitsOfCode (code + 1)) * den ∧
    (code % 2 = 1 → (unitsOfCode (code - 1) + unitsOfCode code) * den < 2 * num ∧
      2 * num < (unitsOfCode code + unitsOfCode (code + 1)) * den) := by
  have pos' : (0 : ℚ) < den := by exact_mod_cast pos
  have double : (2 * (num / den) : ℚ) = 2 * num / den := (mul_div_assoc ..).symm
  have least (n : Nat) : (n : ℚ) ≤ 2 * (num / den : ℚ) ↔ n * den ≤ 2 * num := by
    rw [double, le_div_iff₀ pos']
    exact_mod_cast Iff.rfl
  have most (n : Nat) : 2 * (num / den : ℚ) ≤ n ↔ 2 * num ≤ n * den := by
    rw [double, div_le_iff₀ pos']
    exact_mod_cast Iff.rfl
  have sums (a b : Nat) : (a + b : ℚ) = (a + b : Nat) := (Nat.cast_add a b).symm
  constructor
  · rintro ⟨above, below, inside⟩
    rw [sums] at above below inside
    rw [sums, ← not_le, ← not_le, least, most] at inside
    rw [least] at above
    rw [most] at below
    exact ⟨above, below, fun odd => by have := inside odd; omega⟩
  · rintro ⟨above, below, inside⟩
    refine ⟨?_, ?_, fun odd => ?_⟩
    · rwa [sums, least]
    · rwa [sums, most]
    · have := inside odd
      rw [sums, sums, ← not_le, ← not_le, least, most]
      omega

theorem Nearest.unique {code code' : Nat} {q : ℚ} (nearest : Nearest code q)
    (nearest' : Nearest code' q) : code = code' := by
  wlog less : code < code' generalizing code code'
  · rcases Nat.lt_or_ge code' code with less' | most
    · exact (this nearest' nearest less').symm
    · omega
  -- the middle above one number is not above the middle below the other one
  exfalso
  have here : unitsOfCode code ≤ unitsOfCode (code' - 1) :=
    unitsOfCode_strictMono.monotone (by omega)
  have there : unitsOfCode (code + 1) ≤ unitsOfCode code' := unitsOfCode_strictMono.monotone less
  have here' : (unitsOfCode code : ℚ) ≤ unitsOfCode (code' - 1) := by exact_mod_cast here
  have there' : (unitsOfCode (code + 1) : ℚ) ≤ unitsOfCode code' := by exact_mod_cast there
  have below := nearest.below
  have above := nearest'.above
  have meet : (unitsOfCode (code + 1) : ℚ) = unitsOfCode code' := by linarith
  have next : code + 1 = code' := unitsOfCode_strictMono.injective (by exact_mod_cast meet)
  rcases Nat.mod_two_eq_zero_or_one code with even | odd
  · have := (nearest'.inside (by omega)).1
    linarith
  · have := (nearest.inside odd).2
    linarith

theorem nearest_units (code : Nat) : Nearest code (unitsOfCode code) := by
  have previous : (unitsOfCode (code - 1) : ℚ) ≤ unitsOfCode code := by
    exact_mod_cast unitsOfCode_strictMono.monotone (Nat.sub_le code 1)
  have next : (unitsOfCode code : ℚ) < unitsOfCode (code + 1) := by
    exact_mod_cast unitsOfCode_strictMono (Nat.lt_succ_self code)
  refine ⟨by linarith, by linarith, fun odd => ⟨?_, by linarith⟩⟩
  have previous' : (unitsOfCode (code - 1) : ℚ) < unitsOfCode code := by
    exact_mod_cast unitsOfCode_strictMono (show code - 1 < code by omega)
  linarith

/-- A magnitude nearer to the number than another one on the same side is nearest as well. -/
theorem Nearest.between {q r : ℚ} (nearest : Nearest code q)
    (side : (q ≤ r ∧ r ≤ unitsOfCode code) ∨ (unitsOfCode code ≤ r ∧ r ≤ q)) : Nearest code r := by
  have self := nearest_units code
  rcases side with ⟨least, most⟩ | ⟨least, most⟩
  · refine ⟨nearest.above.trans (by linarith), le_trans (by linarith) self.below, fun odd => ?_⟩
    exact ⟨(nearest.inside odd).1.trans_le (by linarith), lt_of_le_of_lt (by linarith)
      (self.inside odd).2⟩
  · refine ⟨self.above.trans (by linarith), le_trans (by linarith) nearest.below, fun odd => ?_⟩
    exact ⟨(self.inside odd).1.trans_le (by linarith), lt_of_le_of_lt (by linarith)
      (nearest.inside odd).2⟩

/-- A multiple of the weight of the last bit is nearest to no number but itself. -/
theorem Fields.eq_of_nearest {k : Nat} (fields : Fields code s m)
    (nearest : Nearest code ((k * 2 ^ s : Nat) : ℚ)) : k = m := by
  have above : unitsOfCode (code - 1) + unitsOfCode code ≤ 2 * (k * 2 ^ s) := by
    exact_mod_cast nearest.above
  have below : 2 * (k * 2 ^ s) ≤ unitsOfCode code + unitsOfCode (code + 1) := by
    exact_mod_cast nearest.below
  have power := Nat.two_pow_pos s
  rcases Nat.lt_trichotomy k m with less | same | more
  · exfalso
    have here : unitsOfCode (code - 1) < unitsOfCode code := by
      refine unitsOfCode_strictMono (Nat.sub_lt (Nat.pos_of_ne_zero ?_) Nat.one_pos)
      rintro rfl
      have := fields.parts
      omega
    have step := Nat.mul_le_mul_right (2 ^ s) (Nat.le_sub_one_of_lt less)
    rcases fields.previous with previous | ⟨t, rfl, rfl, previous⟩
    · omega
    · have half : (2 ^ 52 - 1) * 2 ^ (t + 1) ≤ (2 ^ 53 - 1) * 2 ^ t := by
        rw [Nat.pow_succ]
        omega
      omega
  · exact same
  · exfalso
    have step := Nat.mul_le_mul_right (2 ^ s) (Nat.succ_le_of_lt more)
    have next : unitsOfCode code < unitsOfCode (code + 1) :=
      unitsOfCode_strictMono (Nat.lt_succ_self code)
    rw [Nat.succ_eq_add_one, ← fields.next] at step
    omega

/-- The neighbours of a number are so far apart that seventeen digits can tell them apart. -/
theorem lt_neighbours (code : Nat) : unitsOfCode code + 5 * 10 ^ 15 * unitsOfCode (code - 1) <
    5 * 10 ^ 15 * unitsOfCode (code + 1) := by
  obtain ⟨s, m, fields⟩ := exists_fields code
  have most := fields.most
  rw [fields.units, fields.next]
  rcases fields.previous with previous | ⟨t, rfl, rfl, previous⟩
  · rw [previous, ← Nat.mul_assoc, ← Nat.mul_assoc, ← Nat.add_mul]
    exact Nat.mul_lt_mul_of_pos_right (by omega) (Nat.two_pow_pos s)
  · rw [previous, Nat.pow_succ]
    have := Nat.two_pow_pos t
    omega

/-- An odd number is nearest to a quotient only if no other one is as near. -/
theorem divNearest_odd (num : Nat) {den : Nat} (pos : 0 < den) (odd : divNearest num den % 2 = 1) :
    2 * (divNearest num den * den) < 2 * num + den ∧
      2 * num < 2 * (divNearest num den * den) + den := by
  have whole := Nat.div_add_mod num den
  have rest := Nat.mod_lt num pos
  have step : (num / den + 1) * den = num / den * den + den := Nat.succ_mul ..
  rw [Nat.mul_comm] at whole
  unfold divNearest at odd ⊢
  dsimp only at odd ⊢
  split at odd
  case isTrue up => rw [if_pos up]; omega
  case isFalse down => rw [if_neg down]; omega

/-- A quotient rounded to significand and places has the code of these as its nearest one. -/
theorem nearest_divNearest (num : Nat) {den : Nat} (pos : 0 < den) :
    Nearest (((num / den).log2 - 52) * exponentUnit +
      divNearest num (den <<< ((num / den).log2 - 52))) (num / den : ℚ) := by
  have rounds := rounds_divNearest num pos
  have odd := divNearest_odd num
    (Nat.mul_pos pos (Nat.two_pow_pos ((num / den).log2 - 52)))
  rw [← Nat.shiftLeft_eq] at odd
  generalize (num / den).log2 - 52 = t at *
  generalize divNearest num (den <<< t) = m at *
  rw [Nat.shiftLeft_eq] at odd
  obtain ⟨above, below, most, normal⟩ := rounds
  have parity : (t * exponentUnit + m) % 2 = m % 2 := by
    unfold exponentUnit
    omega
  rw [nearest_div_iff pos, parity, unitsOfCode_eq most (normal.imp_right And.left)]
  have weight (n : Nat) : n * 2 ^ t * den = n * (den * 2 ^ t) := by ring
  have next := Nat.mul_le_mul_right den
    (le_unitsOfCode_succ most (normal.imp_right And.left))
  have upper : 2 * (m * (den * 2 ^ t)) + den * 2 ^ t ≤
      (m * 2 ^ t + unitsOfCode (t * exponentUnit + m + 1)) * den := by
    rw [weight, Nat.succ_mul] at next
    rw [Nat.add_mul, weight]
    omega
  by_cases long : t = 0 ∨ 2 ^ 52 < m
  case pos =>
    have lower : (unitsOfCode (t * exponentUnit + m - 1) + m * 2 ^ t) * den =
        (m - 1) * (den * 2 ^ t) + m * (den * 2 ^ t) := by
      rw [unitsOfCode_pred most long, Nat.add_mul, weight, weight]
    have step : (m - 1) * (den * 2 ^ t) = m * (den * 2 ^ t) - den * 2 ^ t := Nat.sub_one_mul ..
    rw [lower, step]
    rcases Nat.eq_zero_or_pos m with rfl | some
    · exact ⟨by omega, by omega, nofun⟩
    · have unit := Nat.le_mul_of_pos_left (den * 2 ^ t) some
      exact ⟨by omega, by omega, fun odd' => by have := odd odd'; omega⟩
  case neg =>
    -- a power of two has no middle close below, and the quotient is not below it
    obtain ⟨some, short⟩ := not_or.1 long
    obtain ⟨least, normal⟩ := normal.resolve_left some
    have whole : den * 2 ^ (t + 52) = m * (den * 2 ^ t) := by
      obtain rfl : m = 2 ^ 52 := by omega
      ring
    have previous : unitsOfCode (t * exponentUnit + m - 1) < m * 2 ^ t := by
      rw [← unitsOfCode_eq most (.inr least)]
      exact unitsOfCode_strictMono (by omega)
    have lower := Nat.mul_lt_mul_of_pos_right previous pos
    rw [weight] at lower
    rw [Nat.add_mul, weight]
    exact ⟨by omega, by omega, fun odd' => by have := odd odd'; omega⟩

theorem codeOfRatio_eq_iff (finite : code < infinityCode) (num : Nat) {den : Nat}
    (pos : 0 < den) :
    codeOfRatio num den = code ↔ Nearest code (num / den * unitsPerOne : ℚ) := by
  have nearest := nearest_divNearest (num * unitsPerOne) pos
  have scaled : ((num * unitsPerOne : Nat) / den : ℚ) = num / den * unitsPerOne := by
    push_cast
    ring
  rw [scaled] at nearest
  unfold codeOfRatio
  constructor
  · intro same
    have small := min_lt_iff.1 (same.trans_lt finite)
    rw [min_eq_right (small.resolve_left (Nat.lt_irrefl _)).le] at same
    exact same ▸ nearest
  · intro nearest'
    have same := nearest.unique nearest'
    exact (min_eq_right (same.trans_lt finite).le).trans same

variable {x : Binary64}

/-- A quotient is rounded to the finite number that it is nearest to. -/
theorem ofRatio_eq_iff (finite : x.isFinite = true) (num : Nat) {den : Nat} (pos : 0 < den) :
    ofRatio x.negative num den = x ↔ Nearest x.magnitude.val (num / den * unitsPerOne : ℚ) := by
  rw [← codeOfRatio_eq_iff (of_decide_eq_true finite) num pos]
  constructor
  · intro same
    exact congrArg (fun y : Binary64 => y.magnitude.val) same
  · intro same
    obtain ⟨negative, magnitude⟩ := x
    rw [ofRatio, Binary64.mk.injEq]
    exact ⟨rfl, Fin.ext same⟩

theorem zero_eq_iff {q : ℚ} (least : 0 ≤ q) (small : 2 * q ≤ 1) :
    zero x.negative = x ↔ Nearest x.magnitude.val q := by
  have zeroth : Nearest 0 q := by
    have one : unitsOfCode 1 = 1 := by decide
    have none : unitsOfCode 0 = 0 := by decide
    refine ⟨?_, ?_, nofun⟩
    · rw [none]
      simpa using least
    · rw [none, one]
      simpa using small
  constructor
  · intro same
    rw [← same]
    exact zeroth
  · intro nearest
    obtain ⟨negative, magnitude⟩ := x
    rw [zero, Binary64.mk.injEq]
    exact ⟨rfl, Fin.ext (zeroth.unique nearest)⟩

/-- What is too great for the format is nearest to no finite number. -/
theorem not_nearest {q : ℚ} (finite : x.isFinite = true) (large : unitsOfCode infinityCode < q) :
    ¬ Nearest x.magnitude.val q := by
  intro nearest
  have most : (unitsOfCode (x.magnitude.val + 1) : ℚ) ≤ unitsOfCode infinityCode := by
    exact_mod_cast unitsOfCode_strictMono.monotone (of_decide_eq_true finite)
  have less : (unitsOfCode x.magnitude.val : ℚ) ≤ unitsOfCode (x.magnitude.val + 1) := by
    exact_mod_cast unitsOfCode_strictMono.monotone (Nat.le_succ _)
  have below := nearest.below
  linarith

theorem unitsOfCode_lt_ten_pow {digits e : Nat} (some : digits ≠ 0) (large : 310 < e) :
    unitsOfCode infinityCode < digits * 10 ^ e * unitsPerOne := by
  have least : unitsOfCode infinityCode < 10 ^ 311 * unitsPerOne := by decide +kernel
  have more : 10 ^ 311 ≤ digits * 10 ^ e :=
    (pow_le_pow_right₀ (by decide) (show 311 ≤ e from large)).trans
      (Nat.le_mul_of_pos_left _ (Nat.pos_of_ne_zero some))
  exact least.trans_le (Nat.mul_le_mul_right _ more)

theorem le_ten_pow {digits e : Nat} (tiny : digits.log2 + 1081 ≤ 3 * e) :
    2 * (digits * unitsPerOne) ≤ 10 ^ e := by
  have digits' : digits ≤ 2 ^ (digits.log2 + 1) := Nat.lt_log2_self.le
  calc 2 * (digits * unitsPerOne) ≤ 2 * (2 ^ (digits.log2 + 1) * unitsPerOne) := by gcongr
    _ = 2 ^ (digits.log2 + 1 + unitPlaces + 1) := by
      rw [unitsPerOne_eq, ← Nat.pow_add, Nat.mul_comm, ← Nat.pow_succ]
    _ ≤ 2 ^ (3 * e) := Nat.pow_le_pow_right (by decide) (by unfold unitPlaces; omega)
    _ = 8 ^ e := Nat.pow_mul 2 3 e
    _ ≤ 10 ^ e := Nat.pow_le_pow_left (by decide) e

/-- A decimal is rounded to the finite number that it is nearest to. -/
theorem ofDecimal_eq_iff (finite : x.isFinite = true) (digits : Nat) (exponent : ℤ) :
    ofDecimal x.negative digits exponent = x ↔
      Nearest x.magnitude.val (digits * 10 ^ exponent * unitsPerOne : ℚ) := by
  unfold ofDecimal
  split
  case isTrue none =>
    rw [none, Nat.cast_zero, zero_mul, zero_mul]
    exact zero_eq_iff le_rfl (by norm_num)
  case isFalse some =>
    by_cases natural : 0 ≤ exponent
    case pos =>
      obtain ⟨e, rfl⟩ := Int.eq_ofNat_of_zero_le natural
      rw [zpow_natCast]
      split
      case isTrue large =>
        have great := unitsOfCode_lt_ten_pow some (by omega : 310 < e)
        refine iff_of_false (fun same => ?_) (not_nearest finite (by exact_mod_cast great))
        rw [← same] at finite
        exact absurd finite (by cases x.negative <;> decide)
      case isFalse =>
        rw [Int.toNat_natCast, Nat.pow_eq, ofRatio_eq_iff finite _ Nat.one_pos, Nat.cast_one,
          div_one]
        push_cast
        exact Iff.rfl
    case neg =>
      obtain ⟨e, rfl⟩ : ∃ e : Nat, exponent = -e := ⟨(-exponent).toNat, by omega⟩
      have power : (0 : ℚ) < 10 ^ e := by positivity
      have quotient : (digits * 10 ^ (-(e : ℤ)) * unitsPerOne : ℚ) =
          digits / (10 ^ e : Nat) * unitsPerOne := by
        rw [zpow_neg, zpow_natCast, ← div_eq_mul_inv]
        push_cast
        rfl
      rw [quotient, if_neg (by omega), if_neg natural, neg_neg, Int.toNat_natCast]
      split
      case isTrue tiny =>
        have small : (2 * (digits * unitsPerOne) : ℚ) ≤ 10 ^ e := by
          exact_mod_cast le_ten_pow tiny
        rw [Nat.cast_pow, Nat.cast_ofNat, div_mul_eq_mul_div]
        refine zero_eq_iff (div_nonneg ?_ power.le) ?_
        · exact mul_nonneg (Nat.cast_nonneg _) (Nat.cast_nonneg _)
        · rwa [← mul_div_assoc, div_le_one power]
      case isFalse => exact ofRatio_eq_iff finite _ (Nat.pow_pos (by decide))

end QueryDesk.Binary64
