import Mathlib.Tactic.Ring
import Mathlib.Tactic.Linarith
import QueryDesk.Number.Binary64

/-!
# Rounding to binary64

What the number nearest to a quotient is: a significand of 53 bits times a power of two, at most
half of that power away from the quotient (`ofRatio_rounds`). So a whole number stays one, exactly
if it has 53 bits, and never gets above a power of two that it is below (`exists_isNat_ofRatio`).
A fraction with few digits does not become whole (`Rounds.not_whole`).
-/

set_option autoImplicit false

namespace QueryDesk.Binary64

/-- The binary places of a unit. -/
def unitPlaces : Nat := 1074

theorem unitsPerOne_eq : unitsPerOne = 2 ^ unitPlaces := Nat.one_shiftLeft unitPlaces

theorem unitsPerOne_pos : 0 < unitsPerOne := by
  rw [unitsPerOne_eq]
  exact Nat.two_pow_pos unitPlaces

theorem divNearest_cases (num den : Nat) :
    (divNearest num den = num / den ∧ 2 * (num % den) ≤ den) ∨
      (divNearest num den = num / den + 1 ∧ den ≤ 2 * (num % den)) := by
  unfold divNearest
  dsimp only
  split
  · exact .inr ⟨rfl, by omega⟩
  · exact .inl ⟨rfl, by omega⟩

/-- A quotient is rounded to `m * 2 ^ s`: it is nearest among the multiples of `2 ^ s`, and `m` has
53 bits, or fewer if `s` is zero. -/
structure Rounds (num den s m : Nat) : Prop where
  above : 2 * num ≤ 2 * (m * (den * 2 ^ s)) + den * 2 ^ s
  below : 2 * (m * (den * 2 ^ s)) ≤ 2 * num + den * 2 ^ s
  most : m ≤ 2 ^ 53
  normal : s = 0 ∨ 2 ^ 52 ≤ m ∧ den * 2 ^ (s + 52) ≤ num

theorem rounds_divNearest (num : Nat) {den : Nat} (pos : 0 < den) :
    Rounds num den ((num / den).log2 - 52) (divNearest num (den <<< ((num / den).log2 - 52))) := by
  generalize shift : (num / den).log2 - 52 = s
  have power : 0 < 2 ^ s := Nat.two_pow_pos s
  have unit : 0 < den * 2 ^ s := Nat.mul_pos pos power
  have short : num / den < 2 ^ (s + 53) :=
    Nat.lt_of_lt_of_le Nat.lt_log2_self (Nat.pow_le_pow_right (by decide) (by omega))
  have long : s = 0 ∨ 2 ^ (s + 52) ≤ num / den := by
    by_cases zero : s = 0
    · exact .inl zero
    · have bits : (num / den).log2 = s + 52 := by omega
      have full : num / den ≠ 0 := by
        intro none
        rw [none, Nat.log2_zero] at bits
        omega
      exact .inr (bits ▸ Nat.log2_self_le full)
  have parts : num / (den * 2 ^ s) = num / den / 2 ^ s := (Nat.div_div_eq_div_mul ..).symm
  have top : num / (den * 2 ^ s) < 2 ^ 53 := by
    rw [parts, Nat.div_lt_iff_lt_mul power, ← Nat.pow_add, Nat.add_comm 53]
    exact short
  have whole := Nat.div_add_mod num (den * 2 ^ s)
  rw [Nat.mul_comm] at whole
  have step : (num / (den * 2 ^ s) + 1) * (den * 2 ^ s) =
      num / (den * 2 ^ s) * (den * 2 ^ s) + den * 2 ^ s := Nat.succ_mul ..
  have rest := Nat.mod_lt num unit
  rw [Nat.shiftLeft_eq]
  have near := divNearest_cases num (den * 2 ^ s)
  generalize divNearest num (den * 2 ^ s) = m at near
  constructor
  case above => rcases near with ⟨rfl, _⟩ | ⟨rfl, _⟩ <;> omega
  case below => rcases near with ⟨rfl, _⟩ | ⟨rfl, _⟩ <;> omega
  case most => rcases near with ⟨rfl, _⟩ | ⟨rfl, _⟩ <;> omega
  case normal =>
    refine long.imp_right fun long => ⟨?_, ?_⟩
    · have floor : 2 ^ 52 ≤ num / (den * 2 ^ s) := by
        rw [parts, Nat.le_div_iff_mul_le power, ← Nat.pow_add, Nat.add_comm 52]
        exact long
      rcases near with ⟨rfl, _⟩ | ⟨rfl, _⟩ <;> omega
    · rw [Nat.mul_comm]
      exact (Nat.le_div_iff_mul_le pos).1 long

theorem unitsOfCode_eq {s m : Nat} (most : m ≤ 2 ^ 53) (normal : s = 0 ∨ 2 ^ 52 ≤ m) :
    unitsOfCode (s * exponentUnit + m) = m * 2 ^ s := by
  unfold unitsOfCode exponentUnit
  split
  case isTrue small =>
    obtain rfl : s = 0 := by omega
    simp
  case isFalse large =>
    rw [Nat.shiftLeft_eq]
    by_cases carry : m = 2 ^ 53
    · have field : (s * 0x10000000000000 + m) / 0x10000000000000 - 1 = s + 1 := by omega
      have fraction : (s * 0x10000000000000 + m) % 0x10000000000000 = 0 := by omega
      rw [field, fraction, carry, Nat.pow_succ]
      ring
    · have field : (s * 0x10000000000000 + m) / 0x10000000000000 - 1 = s := by omega
      have fraction : 0x10000000000000 + (s * 0x10000000000000 + m) % 0x10000000000000 = m := by
        omega
      rw [field, fraction]

/-- The number nearest to a quotient, as far as it is finite. -/
theorem ofRatio_rounds (negative : Bool) (num : Nat) {den : Nat} (pos : 0 < den) :
    ∃ s m, Rounds (num * unitsPerOne) den s m ∧
      (s * exponentUnit + m < infinityCode → (ofRatio negative num den).isFinite = true) ∧
      ((ofRatio negative num den).isFinite = true →
        (ofRatio negative num den).units = m * 2 ^ s) := by
  have rounds := rounds_divNearest (num * unitsPerOne) pos
  refine ⟨_, _, rounds, fun small => ?_, fun finite => ?_⟩
  · exact decide_eq_true (Nat.lt_of_le_of_lt (Nat.min_le_right ..) small)
  · have small : min infinityCode _ < infinityCode := of_decide_eq_true finite
    have code := min_eq_right ((min_lt_iff.1 small).resolve_left (Nat.lt_irrefl _)).le
    have units := unitsOfCode_eq rounds.most (rounds.normal.imp_right And.left)
    rw [← units, ← code]
    rfl

namespace Rounds

variable {num den s m : Nat}

/-- A common factor does not matter. -/
theorem reduce {n : Nat} (pos : 0 < den) (rounds : Rounds (n * den) den s m) :
    2 * n ≤ 2 * (m * 2 ^ s) + 2 ^ s ∧ 2 * (m * 2 ^ s) ≤ 2 * n + 2 ^ s ∧
      (s = 0 ∨ 2 ^ (s + 52) ≤ n) := by
  have weight : m * (den * 2 ^ s) = m * 2 ^ s * den := by ring
  refine ⟨?_, ?_, ?_⟩
  · refine Nat.le_of_mul_le_mul_right ?_ pos
    have above := rounds.above
    rw [weight] at above
    linarith
  · refine Nat.le_of_mul_le_mul_right ?_ pos
    have below := rounds.below
    rw [weight] at below
    linarith
  · refine rounds.normal.imp_right fun normal => Nat.le_of_mul_le_mul_left ?_ pos
    rw [Nat.mul_comm den n]
    exact normal.2

/-- A multiple of the weight is kept. -/
theorem exact {q : Nat} (pos : 0 < den) (rounds : Rounds (q * 2 ^ s * den) den s m) : m = q := by
  obtain ⟨above, below, -⟩ := rounds.reduce pos
  have power : 0 < 2 ^ s := Nat.two_pow_pos s
  have least : 2 * q ≤ 2 * m + 1 := Nat.le_of_mul_le_mul_right (by linarith) power
  have most : 2 * m ≤ 2 * q + 1 := Nat.le_of_mul_le_mul_right (by linarith) power
  omega

/-- A number with 53 bits in front of its last ones is kept. -/
theorem short {a e : Nat} (pos : 0 < den) (rounds : Rounds (a * 2 ^ e * den) den s m)
    (bits : a < 2 ^ 53) : m * 2 ^ s = a * 2 ^ e := by
  obtain ⟨-, -, normal⟩ := rounds.reduce pos
  have least : s ≤ e := by
    rcases normal with rfl | normal
    · exact Nat.zero_le e
    · have upper : a * 2 ^ e < 2 ^ (53 + e) := by
        rw [Nat.pow_add]
        exact Nat.mul_lt_mul_of_pos_right bits (Nat.two_pow_pos e)
      have places := (Nat.pow_lt_pow_iff_right (by decide)).1 (Nat.lt_of_le_of_lt normal upper)
      omega
  obtain ⟨more, rfl⟩ := Nat.exists_eq_add_of_le least
  have split : a * 2 ^ (s + more) = a * 2 ^ more * 2 ^ s := by ring
  rw [split] at rounds ⊢
  rw [rounds.exact pos]

/-- A whole number stays whole. -/
theorem whole {n e : Nat} (pos : 0 < den) (rounds : Rounds (n * 2 ^ e * den) den s m) :
    2 ^ e ∣ m * 2 ^ s := by
  rcases Nat.le_total e s with large | small
  · exact (Nat.pow_dvd_pow 2 large).mul_left m
  · obtain ⟨more, rfl⟩ := Nat.exists_eq_add_of_le small
    have split : n * 2 ^ (s + more) = n * 2 ^ more * 2 ^ s := by ring
    rw [split] at rounds
    rw [rounds.exact pos, ← split]
    exact Nat.dvd_mul_left _ n

/-- A number that is not farther above a power of two than half of the weight there goes down to it,
and one that is not above it stays below. -/
theorem le_power {n e k : Nat} (pos : 0 < den) (rounds : Rounds (n * 2 ^ e * den) den s m)
    (near : 2 * n < 2 * 2 ^ (52 + k) + 2 ^ k) : m * 2 ^ s ≤ 2 ^ (52 + k + e) := by
  obtain ⟨-, below, normal⟩ := rounds.reduce pos
  by_cases small : s + 1 ≤ k + e
  case pos =>
    calc m * 2 ^ s ≤ 2 ^ 53 * 2 ^ s := Nat.mul_le_mul_right _ rounds.most
      _ = 2 ^ (53 + s) := (Nat.pow_add ..).symm
      _ ≤ 2 ^ (52 + k + e) := Nat.pow_le_pow_right (by decide) (by omega)
  case neg =>
    have close : n < 2 ^ (53 + k) := by
      have double : 2 ^ (53 + k) = 2 * 2 ^ (52 + k) := by ring
      have less : 2 ^ k ≤ 2 ^ (52 + k) := Nat.pow_le_pow_right (by decide) (by omega)
      omega
    have weight : s = k + e := by
      rcases normal with rfl | normal
      · omega
      · have upper : n * 2 ^ e < 2 ^ (53 + k + e) := by
          rw [Nat.pow_add]
          exact Nat.mul_lt_mul_of_pos_right close (Nat.two_pow_pos e)
        have places := (Nat.pow_lt_pow_iff_right (by decide)).1 (Nat.lt_of_le_of_lt normal upper)
        omega
    subst weight
    have bound : 2 * m < 2 * 2 ^ 52 + 2 := by
      refine Nat.lt_of_mul_lt_mul_right (a := 2 ^ (k + e)) ?_
      have scaled := Nat.mul_lt_mul_of_pos_right near (Nat.two_pow_pos e)
      have high : 2 ^ (52 + k) * 2 ^ e = 2 ^ 52 * 2 ^ (k + e) := by ring
      have low : 2 ^ k * 2 ^ e = 2 ^ (k + e) := (Nat.pow_add ..).symm
      linarith
    have top : m ≤ 2 ^ 52 := by omega
    calc m * 2 ^ (k + e) ≤ 2 ^ 52 * 2 ^ (k + e) := Nat.mul_le_mul_right _ top
      _ = 2 ^ (52 + k + e) := by ring

/-- What is not above `2 ^ 1023` is finite. -/
theorem finite (rounds : Rounds num den s m) (bound : m * 2 ^ s ≤ 2 ^ (1023 + unitPlaces)) :
    s * exponentUnit + m < infinityCode := by
  have most := rounds.most
  have least : s ≤ 2045 := by
    rcases rounds.normal with rfl | ⟨normal, -⟩
    · exact Nat.zero_le _
    · have power : 2 ^ (52 + s) ≤ 2 ^ (1023 + unitPlaces) := by
        rw [Nat.pow_add]
        exact Nat.le_trans (Nat.mul_le_mul_right _ normal) bound
      have places := (Nat.pow_le_pow_iff_right (by decide)).1 power
      unfold unitPlaces at places
      omega
  unfold infinityCode exponentUnit
  by_cases last : s = 2045
  case neg => omega
  case pos =>
    have exponent : 1023 + unitPlaces = 52 + s := by rw [last]; rfl
    rw [exponent, Nat.pow_add] at bound
    have top := Nat.le_of_mul_le_mul_right bound (Nat.two_pow_pos s)
    omega

/-- A quotient of few digits that is not whole is farther from whole numbers than it is rounded. -/
theorem not_whole (rounds : Rounds (num * 2 ^ unitPlaces) den s m) (few : num < 2 ^ 53)
    (small : den < 2 ^ unitPlaces) (fraction : ¬ den ∣ num) : ¬ 2 ^ unitPlaces ∣ m * 2 ^ s := by
  rintro ⟨r, whole⟩
  obtain ⟨above, below, -, normal⟩ := rounds
  have power := Nat.two_pow_pos unitPlaces
  generalize 2 ^ unitPlaces = unit at *
  have product : m * (den * 2 ^ s) = den * r * unit := by
    rw [Nat.mul_left_comm, whole]
    ring
  rw [product] at above below
  have apart : num ≠ den * r := fun same => fraction ⟨r, same⟩
  have far : 2 * unit ≤ den * 2 ^ s := by
    rcases Nat.lt_or_gt_of_ne apart with less | more
    · have step := Nat.mul_le_mul_right unit (Nat.succ_le_of_lt less)
      rw [Nat.succ_mul] at step
      omega
    · have step := Nat.mul_le_mul_right unit (Nat.succ_le_of_lt more)
      rw [Nat.succ_mul] at step
      omega
  rcases normal with rfl | ⟨-, normal⟩
  · rw [Nat.pow_zero, Nat.mul_one] at far
    omega
  · have split : den * 2 ^ (s + 52) = den * 2 ^ s * 2 ^ 52 := by ring
    have less := Nat.mul_lt_mul_of_pos_right few power
    omega

end Rounds

/-- A finite number of which the magnitude is this whole number. -/
structure IsNat (x : Binary64) (r : Nat) : Prop where
  finite : x.isFinite = true
  units : x.units = r * unitsPerOne

theorem IsNat.isWhole {x : Binary64} {r : Nat} (isNat : IsNat x r) : x.isWhole = true := by
  rw [Binary64.isWhole, isNat.finite, isNat.units, Nat.mul_mod_left]
  rfl

theorem isWhole_zero (negative : Bool) : (zero negative).isWhole = true := by
  cases negative <;> decide

/-- A whole number that is not above `2 ^ 1023`, or not much, is rounded to a whole number. -/
theorem exists_isNat_ofRatio (negative : Bool) {n den k : Nat} (pos : 0 < den)
    (range : 52 + k ≤ 1023) (near : 2 * n < 2 * 2 ^ (52 + k) + 2 ^ k) :
    ∃ r, IsNat (ofRatio negative (n * den) den) r ∧ r ≤ 2 ^ (52 + k) ∧
      ∀ a e, n = a * 2 ^ e → a < 2 ^ 53 → r = n := by
  obtain ⟨s, m, rounds, finite, units⟩ := ofRatio_rounds negative (n * den) pos
  have scaled : n * den * unitsPerOne = n * 2 ^ unitPlaces * den := by
    rw [unitsPerOne_eq]
    ring
  rw [scaled] at rounds
  have power := Nat.two_pow_pos unitPlaces
  have bound := rounds.le_power pos near
  have finite := finite (rounds.finite (Nat.le_trans bound
    (Nat.pow_le_pow_right (by decide) (Nat.add_le_add_right range _))))
  obtain ⟨r, whole⟩ := rounds.whole pos
  rw [Nat.mul_comm (2 ^ unitPlaces) r] at whole
  have isNat : IsNat (ofRatio negative (n * den) den) r := by
    refine ⟨finite, ?_⟩
    rw [units finite, whole, unitsPerOne_eq]
  refine ⟨r, isNat, ?_, ?_⟩
  · rw [whole, Nat.pow_add] at bound
    exact Nat.le_of_mul_le_mul_right bound power
  · rintro a e rfl bits
    have split : a * 2 ^ e * 2 ^ unitPlaces = a * 2 ^ (e + unitPlaces) := by ring
    rw [split] at rounds
    have same := rounds.short pos bits
    rw [whole, ← split] at same
    exact Nat.eq_of_mul_eq_mul_right power same

theorem isWhole_ofRatio (negative : Bool) {n den : Nat} (pos : 0 < den) (small : n < 2 ^ 1023) :
    (ofRatio negative (n * den) den).isWhole = true := by
  have exponent : 1023 = 52 + 971 := rfl
  rw [exponent] at small
  have near : 2 * n < 2 * 2 ^ (52 + 971) + 2 ^ 971 := by
    generalize 2 ^ (52 + 971) = top at small ⊢
    exact Nat.lt_add_right _ ((Nat.mul_lt_mul_left (by decide)).2 small)
  obtain ⟨r, isNat, -⟩ := exists_isNat_ofRatio negative pos (Nat.le_refl 1023) near
  exact isNat.isWhole

theorem not_isWhole_ofRatio (negative : Bool) {num den : Nat} (pos : 0 < den)
    (few : num < 2 ^ 53) (small : den < 2 ^ unitPlaces) (fraction : ¬ den ∣ num) :
    (ofRatio negative num den).isWhole = false := by
  obtain ⟨s, m, rounds, -, units⟩ := ofRatio_rounds negative num pos
  rw [unitsPerOne_eq] at rounds
  rw [isWhole]
  cases finite : (ofRatio negative num den).isFinite with
  | false => rfl
  | true =>
    rw [units finite, unitsPerOne_eq, Bool.true_and, beq_eq_false_iff_ne]
    exact fun whole => rounds.not_whole few small fraction (Nat.dvd_of_mod_eq_zero whole)

/-- A product that is not above `2 ^ 1023`, or not much, stays whole. -/
theorem IsNat.timesNat {x : Binary64} {r c k : Nat} (isNat : IsNat x r) (range : 52 + k ≤ 1023)
    (near : 2 * (r * c) < 2 * 2 ^ (52 + k) + 2 ^ k) :
    ∃ p, IsNat (x.timesNat c) p ∧ p ≤ 2 ^ (52 + k) ∧
      ∀ a e, r * c = a * 2 ^ e → a < 2 ^ 53 → p = r * c := by
  have same : x.timesNat c = ofRatio x.negative (r * c * unitsPerOne) unitsPerOne := by
    rw [Binary64.timesNat, if_pos isNat.finite, isNat.units, Nat.mul_right_comm]
  rw [same]
  exact exists_isNat_ofRatio _ unitsPerOne_pos range near

/-- So does a sum. -/
theorem IsNat.plusNat {x : Binary64} {r c k : Nat} (isNat : IsNat x r) (range : 52 + k ≤ 1023)
    (near : 2 * (r + c) < 2 * 2 ^ (52 + k) + 2 ^ k) :
    ∃ p, IsNat (x.plusNat c) p ∧ p ≤ 2 ^ (52 + k) ∧
      ∀ a e, r + c = a * 2 ^ e → a < 2 ^ 53 → p = r + c := by
  have same : x.plusNat c = ofRatio false ((r + c) * unitsPerOne) unitsPerOne := by
    rw [Binary64.plusNat, if_pos isNat.finite, isNat.units, Nat.add_mul]
  rw [same]
  exact exists_isNat_ofRatio _ unitsPerOne_pos range near

end QueryDesk.Binary64
