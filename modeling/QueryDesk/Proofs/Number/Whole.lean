import QueryDesk.Proofs.Number.Denotation
import QueryDesk.Proofs.Number.Rounding

/-!
# Whole numbers through binary64

Whether a number is whole is asked after it was rounded, and for the literals of another base after
each digit. No whole number below `2 ^ 1023` is lost on the way: a decimal one is rounded once
(`Binary64.isWhole_ofDecimal`), and the digits of another base lead from one whole number to the
next (`Follows.step`). With up to fifteen digits no fraction is taken for a whole number either
(`Short.isWhole_iff`).
-/

set_option autoImplicit false

namespace QueryDesk

open Text

namespace Binary64

theorem two_pow_lt_ten_pow {e : Nat} (large : 311 ≤ e) : 2 ^ 1023 < 10 ^ e := by
  have least : 2 ^ 1023 < 10 ^ 311 := by decide +kernel
  exact least.trans_le (pow_le_pow_right₀ (by decide) large)

theorem isWhole_ofDecimal (negative : Bool) {digits n : Nat} {exponent : ℤ}
    (value : (digits : ℚ) * 10 ^ exponent = n) (small : n < 2 ^ 1023) :
    (ofDecimal negative digits exponent).isWhole = true := by
  unfold ofDecimal
  split
  case isTrue => exact isWhole_zero negative
  case isFalse some =>
    rcases Int.eq_nat_or_neg exponent with ⟨e, rfl | rfl⟩
    case inl =>
      rw [zpow_natCast] at value
      have whole : digits * 10 ^ e = n := by exact_mod_cast value
      -- the power is left out for numbers above `2 ^ 1023` only
      have short : ¬ 310 < (e : ℤ) := by
        intro large
        have most : 10 ^ e ≤ n := by
          rw [← whole]
          exact Nat.le_mul_of_pos_left _ (Nat.pos_of_ne_zero some)
        exact Nat.lt_asymm small ((two_pow_lt_ten_pow (by omega)).trans_le most)
      have same : digits * Nat.pow 10 e = n * 1 := by
        rw [Nat.mul_one]
        exact whole
      rw [if_neg short, if_pos (Int.natCast_nonneg e), Int.toNat_natCast, same]
      exact isWhole_ofRatio negative Nat.one_pos small
    case inr =>
      have power : 0 < 10 ^ e := Nat.pow_pos (by decide)
      have whole : digits = n * 10 ^ e := by
        rw [zpow_neg, zpow_natCast, ← div_eq_mul_inv, div_eq_iff (by positivity)] at value
        exact_mod_cast value
      rw [if_neg (by omega)]
      split
      case isTrue none =>
        obtain rfl : e = 0 := by omega
        obtain rfl : digits = n := whole.trans (Nat.mul_one n)
        exact isWhole_ofRatio negative Nat.one_pos small
      case isFalse =>
        split
        -- what is too near to zero for its power becomes zero, which is whole
        case isTrue => exact isWhole_zero negative
        case isFalse =>
          rw [neg_neg, Int.toNat_natCast, whole]
          exact isWhole_ofRatio negative power small

/-- With up to fifteen digits and places, what is not whole is not rounded to a whole number. -/
theorem isWhole_ofDecimal_iff (negative : Bool) {digits places : Nat} (few : digits < 10 ^ 15)
    (short : places ≤ 15) :
    (ofDecimal negative digits (-(places : ℤ))).isWhole = true ↔ 10 ^ places ∣ digits := by
  have few' : digits < 2 ^ 53 := few.trans (by decide)
  constructor
  · intro whole
    by_contra fraction
    have some : digits ≠ 0 := by
      rintro rfl
      exact fraction (dvd_zero _)
    have places' : places ≠ 0 := by
      rintro rfl
      exact fraction (one_dvd digits)
    have power : 10 ^ places < 2 ^ unitPlaces :=
      calc 10 ^ places ≤ 10 ^ 15 := pow_le_pow_right₀ (by decide) short
        _ < 2 ^ 50 := by decide
        _ ≤ 2 ^ unitPlaces := pow_le_pow_right₀ (by decide) (by decide)
    have rest := not_isWhole_ofRatio negative (Nat.pow_pos (by decide)) few' power fraction
    rw [ofDecimal, if_neg some, if_neg (by omega), if_neg (by omega), if_neg (by omega), neg_neg,
      Int.toNat_natCast] at whole
    exact Bool.false_ne_true (rest.symm.trans whole)
  · rintro ⟨n, rfl⟩
    have most : n ≤ 10 ^ places * n := Nat.le_mul_of_pos_left n (Nat.pow_pos (by decide))
    refine isWhole_ofDecimal negative (n := n) ?_ ?_
    · rw [zpow_neg, zpow_natCast]
      push_cast
      field_simp
    · exact (most.trans_lt few').trans_le (pow_le_pow_right₀ (by decide) (by decide))

end Binary64

namespace NumberLiteral

open Numeral Binary64

/-- What has been accumulated when the digits so far stand for `n`: this number itself as long as it
has 53 bits, and later a whole number not above the power of two next above `n`. -/
def Follows (x : Binary64) (n : Nat) : Prop :=
  ∃ r, IsNat x r ∧ ((r = n ∧ n < 2 ^ 53) ∨
    ∃ k ≥ 1, 2 ^ (51 + k) ≤ n ∧ n < 2 ^ (52 + k) ∧ r ≤ 2 ^ (52 + k))

theorem follows_zero : Follows (.zero false) 0 :=
  ⟨0, ⟨by decide, by decide⟩, .inl ⟨rfl, Nat.two_pow_pos 53⟩⟩

theorem exists_scale {n : Nat} (large : 2 ^ 53 ≤ n) :
    ∃ k ≥ 1, 2 ^ (51 + k) ≤ n ∧ n < 2 ^ (52 + k) := by
  have some : n ≠ 0 := by
    rintro rfl
    exact absurd large (by decide)
  have bits : 53 ≤ n.log2 := (Nat.le_log2 some).2 large
  refine ⟨n.log2 - 51, by omega, ?_, ?_⟩
  · have exponent : 51 + (n.log2 - 51) = n.log2 := by omega
    rw [exponent]
    exact Nat.log2_self_le some
  · have exponent : 52 + (n.log2 - 51) = n.log2 + 1 := by omega
    rw [exponent]
    exact Nat.lt_log2_self

/-- A sum that is hardly above the power of two next to `n` follows `n`. -/
theorem follows_plusNat {x : Binary64} {r c k n : Nat} (isNat : IsNat x r) (some : 1 ≤ k)
    (low : 2 ^ (51 + k) ≤ n) (high : n < 2 ^ (52 + k)) (small : n < 2 ^ 1023)
    (near : 2 * (r + c) < 2 * 2 ^ (52 + k) + 2 ^ k) : Follows (x.plusNat c) n := by
  have range := (Nat.pow_lt_pow_iff_right (by decide)).1 (low.trans_lt small)
  obtain ⟨p, isNat, most, -⟩ := isNat.plusNat (by omega) near
  exact ⟨p, isNat, .inr ⟨k, some, low, high, most⟩⟩

/-- One digit: a product and a sum, each of them rounded. -/
theorem Follows.step {x : Binary64} {n j d : Nat} (follows : Follows x n) (bits : j ≤ 4)
    (digit : d < 2 ^ j) (small : n * 2 ^ j + d < 2 ^ 1023) :
    Follows ((x.timesNat (2 ^ j)).plusNat d) (n * 2 ^ j + d) := by
  obtain ⟨r, isNat, ⟨rfl, short⟩ | ⟨k, some, low, high, most⟩⟩ := follows
  case inl =>
    -- the product is exact, so only the sum can be too long
    have product : r * 2 ^ j < 2 ^ (52 + (j + 1)) := by
      have exponent : 52 + (j + 1) = 53 + j := by omega
      rw [exponent, Nat.pow_add]
      exact Nat.mul_lt_mul_of_pos_right short (Nat.two_pow_pos j)
    obtain ⟨p, isNat, -, exact⟩ :=
      isNat.timesNat (c := 2 ^ j) (k := j + 1) (by omega) (by omega)
    obtain rfl := exact r j rfl short
    by_cases short' : r * 2 ^ j + d < 2 ^ 53
    case pos =>
      obtain ⟨q, isNat, -, exact'⟩ := isNat.plusNat (k := 1) (by decide) (c := d) (by omega)
      obtain rfl := exact' (r * 2 ^ j + d) 0 (Nat.mul_one _).symm short'
      exact ⟨_, isNat, .inl ⟨rfl, short'⟩⟩
    case neg =>
      obtain ⟨k, some, low, high⟩ := exists_scale (Nat.le_of_not_lt short')
      have weight := Nat.two_pow_pos k
      exact follows_plusNat isNat some low high small (by omega)
  case inr =>
    have scale (e : Nat) : 2 ^ (e + k) * 2 ^ j = 2 ^ (e + (k + j)) := by
      rw [← Nat.pow_add, Nat.add_assoc]
    have low' : 2 ^ (51 + (k + j)) ≤ n * 2 ^ j + d := by
      rw [← scale]
      exact Nat.le_add_right_of_le (Nat.mul_le_mul_right _ low)
    have high' : n * 2 ^ j + d < 2 ^ (52 + (k + j)) := by
      have next := Nat.mul_le_mul_right (2 ^ j) (Nat.succ_le_of_lt high)
      rw [Nat.succ_mul, scale] at next
      omega
    have most' : r * 2 ^ j ≤ 2 ^ (52 + (k + j)) := by
      rw [← scale]
      exact Nat.mul_le_mul_right _ most
    have range := (Nat.pow_lt_pow_iff_right (by decide)).1 (low'.trans_lt small)
    have weight := Nat.two_pow_pos (k + j)
    obtain ⟨p, isNat, most'', -⟩ :=
      isNat.timesNat (c := 2 ^ j) (k := k + j) (by omega) (by omega)
    have digit' : 2 * d < 2 ^ (k + j) := by
      have double : 2 ^ (j + 1) ≤ 2 ^ (k + j) := Nat.pow_le_pow_right (by decide) (by omega)
      rw [Nat.pow_succ] at double
      omega
    have near : 2 * (p + d) < 2 * 2 ^ (52 + (k + j)) + 2 ^ (k + j) := by omega
    exact follows_plusNat isNat (by omega) low' high' small near

/-- All digits. -/
theorem Follows.accumulate {j : Nat} (bits : j ≤ 4) {x : Binary64} {n : Nat} {digits : Text}
    (follows : Follows x n) (inside : ∀ d ∈ digits, (digitValue? (2 ^ j) d).isSome = true)
    (small : n * (2 ^ j) ^ digits.length + placeValue (2 ^ j) digits < 2 ^ 1023) :
    ∃ y, NumberLiteral.accumulate (2 ^ j) x digits = some y ∧
      Follows y (n * (2 ^ j) ^ digits.length + placeValue (2 ^ j) digits) := by
  induction digits generalizing x n with
  | nil =>
    refine ⟨x, rfl, ?_⟩
    have same : n * (2 ^ j) ^ ([] : Text).length + placeValue (2 ^ j) [] = n := Nat.mul_one n
    rwa [same]
  | cons c cs ih =>
    obtain ⟨digit, inside⟩ := List.forall_mem_cons.1 inside
    obtain ⟨d, value⟩ := Option.isSome_iff_exists.1 digit
    have regroup : n * (2 ^ j) ^ (c :: cs).length + placeValue (2 ^ j) (c :: cs) =
        (n * 2 ^ j + d) * (2 ^ j) ^ cs.length + placeValue (2 ^ j) cs := by
      rw [placeValue_cons, value, List.length_cons, Option.getD_some]
      ring
    rw [regroup] at small ⊢
    have most : n * 2 ^ j + d ≤ (n * 2 ^ j + d) * (2 ^ j) ^ cs.length :=
      Nat.le_mul_of_pos_right _ (Nat.pow_pos (Nat.two_pow_pos j))
    have next := follows.step bits (digitValue?_lt value) (by omega)
    rw [NumberLiteral.accumulate, value]
    exact ih next inside small

theorem base?_power {c : Char} {base : Nat} (known : base? c = some base) :
    ∃ j ≤ 4, base = 2 ^ j := by
  rcases letter_of_base? known with (rfl | rfl) | (rfl | rfl) | (rfl | rfl)
  · exact ⟨4, by decide, (Option.some.inj known).symm⟩
  · exact ⟨4, by decide, (Option.some.inj known).symm⟩
  · exact ⟨3, by decide, (Option.some.inj known).symm⟩
  · exact ⟨3, by decide, (Option.some.inj known).symm⟩
  · exact ⟨1, by decide, (Option.some.inj known).symm⟩
  · exact ⟨1, by decide, (Option.some.inj known).symm⟩

/-- A literal for a whole number below `2 ^ 1023` is read as a whole number. -/
theorem Denotes.isWhole {u : Text} {q : ℚ} {z : ℤ} (denotes : Denotes u q) (whole : q = z)
    (small : z.natAbs < 2 ^ 1023) : ∃ x, bare? u = some x ∧ x.isWhole = true := by
  cases denotes with
  | empty => exact ⟨_, rfl, isWhole_zero false⟩
  | decimal signed value power =>
    obtain ⟨n, read, exact, -⟩ := exists_parse? signed value power
    refine ⟨n.toBinary64, ?_,
      isWhole_ofDecimal n.negative (natAbs_of_exact (exact.trans whole)) small⟩
    rw [bare?_literal (.intro signed value.formed power.formed), read]
    rfl
  | @radix c base digits known full inside =>
    obtain ⟨j, bits, rfl⟩ := base?_power known
    have whole' : (placeValue (2 ^ j) digits : ℤ) = z := by exact_mod_cast whole
    rw [← whole', Int.natAbs_natCast] at small
    have bound : 0 * (2 ^ j) ^ digits.length + placeValue (2 ^ j) digits < 2 ^ 1023 := by
      rw [Nat.zero_mul, Nat.zero_add]
      exact small
    obtain ⟨x, read, r, isNat, -⟩ := follows_zero.accumulate bits inside bound
    exact ⟨x, (bare?_radix known full).trans read, isNat.isWhole⟩

theorem Reads.isWhole {t : Text} {z : ℤ} (reads : Reads t z) (small : z.natAbs < 2 ^ 1023) :
    ∃ x, parse? t = some x ∧ x.isWhole = true := by
  obtain ⟨u, unpads, denotes⟩ := reads
  rw [parse?, (unpads_iff t u).1 unpads]
  exact denotes.isWhole rfl small

/-- Digits, with a sign and a point or without, fifteen at the most. -/
inductive Short : Text → Prop
  | intro {sign mantissa : Text} : Sign sign → Mantissa mantissa →
      (mantissa.filter Char.isDigit).length ≤ 15 → Short (sign ++ mantissa)

/-- With so few digits a number is whole after rounding only if it was before. -/
theorem Short.isWhole_iff {t : Text} (short : Short t) :
    ∃ q x, Reads t q ∧ parse? t = some x ∧ (x.isWhole = true ↔ ∃ z : ℤ, q = z) := by
  cases short with
  | @intro sign mantissa signed formed few =>
    obtain ⟨m, value⟩ := formed.exists_value
    obtain ⟨n, read, exact, digits, places, most, exponent⟩ :=
      exists_parse? signed value .missing
    have denotes := Denotes.decimal signed value .missing
    have literal := Literal.intro signed formed .missing
    rw [List.append_nil] at read denotes literal
    rw [← exact] at denotes
    rw [zero_sub] at exponent
    have bound : n.digits < 10 ^ 15 := by
      rw [digits]
      exact (placeValue_lt (by decide) _).trans_le (pow_le_pow_right₀ (by decide) few)
    refine ⟨n.exact, n.toBinary64, ⟨_, denotes.unpads, denotes⟩, ?_, ?_⟩
    · rw [parse?, (unpads_iff _ _).1 denotes.unpads, bare?_literal literal, read]
      rfl
    · rw [exact_whole_iff exponent, Numeral.toBinary64, exponent]
      exact isWhole_ofDecimal_iff n.negative bound (most.trans few)

/-- With more digits a fraction can disappear. -/
example : (parse? "1.00000000000000001".toList).map (·.isWhole) = some true := by decide +kernel

end NumberLiteral

end QueryDesk
