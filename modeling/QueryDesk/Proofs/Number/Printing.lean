import Mathlib.Data.List.TakeWhile
import QueryDesk.Value
import QueryDesk.Proofs.Number.Denotation
import QueryDesk.Proofs.Number.Shortest

/-!
# Printed numbers

A finite number prints as digits with a point between them, behind a minus sign if it is negative
(`Binary64.exists_fixedPoint`). What such a text denotes is nearest to the number, so the reader of
decimal literals reads the number back (`Binary64.parse?_print`).
-/

set_option autoImplicit false

namespace QueryDesk

open Text

namespace Numeral

theorem digitValue?_of_isDigit {c : Char} (digit : c.isDigit = true) :
    digitValue? 10 c = some (c.toNat - '0'.toNat) := by
  have bounds := (isDigit_iff c).1 digit
  have small : decide (c.toNat - '0'.toNat < 10) = true := by
    rw [decide_eq_true_eq, show '0'.toNat = 48 from rfl]
    omega
  rw [digitValue?, if_pos digit, Option.filter_some, if_pos small]

theorem digits_ofNat (n : Nat) : Digits (ofNat n) :=
  fun _ member => Nat.isDigit_of_mem_toDigits (by decide) le_rfl member

theorem ofNat_ne_nil (n : Nat) : ofNat n ≠ [] := Nat.toDigits_ne_nil

theorem placeValue_ofNat (n : Nat) : placeValue 10 (ofNat n) = n := by
  rw [← decimalValue_eq, decimalValue]
  conv_rhs => rw [← Nat.ofDigitChars_toDigits (b := 10) (n := n) (by decide) le_rfl,
    Nat.ofDigitChars_eq_foldl]
  refine List.foldl_ext _ _ _ fun value c member => ?_
  rw [digitValue?_of_isDigit (digits_ofNat n c member), Option.getD_some, Nat.mul_comm]

theorem placeValue_zeros (k : Nat) (t : Text) :
    placeValue 10 (List.replicate k '0' ++ t) = placeValue 10 t := by
  have zero : (digitValue? 10 '0').getD 0 = 0 := by decide
  induction k with
  | zero => rfl
  | succ k ih =>
    rw [List.replicate_succ, List.cons_append, placeValue_cons, zero, Nat.zero_mul, Nat.zero_add, ih]

/-- Digits alone are read as the whole number they are written for. -/
theorem parse?_whole {sign digits : Text} (signed : Sign sign) (full : digits ≠ [])
    (inside : Digits digits) :
    parse? (sign ++ digits) = some ⟨decide (sign = ['-']), placeValue 10 digits, 0, true⟩ := by
  have taken : digits.takeWhile Char.isDigit = digits := List.takeWhile_eq_self_iff.2 inside
  have rest : digits.dropWhile Char.isDigit = [] := List.dropWhile_eq_nil_iff.2 inside
  have all : allDigits digits = true := (allDigits_iff digits).2 ⟨full, inside⟩
  rw [parse?, takeSign_digits signed full inside]
  simp only [taken, rest, takeFraction, all]
  simp [full, exponent?, decimalValue_eq]

/-- A text with a point between digits, as many of them behind it as the decimal has places. -/
inductive FixedPoint (d : Decimal) : Text → Prop
  | intro {whole fraction : Text} : Digits whole → Digits fraction → whole ≠ [] → fraction ≠ [] →
      placeValue 10 (whole ++ fraction) = d.digits → d.exponent = -(fraction.length : Nat) →
      FixedPoint d (whole ++ '.' :: fraction)

theorem fixedPoint_positional {d : Decimal} (behind : d.exponent < 0) :
    FixedPoint d d.positional := by
  have inside := digits_ofNat d.digits
  have value := placeValue_ofNat d.digits
  unfold Decimal.positional
  extract_lets shown places
  have exponent : d.exponent = -(places : Nat) := by omega
  rw [if_neg (by omega)]
  split
  case isTrue inner =>
    have fraction : (shown.drop (shown.length - places)).length = places := by
      rw [List.length_drop]
      omega
    refine .intro (fun c member => inside c (List.mem_of_mem_take member))
      (fun c member => inside c (List.mem_of_mem_drop member)) ?_ ?_ ?_ (by rwa [fraction])
    · refine List.ne_nil_of_length_pos ?_
      rw [List.length_take]
      omega
    · refine List.ne_nil_of_length_pos ?_
      omega
    · rwa [List.take_append_drop]
  case isFalse =>
    have zeros : ∀ c ∈ List.replicate (places - shown.length) '0', c.isDigit = true :=
      fun c member => List.eq_of_mem_replicate member ▸ rfl
    change FixedPoint d (['0'] ++ '.' :: (List.replicate (places - shown.length) '0' ++ shown))
    refine .intro (List.forall_mem_singleton.2 rfl)
      (List.forall_mem_append.2 ⟨zeros, inside⟩) (by simp) (by simp [shown, ofNat_ne_nil]) ?_ ?_
    · rwa [← List.append_assoc, ← List.replicate_one, List.replicate_append_replicate,
        placeValue_zeros]
    · rw [exponent, List.length_append, List.length_replicate]
      omega

theorem fixedPoint_whole (n : Nat) : FixedPoint ⟨n * 10, -1⟩ (ofNat n ++ ".0".toList) := by
  change FixedPoint _ (ofNat n ++ '.' :: ['0'])
  refine .intro (digits_ofNat n) (by simp [Digits]) (ofNat_ne_nil n) (by simp) ?_ rfl
  rw [placeValue_append, placeValue_ofNat]
  rfl

variable {d : Decimal} {t : Text}

theorem FixedPoint.point_mem (fixed : FixedPoint d t) : '.' ∈ t := by
  cases fixed
  exact List.mem_append_right _ List.mem_cons_self

/-- Digits with a point between them are read as the decimal they are written for. -/
theorem FixedPoint.parse? {sign : Text} (signed : Sign sign) (fixed : FixedPoint d t) :
    parse? (sign ++ t) = some ⟨decide (sign = ['-']), d.digits, d.exponent, false⟩ := by
  obtain @⟨whole, fraction, digits, digits', full, -, value, exponent⟩ := fixed
  have point (t : Text) : ('.' :: t).head?.any Char.isDigit = false := rfl
  have taken : fraction.takeWhile Char.isDigit = fraction := List.takeWhile_eq_self_iff.2 digits'
  have rest : fraction.dropWhile Char.isDigit = [] := List.dropWhile_eq_nil_iff.2 digits'
  have unsigned : takeSign (sign ++ (whole ++ '.' :: fraction)) =
      (decide (sign = ['-']), whole ++ '.' :: fraction) :=
    takeSign_append signed fun c first => not_sign_of_isDigit (head_digits digits full first)
  have marked : allDigits (whole ++ '.' :: fraction) = false := by
    simp [allDigits]
  rw [Numeral.parse?, unsigned]
  simp only [takeWhile_run digits (point _), dropWhile_run digits (point _), takeFraction, taken,
    rest, marked]
  simp [full, exponent?, decimalValue_eq, value, exponent]

end Numeral

namespace Binary64

open Numeral Decimal

def signText (negative : Bool) : Text := if negative then ['-'] else []

theorem sign_signText (negative : Bool) : Sign (signText negative) := by
  cases negative
  · exact .missing
  · exact .minus

theorem signText_eq_minus (negative : Bool) : decide (signText negative = ['-']) = negative := by
  cases negative <;> rfl

variable {x : Binary64}

theorem eq_infinity (number : x.isNaN = false) (infinite : x.isFinite = false) :
    x = infinity x.negative := by
  have most := Nat.le_of_not_lt (of_decide_eq_false number)
  have least := Nat.le_of_not_lt (of_decide_eq_false infinite)
  obtain ⟨negative, magnitude⟩ := x
  rw [infinity, Binary64.mk.injEq]
  exact ⟨rfl, Fin.ext (Nat.le_antisymm most least)⟩

theorem print_infinity (negative : Bool) :
    (infinity negative).print = signText negative ++ "inf".toList := by
  cases negative <;> rfl

theorem print_nan (nan : x.isNaN = true) : x.print = "NaN".toList := by
  rw [print, if_pos nan]

theorem not_isNaN (finite : x.isFinite = true) : x.isNaN = false :=
  decide_eq_false (Nat.lt_asymm (of_decide_eq_true finite))

theorem isFinite_of_isWhole (whole : x.isWhole = true) : x.isFinite = true :=
  (Bool.and_eq_true_iff.1 whole).1

theorem print_whole (whole : x.isWhole = true) :
    x.print = signText x.negative ++ (ofNat (x.units / unitsPerOne) ++ ".0".toList) := by
  have finite := isFinite_of_isWhole whole
  rw [print, if_neg (by simp [not_isNaN finite]), if_neg (by simp [finite]), if_pos whole,
    List.append_assoc]
  rfl

theorem print_fraction (finite : x.isFinite = true) (fraction : x.isWhole = false) :
    x.print = signText x.negative ++ (shortest x).positional := by
  rw [print, if_neg (by simp [not_isNaN finite]), if_neg (by simp [finite]),
    if_neg (by simp [fraction])]
  rfl

theorem units_of_isWhole (whole : x.isWhole = true) :
    x.units = x.units / unitsPerOne * unitsPerOne := by
  have rest : x.units % unitsPerOne = 0 := beq_iff_eq.1 (Bool.and_eq_true_iff.1 whole).2
  exact (Nat.div_mul_cancel (Nat.dvd_of_mod_eq_zero rest)).symm

theorem units_of_not_isWhole (finite : x.isFinite = true) (fraction : x.isWhole = false) :
    x.units % unitsPerOne ≠ 0 := by
  intro rest
  rw [isWhole, finite, rest] at fraction
  cases fraction

/-- A finite number prints as digits with a point between them, and is nearest to what they stand
for. -/
theorem exists_fixedPoint (finite : x.isFinite = true) : ∃ d t,
    x.print = signText x.negative ++ t ∧ FixedPoint d t ∧
      Nearest x.magnitude.val (d.digits * step d.exponent) := by
  cases whole : x.isWhole with
  | true =>
    refine ⟨_, _, print_whole whole, fixedPoint_whole _, ?_⟩
    have tenth : (10 * step (-1) : ℚ) = unitsPerOne := by simpa using step_neg 1
    have exact : ((x.units / unitsPerOne * 10 : Nat) * step (-1) : ℚ) = x.units := by
      rw [Nat.cast_mul, mul_assoc, Nat.cast_ofNat, tenth]
      exact_mod_cast (units_of_isWhole whole).symm
    exact exact ▸ nearest_units x.magnitude.val
  | false =>
    have fraction := units_of_not_isWhole finite whole
    exact ⟨_, _, print_fraction finite whole, fixedPoint_positional (shortest_fraction fraction),
      nearest_shortest (units_pos fraction)⟩

theorem ofDecimal_eq_iff_step (finite : x.isFinite = true) (d : Decimal) :
    ofDecimal x.negative d.digits d.exponent = x ↔
      Nearest x.magnitude.val (d.digits * step d.exponent) := by
  rw [ofDecimal_eq_iff finite, mul_assoc]
  exact Iff.rfl

/-- A printed number reads back. -/
theorem parse?_print (finite : x.isFinite = true) :
    ∃ n, Numeral.parse? x.print = some n ∧ n.plain = false ∧ n.toBinary64 = x := by
  obtain ⟨d, t, printed, fixed, nearest⟩ := exists_fixedPoint finite
  rw [printed, fixed.parse? (sign_signText _), signText_eq_minus]
  exact ⟨_, rfl, rfl, (ofDecimal_eq_iff_step finite d).2 nearest⟩

example : (ofDecimal true 25 (-1)).print = "-2.5".toList := by decide +kernel

/-- A number that is not whole prints as a decimal that reads back. None with fewer digits does, and
none with as many is nearer. -/
theorem exists_shortest (finite : x.isFinite = true) (fraction : x.isWhole = false) :
    ∃ d t, x.print = signText x.negative ++ t ∧ FixedPoint d t ∧
      ofDecimal x.negative d.digits d.exponent = x ∧
      ∀ d' : Decimal, ofDecimal x.negative d'.digits d'.exponent = x →
        (ofNat d.digits).length ≤ (ofNat d'.digits).length ∧
        ((ofNat d'.digits).length = (ofNat d.digits).length →
          |d.digits * step d.exponent - x.units| ≤ |d'.digits * step d'.exponent - x.units|) := by
  have rest := units_of_not_isWhole finite fraction
  have some := units_pos rest
  simp only [ofDecimal_eq_iff_step finite]
  refine ⟨_, _, print_fraction finite fraction, fixedPoint_positional (shortest_fraction rest),
    nearest_shortest some, fun d' nearest => ⟨length_shortest_le some nearest, fun same => ?_⟩⟩
  exact abs_shortest_sub_le some nearest same.le

end Binary64

end QueryDesk
