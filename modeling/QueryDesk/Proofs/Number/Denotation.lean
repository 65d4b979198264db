import Mathlib.Algebra.Order.Field.Power
import Mathlib.Algebra.Order.Ring.Rat
import Mathlib.Data.Nat.Digits.Defs
import Mathlib.Tactic.FieldSimp
import QueryDesk.Proofs.Number.Grammar

/-!
# What number literals denote

The rational number that a literal is written for, read off along its grammar and never rounded
(`NumberLiteral.Denotes`). Every literal but infinity denotes one number. A decimal literal is read
as digits and a power of ten that make up this very number (`Numeral.exists_parse?`).
-/

set_option autoImplicit false

namespace QueryDesk

namespace Text

/-- The number that digits stand for in a base, the last one with the weight one. -/
def placeValue (base : Nat) (digits : Text) : Nat :=
  Nat.ofDigits base (digits.reverse.map fun c => (digitValue? base c).getD 0)

theorem placeValue_append (base : Nat) (a b : Text) :
    placeValue base (a ++ b) = placeValue base a * base ^ b.length + placeValue base b := by
  rw [placeValue, List.reverse_append, List.map_append, Nat.ofDigits_append, List.length_map,
    List.length_reverse, Nat.add_comm, Nat.mul_comm]
  rfl

theorem placeValue_cons (base : Nat) (c : Char) (cs : Text) : placeValue base (c :: cs) =
    (digitValue? base c).getD 0 * base ^ cs.length + placeValue base cs := by
  have one : placeValue base [c] = (digitValue? base c).getD 0 := Nat.ofDigits_singleton ..
  rw [← List.singleton_append, placeValue_append, one]

/-- Digit by digit from the left, each time with the base as factor. -/
theorem foldl_placeValue (base n : Nat) (digits : Text) :
    digits.foldl (fun n c => n * base + (digitValue? base c).getD 0) n =
      n * base ^ digits.length + placeValue base digits := by
  induction digits generalizing n with
  | nil => simp [placeValue]
  | cons c cs ih =>
    rw [List.foldl_cons, ih, placeValue_cons, List.length_cons]
    ring

theorem decimalValue_eq (digits : Text) : decimalValue digits = placeValue 10 digits := by
  rw [decimalValue, foldl_placeValue, Nat.zero_mul, Nat.zero_add]

theorem digitValue?_lt {base d : Nat} {c : Char} (value : digitValue? base c = some d) :
    d < base := by
  rw [digitValue?, Option.filter_eq_some_iff] at value
  exact of_decide_eq_true value.2

theorem placeValue_lt {base : Nat} (large : 1 < base) (digits : Text) :
    placeValue base digits < base ^ digits.length := by
  have bound := Nat.ofDigits_lt_base_pow_length large
    (l := digits.reverse.map fun c => (digitValue? base c).getD 0) fun d member => by
      obtain ⟨c, -, rfl⟩ := List.mem_map.1 member
      cases value : digitValue? base c with
      | none => exact Nat.lt_of_succ_lt large
      | some d => exact digitValue?_lt value
  rwa [List.length_map, List.length_reverse] at bound

end Text

open Text

namespace Numeral

/-- The factor of a sign. -/
def signOf (sign : Text) : ℤ := if sign = ['-'] then -1 else 1

/-- The digits behind a point count for as many tenths, hundredths and so on. -/
inductive MantissaValue : Text → ℚ → Prop
  | whole {digits : Text} : digits ≠ [] → Digits digits →
      MantissaValue digits (placeValue 10 digits)
  | point {whole fraction : Text} : Digits whole → Digits fraction → whole ++ fraction ≠ [] →
      MantissaValue (whole ++ '.' :: fraction)
        (placeValue 10 whole + placeValue 10 fraction / 10 ^ fraction.length)

inductive ExponentValue : Text → ℤ → Prop
  | missing : ExponentValue [] 0
  | power {e : Char} {sign digits : Text} : e = 'e' ∨ e = 'E' → Sign sign → digits ≠ [] →
      Digits digits → ExponentValue (e :: (sign ++ digits)) (signOf sign * placeValue 10 digits)

/-- The number that is read, before it is rounded. -/
def exact (n : Numeral) : ℚ := (if n.negative then -1 else 1) * n.digits * 10 ^ n.exponent

theorem Mantissa.exists_value {t : Text} (formed : Mantissa t) : ∃ m, MantissaValue t m := by
  cases formed with
  | whole full digits => exact ⟨_, .whole full digits⟩
  | point digits digits' full => exact ⟨_, .point digits digits' full⟩

theorem Exponent.exists_value {t : Text} (exponent : Exponent t) : ∃ k, ExponentValue t k := by
  cases exponent with
  | missing => exact ⟨_, .missing⟩
  | power letter signed full digits => exact ⟨_, .power letter signed full digits⟩

theorem MantissaValue.formed {t : Text} {m : ℚ} (value : MantissaValue t m) : Mantissa t := by
  cases value with
  | whole full digits => exact .whole full digits
  | point digits digits' full => exact .point digits digits' full

theorem ExponentValue.formed {t : Text} {k : ℤ} (value : ExponentValue t k) : Exponent t := by
  cases value with
  | missing => exact .missing
  | power letter signed full digits => exact .power letter signed full digits

/-- The sign aside, a number that is whole is digits times a power of ten. -/
theorem natAbs_of_exact {n : Numeral} {z : ℤ} (whole : n.exact = z) :
    (n.digits : ℚ) * 10 ^ n.exponent = z.natAbs := by
  have magnitude : |n.exact| = n.digits * 10 ^ n.exponent := by
    rw [exact, abs_mul, abs_mul, abs_zpow]
    cases n.negative <;> simp
  rw [← magnitude, whole, Nat.cast_natAbs, Int.cast_abs]

/-- Digits with places behind the point are whole if they end in as many zeros. -/
theorem exact_whole_iff {n : Numeral} {places : Nat} (exponent : n.exponent = -(places : ℤ)) :
    (∃ z : ℤ, n.exact = z) ↔ 10 ^ places ∣ n.digits := by
  have power : (10 : ℚ) ^ places ≠ 0 := pow_ne_zero places (by norm_num)
  constructor
  · rintro ⟨z, whole⟩
    have value := natAbs_of_exact whole
    rw [exponent, zpow_neg, zpow_natCast, ← div_eq_mul_inv, div_eq_iff power] at value
    have product : n.digits = z.natAbs * 10 ^ places := by exact_mod_cast value
    exact ⟨z.natAbs, product.trans (Nat.mul_comm _ _)⟩
  · rintro ⟨w, product⟩
    have shifted : ((10 ^ places * w : Nat) : ℚ) * (10 ^ places)⁻¹ = w := by
      push_cast
      field_simp
    refine ⟨if n.negative then -w else w, ?_⟩
    rw [exact, exponent, product, zpow_neg, zpow_natCast, mul_assoc, shifted]
    cases n.negative <;> simp

theorem exponent?_eq {t : Text} {k : ℤ} (value : ExponentValue t k) : exponent? t = some k := by
  cases value with
  | missing => rfl
  | @power e sign digits letter signed full inside =>
    have all : allDigits digits = true := (allDigits_iff digits).2 ⟨full, inside⟩
    rw [exponent?, takeSign_digits signed full inside, if_pos ⟨letter, all⟩, decimalValue_eq, signOf]
    by_cases minus : sign = ['-']
    · simp [minus]
    · simp [minus]

theorem filter_digits {digits : Text} (inside : Digits digits) :
    digits.filter Char.isDigit = digits := List.filter_eq_self.2 inside

/-- What the reader takes of a mantissa: all its digits, and how many of them are tenths, hundredths
and so on. -/
theorem MantissaValue.taken {mantissa rest : Text} {m : ℚ} (value : MantissaValue mantissa m)
    (stop : rest.head?.any Char.isDigit = false) (point : rest.head? ≠ some '.') :
    ∃ fraction, takeFraction ((mantissa ++ rest).dropWhile Char.isDigit) = (fraction, rest) ∧
      (mantissa ++ rest).takeWhile Char.isDigit ++ fraction = mantissa.filter Char.isDigit ∧
      m = placeValue 10 (mantissa.filter Char.isDigit) / 10 ^ fraction.length := by
  cases value with
  | whole full digits =>
    refine ⟨[], ?_, ?_, ?_⟩
    · rw [dropWhile_run digits stop, takeFraction_other point]
    · rw [takeWhile_run digits stop, filter_digits digits, List.append_nil]
    · rw [filter_digits digits, List.length_nil, pow_zero, div_one]
  | @point whole fraction digits digits' full =>
    have stop' : ('.' :: (fraction ++ rest)).head?.any Char.isDigit = false := rfl
    have kept : (whole ++ '.' :: fraction).filter Char.isDigit = whole ++ fraction := by
      rw [List.filter_append, List.filter_cons_of_neg (by decide), filter_digits digits,
        filter_digits digits']
    refine ⟨fraction, ?_, ?_, ?_⟩
    · rw [List.append_assoc, List.cons_append, dropWhile_run digits stop', takeFraction,
        takeWhile_run digits' stop, dropWhile_run digits' stop]
    · rw [List.append_assoc, List.cons_append, takeWhile_run digits stop', kept]
    · rw [kept, placeValue_append]
      push_cast
      field_simp

/-- A decimal literal is read as the number that it denotes, with all digits of its mantissa and
none of them farther behind the point than there are. -/
theorem exists_parse? {sign mantissa exponent : Text} {m : ℚ} {k : ℤ} (signed : Sign sign)
    (value : MantissaValue mantissa m) (power : ExponentValue exponent k) :
    ∃ n, parse? (sign ++ (mantissa ++ exponent)) = some n ∧
      n.exact = signOf sign * m * 10 ^ k ∧
      n.digits = placeValue 10 (mantissa.filter Char.isDigit) ∧
      ∃ places ≤ (mantissa.filter Char.isDigit).length, n.exponent = k - (places : Nat) := by
  obtain ⟨stop, point⟩ := power.formed.stops
  have whole : takeSign (sign ++ (mantissa ++ exponent)) =
      (decide (sign = ['-']), mantissa ++ exponent) := takeSign_append signed value.formed.unsigned
  have some := (value.formed.taken stop point).1
  obtain ⟨fraction, rest, digits, rfl⟩ := value.taken stop point
  rw [lacksDigits, rest] at some
  rw [parse?, whole]
  simp only [rest, some, exponent?_eq power, digits, decimalValue_eq]
  refine ⟨_, rfl, ?_, rfl, fraction.length, ?_, rfl⟩
  · rw [exact, zpow_sub₀ (by norm_num), zpow_natCast]
    cases signed <;> simp [signOf] <;> ring
  · rw [← digits, List.length_append]
    exact Nat.le_add_left _ _

end Numeral

namespace NumberLiteral

open Numeral

/-- The number that a literal other than infinity denotes. Nothing at all is zero. -/
inductive Denotes : Text → ℚ → Prop
  | empty : Denotes [] 0
  | decimal {sign mantissa exponent : Text} {m : ℚ} {k : ℤ} : Sign sign →
      MantissaValue mantissa m → ExponentValue exponent k →
      Denotes (sign ++ (mantissa ++ exponent)) (signOf sign * m * 10 ^ k)
  | radix {c : Char} {base : Nat} {digits : Text} : base? c = some base → digits ≠ [] →
      (∀ d ∈ digits, (digitValue? base d).isSome = true) →
      Denotes ('0' :: c :: digits) (placeValue base digits)

/-- The text is a literal with padding or without, and this is the number it denotes. -/
def Reads (t : Text) (q : ℚ) : Prop := ∃ u, Unpads t u ∧ Denotes u q

theorem Formed.denotes {u : Text} (formed : Formed u) : Infinite u ∨ ∃ q, Denotes u q := by
  cases formed with
  | empty => exact .inr ⟨_, .empty⟩
  | infinite signed => exact .inl ⟨_, signed, rfl⟩
  | decimal signed formed exponent =>
    obtain ⟨m, value⟩ := formed.exists_value
    obtain ⟨k, power⟩ := exponent.exists_value
    exact .inr ⟨_, .decimal signed value power⟩
  | radix known full inside => exact .inr ⟨_, .radix known full inside⟩

/-- Each literal denotes one number: no text is a literal in two ways. -/
theorem Denotes.unique {u : Text} {q q' : ℚ} (denotes : Denotes u q) (denotes' : Denotes u q') :
    q = q' := by
  have cases {q : ℚ} (denotes : Denotes u q) : (u = [] ∧ q = 0) ∨
      (∃ n, Numeral.parse? u = some n ∧ q = n.exact) ∨
      ∃ c base digits, u = '0' :: c :: digits ∧ base? c = some base ∧
        q = placeValue base digits := by
    cases denotes with
    | empty => exact .inl ⟨rfl, rfl⟩
    | decimal signed value power =>
      obtain ⟨n, read, exact, -⟩ := exists_parse? signed value power
      exact .inr (.inl ⟨n, read, exact.symm⟩)
    | radix known full inside => exact .inr (.inr ⟨_, _, _, rfl, known, rfl⟩)
  have apart {c : Char} {base : Nat} {digits : Text} {n : Numeral} (known : base? c = some base)
      (read : Numeral.parse? ('0' :: c :: digits) = some n) : False :=
    not_literal_of_base? known digits ((Numeral.isSome_parse?_iff _).1 (read ▸ rfl))
  rcases cases denotes with ⟨rfl, rfl⟩ | ⟨n, read, rfl⟩ | ⟨c, base, digits, rfl, known, rfl⟩
  · rcases cases denotes' with ⟨-, rfl⟩ | ⟨n, read, rfl⟩ | ⟨_, _, _, same, -⟩
    · rfl
    · cases read
    · cases same
  · rcases cases denotes' with ⟨rfl, rfl⟩ | ⟨n', read', rfl⟩ | ⟨c, base, digits, rfl, known, rfl⟩
    · cases read
    · rw [Option.some.inj (read.symm.trans read')]
    · exact (apart known read).elim
  · rcases cases denotes' with ⟨same, -⟩ | ⟨n', read', rfl⟩ | ⟨_, _, _, same, known', rfl⟩
    · cases same
    · exact (apart known read').elim
    · cases same
      rw [Option.some.inj (known.symm.trans known')]

theorem Reads.unique {t : Text} {q q' : ℚ} (reads : Reads t q) (reads' : Reads t q') : q = q' := by
  obtain ⟨u, unpads, denotes⟩ := reads
  obtain ⟨u', unpads', denotes'⟩ := reads'
  rw [← (unpads_iff t u).1 unpads] at denotes
  rw [← (unpads_iff t u').1 unpads'] at denotes'
  exact denotes.unique denotes'

theorem bare?_literal {u : Text} (literal : Literal u) :
    bare? u = (Numeral.parse? u).map (·.toBinary64) := by
  have signed : signed? u = (Numeral.parse? u).map (·.toBinary64) := by
    rw [signed?, if_neg]
    intro infinite
    have read := (Numeral.isSome_parse?_iff u).2 literal
    rw [Numeral.isSome_parse?, infinite] at read
    cases read
  unfold bare?
  split
  case h_1 => cases (Numeral.isSome_parse?_iff []).2 literal
  case h_2 c cs =>
    cases known : base? c with
    | none => exact signed
    | some base => exact absurd literal (not_literal_of_base? known cs)
  case h_3 => exact signed

theorem bare?_radix {c : Char} {base : Nat} {digits : Text} (known : base? c = some base)
    (full : digits ≠ []) : bare? ('0' :: c :: digits) = accumulate base (.zero false) digits := by
  rw [bare?, known]
  exact if_neg (by simp [full])

/-- The printable ASCII characters are no padding. -/
theorem not_isPadding {c : Char} (printable : 33 ≤ c.toNat ∧ c.toNat ≤ 126) :
    isPadding c = false := by
  rw [isPadding, Bool.or_eq_false_iff, beq_eq_false_iff_ne]
  constructor
  · rw [Bool.eq_false_iff]
    intro blank
    have ranges := (isBlank_iff c).1 blank
    omega
  · rintro rfl
    exact absurd printable (by decide)

theorem not_isPadding_of_isDigit {c : Char} (digit : c.isDigit = true) : isPadding c = false := by
  have range := (isDigit_iff c).1 digit
  exact not_isPadding (by omega)

theorem not_isPadding_of_digitValue? {base : Nat} {c : Char}
    (digit : (digitValue? base c).isSome = true) : isPadding c = false := by
  have letters : c.isDigit = true ∨ ('a' ≤ c ∧ c ≤ 'f') ∨ ('A' ≤ c ∧ c ≤ 'F') := by
    rw [digitValue?] at digit
    split at digit
    case isTrue decimal => exact .inl decimal
    case isFalse =>
      split at digit
      case isTrue lower => exact .inr (.inl (by simpa using lower))
      case isFalse =>
        split at digit
        case isTrue upper => exact .inr (.inr (by simpa using upper))
        case isFalse => cases digit
  rcases letters with digit | ⟨low, high⟩ | ⟨low, high⟩
  · exact not_isPadding_of_isDigit digit
  · exact not_isPadding ⟨Nat.le_trans (by decide) low, Nat.le_trans high (by decide)⟩
  · exact not_isPadding ⟨Nat.le_trans (by decide) low, Nat.le_trans high (by decide)⟩

theorem Denotes.visible {u : Text} {q : ℚ} (denotes : Denotes u q) :
    ∀ c ∈ u, isPadding c = false := by
  have signs {sign : Text} (signed : Sign sign) : ∀ c ∈ sign, isPadding c = false := by
    cases signed with
    | missing => exact List.forall_mem_nil _
    | plus => exact List.forall_mem_singleton.2 (by decide)
    | minus => exact List.forall_mem_singleton.2 (by decide)
  have inside {t : Text} (digits : Digits t) : ∀ c ∈ t, isPadding c = false :=
    fun c member => not_isPadding_of_isDigit (digits c member)
  cases denotes with
  | empty => exact List.forall_mem_nil _
  | decimal signed value power =>
    refine List.forall_mem_append.2 ⟨signs signed, List.forall_mem_append.2 ⟨?_, ?_⟩⟩
    · cases value with
      | whole full digits => exact inside digits
      | point digits digits' full =>
        exact List.forall_mem_append.2 ⟨inside digits,
          List.forall_mem_cons.2 ⟨by decide, inside digits'⟩⟩
    · cases power with
      | missing => exact List.forall_mem_nil _
      | power letter signed full digits =>
        refine List.forall_mem_cons.2 ⟨?_, List.forall_mem_append.2 ⟨signs signed, inside digits⟩⟩
        rcases letter with rfl | rfl <;> decide
  | @radix c base digits known full digits' =>
    refine List.forall_mem_cons.2 ⟨by decide, List.forall_mem_cons.2 ⟨?_, fun d member =>
      not_isPadding_of_digitValue? (digits' d member)⟩⟩
    rcases letter_of_base? known with (rfl | rfl) | (rfl | rfl) | (rfl | rfl) <;> decide

/-- A literal is read as it stands. -/
theorem Denotes.unpads {u : Text} {q : ℚ} (denotes : Denotes u q) : Unpads u u := by
  obtain ⟨front, back⟩ := ends_of_forall denotes.visible
  exact (unpads_iff u u).2 (trimWhile_eq_self front back)

end NumberLiteral

end QueryDesk
