import QueryDesk.Store.Statement
import QueryDesk.Proofs.Number.Printing

/-!
# Printed values

Text prints as it is, and every NaN prints alike. Each of the other values is told from what it
prints as (`ofPrinted?_print`): a number with a point is a real number, one without is an integer,
and bytes stand as hexadecimal digits between quotes.
-/

set_option autoImplicit false

namespace QueryDesk.Value

open Text Numeral Binary64
open Store (writtenInteger? integer?)
open Store.Statement (bytes?)

/-- Neither text nor NaN. -/
def Ordinary : Value → Prop
  | .text _ => False
  | .real x => x.isNaN = false
  | _ => True

/-- Whole digits without a point are an integer. -/
def ofNumeral (n : Numeral) : Value :=
  match writtenInteger? n with
  | some i => .integer i
  | none => .real n.toBinary64

def ofSymbol? : Text → Option Value
  | 'X' :: '\'' :: rest => (bytes? rest.dropLast).map .blob
  | t =>
    if t = "NULL".toList then some .null
    else [infinity false, infinity true].findSome? fun x =>
      if t = x.print then some (.real x) else none

/-- The ordinary value that prints so. -/
def ofPrinted? (t : Text) : Option Value := ((Numeral.parse? t).map ofNumeral).or (ofSymbol? t)

theorem ofInt_eq (i : ℤ) : Text.ofInt i = signText (decide (i < 0)) ++ ofNat i.natAbs := by
  unfold Text.ofInt signText
  split <;> simp_all

theorem writtenInteger?_toInt (i : Int64) :
    writtenInteger? ⟨decide (i.toInt < 0), i.toInt.natAbs, 0, true⟩ = some i := by
  have value : (if decide (i.toInt < 0) = true then -(i.toInt.natAbs : ℤ) else i.toInt.natAbs) =
      i.toInt := by
    split <;> simp only [decide_eq_true_eq] at * <;> omega
  rw [writtenInteger?, if_pos rfl, value, integer?,
    if_pos ⟨i.minValue_le_toInt, i.toInt_le⟩, Int64.ofInt_toInt]

theorem ofPrinted?_integer (i : Int64) : ofPrinted? (integer i).print = some (integer i) := by
  have read := parse?_whole (sign_signText (decide (i.toInt < 0))) (ofNat_ne_nil i.toInt.natAbs)
    (digits_ofNat i.toInt.natAbs)
  rw [← ofInt_eq, signText_eq_minus, placeValue_ofNat] at read
  rw [ofPrinted?, print, read, Option.map_some, Option.some_or, ofNumeral, writtenInteger?_toInt]

theorem ofPrinted?_real {x : Binary64} (number : x.isNaN = false) :
    ofPrinted? (real x).print = some (real x) := by
  cases finite : x.isFinite with
  | true =>
    obtain ⟨n, read, point, same⟩ := parse?_print finite
    have real : writtenInteger? n = none := by rw [writtenInteger?, point]; rfl
    rw [ofPrinted?, print, read, Option.map_some, Option.some_or, ofNumeral, real, same]
  | false =>
    rw [eq_infinity number finite]
    cases x.negative <;> rfl

theorem upperHexDigit_spec : ∀ n < 16, digitValue? 16 (upperHexDigit n) = some n ∧
    upperHexDigit n ∈ "0123456789ABCDEF".toList := by
  decide

theorem bytes?_hexBytes (bytes : Bytes) : bytes? (bytes.flatMap hexByte) = some bytes := by
  induction bytes with
  | nil => rfl
  | cons b bs ih =>
    have bound := b.toNat_lt
    have high := (upperHexDigit_spec (b.toNat / 16) (by omega)).1
    have low := (upperHexDigit_spec (b.toNat % 16) (by omega)).1
    rw [List.flatMap_cons, hexByte, List.cons_append, List.cons_append, List.nil_append, bytes?,
      high, low, ih, Option.bind_some, Option.bind_some, Option.map_some, Nat.div_add_mod',
      UInt8.ofNat_toNat]

theorem length_hexBytes (bytes : Bytes) : (bytes.flatMap hexByte).length = 2 * bytes.length := by
  rw [List.length_flatMap]
  simp [hexByte, Nat.mul_comm]

theorem mem_hexBytes {bytes : Bytes} {c : Char} (member : c ∈ bytes.flatMap hexByte) :
    c ∈ "0123456789ABCDEF".toList := by
  obtain ⟨b, -, digit⟩ := List.mem_flatMap.1 member
  have bound := b.toNat_lt
  rcases List.mem_pair.1 digit with rfl | rfl
  · exact (upperHexDigit_spec _ (by omega)).2
  · exact (upperHexDigit_spec _ (by omega)).2

theorem ofPrinted?_blob (bytes : Bytes) : ofPrinted? (blob bytes).print = some (blob bytes) := by
  have cut : (bytes.flatMap hexByte ++ ['\'']).dropLast = bytes.flatMap hexByte :=
    List.dropLast_concat
  change (bytes? (bytes.flatMap hexByte ++ ['\'']).dropLast).map blob = _
  rw [cut, bytes?_hexBytes, Option.map_some]

example : (blob [0xDE, 0xAD]).print = "X'DEAD'".toList := by decide

/-- Each ordinary value is told from what it prints as. -/
theorem ofPrinted?_print {v : Value} (ordinary : Ordinary v) : ofPrinted? v.print = some v := by
  cases v with
  | null => rfl
  | integer i => exact ofPrinted?_integer i
  | real x => exact ofPrinted?_real ordinary
  | text t => exact ordinary.elim
  | blob bytes => exact ofPrinted?_blob bytes

/-- No value but text prints as an ordinary one that it is not. -/
theorem print_eq_iff {v w : Value} (other : v.asText? = none) (ordinary : Ordinary w) :
    v.print = w.print ↔ v = w := by
  refine ⟨fun same => ?_, congrArg print⟩
  have read := ofPrinted?_print ordinary
  rw [← same] at read
  have told (ordinary' : Ordinary v) : v = w := by
    rw [ofPrinted?_print ordinary'] at read
    exact Option.some.inj read
  cases v with
  | text => cases other
  | real x =>
    cases number : x.isNaN with
    | true =>
      rw [print, print_nan number] at read
      cases read
    | false => exact told number
  | _ => exact told trivial

theorem Ordinary.asText? {v : Value} (ordinary : Ordinary v) : v.asText? = none := by
  cases v with
  | text => exact ordinary.elim
  | _ => rfl

theorem ordinary_infinity (negative : Bool) : Ordinary (real (infinity negative)) :=
  decide_eq_false (Nat.lt_irrefl _)

theorem print_integer_ne_real (i : Int64) (x : Binary64) : (integer i).print ≠ (real x).print := by
  intro same
  cases (print_eq_iff (v := real x) (w := integer i) rfl trivial).1 same.symm

/-- Printed values other than text and NaN are told apart: each real number that is finite has a
point, and if it is whole all its digits, and if not the fewest that read back, of these the nearest;
bytes have two hexadecimal digits each; and nothing else prints as a missing value or an infinity
does. -/
theorem print_distinguishes :
    (∀ v w : Value, Ordinary v → Ordinary w → v.print = w.print → v = w) ∧
    (∀ (i : Int64) (x : Binary64), (integer i).print ≠ (real x).print) ∧
    (∀ x : Binary64, x.isFinite = true → '.' ∈ (real x).print ∧
      (Numeral.parse? (real x).print).map Numeral.toBinary64 = some x) ∧
    (∀ x : Binary64, x.isWhole = true → ∃ n, x.units = n * unitsPerOne ∧
      (real x).print = signText x.negative ++ (ofNat n ++ ".0".toList)) ∧
    (∀ x : Binary64, x.isFinite = true → x.isWhole = false → ∃ d t,
      (real x).print = signText x.negative ++ t ∧ FixedPoint d t ∧
      ofDecimal x.negative d.digits d.exponent = x ∧
      ∀ d' : Decimal, ofDecimal x.negative d'.digits d'.exponent = x →
        (ofNat d.digits).length ≤ (ofNat d'.digits).length ∧
        ((ofNat d'.digits).length = (ofNat d.digits).length →
          |d.digits * Decimal.step d.exponent - x.units| ≤
            |d'.digits * Decimal.step d'.exponent - x.units|)) ∧
    (∀ bytes : Bytes, ∃ digits, (blob bytes).print = "X'".toList ++ digits ++ ['\''] ∧
      digits.length = 2 * bytes.length ∧ (∀ c ∈ digits, c ∈ "0123456789ABCDEF".toList) ∧
      bytes? digits = some bytes) ∧
    (∀ v : Value, v.asText? = none → (v.print = "NULL".toList ↔ v = null)) ∧
    (∀ (v : Value) (negative : Bool), v.asText? = none →
      (v.print = signText negative ++ "inf".toList ↔ v = real (infinity negative))) := by
  refine ⟨?_, print_integer_ne_real, ?_, ?_, ?_, ?_, ?_, ?_⟩
  · intro v w ordinary ordinary'
    exact (print_eq_iff ordinary.asText? ordinary').1
  · intro x finite
    obtain ⟨d, t, printed, fixed, -⟩ := exists_fixedPoint finite
    obtain ⟨n, read, -, same⟩ := parse?_print finite
    rw [print, read, Option.map_some, same, printed]
    exact ⟨List.mem_append_right _ fixed.point_mem, rfl⟩
  · intro x whole
    exact ⟨x.units / unitsPerOne, units_of_isWhole whole, print_whole whole⟩
  · intro x finite fraction
    exact exists_shortest finite fraction
  · intro bytes
    exact ⟨_, rfl, length_hexBytes bytes, fun c => mem_hexBytes, bytes?_hexBytes bytes⟩
  · intro v other
    exact print_eq_iff (w := null) other trivial
  · intro v negative other
    rw [← print_infinity]
    exact print_eq_iff other (ordinary_infinity negative)

end QueryDesk.Value
