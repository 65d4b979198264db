import QueryDesk.Proofs.Cursor.Agreement
import QueryDesk.Proofs.Number.Grammar

/-!
# Numbers read octet by octet

The reader of number literals as it moves over octets. It dispatches on the first two octets, cuts
the text behind a radix prefix or a sign, and runs a cursor over what it takes for a decimal literal
before the literal is read. A cut inside a character and a look past the end are errors, and none is
made (`Octets.read_eq`). What is read follows an exact grammar: `NumberLiteral.parse?_exact`.
-/

set_option autoImplicit false

namespace QueryDesk

open Text Sql.Cursor

namespace Numeral.Octets

/-- The character that an octet of a text is by itself. -/
def charAt? (input : Bytes) (pos : Nat) : Option Char := input[pos]?.map byteChar

/-- How many digits stand at an offset. -/
def digitsAt (input : Bytes) (pos : Nat) : Except BadOffset Nat :=
  (octetsFrom input pos).map fun ahead => (ahead.takeWhile isDigitByte).length

/-- The end of a point and the digits after it, if there is a point, and how many digits it has. -/
def fraction (input : Bytes) (pos : Nat) : Except BadOffset (Nat × Nat) :=
  if charAt? input pos = some '.' then
    (digitsAt input (pos + 1)).map fun digits => (pos + 1 + digits, digits)
  else .ok (pos, 0)

/-- The offset behind a sign, if there is one. -/
def signEnd (input : Bytes) (pos : Nat) : Nat :=
  if charAt? input pos = some '+' ∨ charAt? input pos = some '-' then pos + 1 else pos

/-- Whether there is an exponent or nothing from an offset to the end. -/
def exponentToEnd (input : Bytes) (pos : Nat) : Except BadOffset Bool :=
  if charAt? input pos = some 'e' ∨ charAt? input pos = some 'E' then
    (digitsAt input (signEnd input (pos + 1))).map fun digits =>
      digits != 0 && signEnd input (pos + 1) + digits == input.length
  else .ok (pos == input.length)

/-- Whether the octets are a decimal literal without a sign. -/
def isDecimal (input : Bytes) : Except BadOffset Bool := do
  let whole ← digitsAt input 0
  let (pos, digits) ← fraction input whole
  if whole = 0 ∧ digits = 0 then return false
  exponentToEnd input pos

variable {before ahead : Text}

theorem charAt?_iff {d : Char} (ascii : d.toNat < 128) :
    charAt? (encode (before ++ ahead)) (byteSize before) = some d ↔ ahead.head? = some d := by
  rw [charAt?, getElem?_encode]
  exact head?_encode_eq ascii ahead

theorem digitsAt_eq : digitsAt (encode (before ++ ahead)) (byteSize before) =
    .ok (byteSize (ahead.takeWhile Char.isDigit)) := by
  rw [digitsAt, octetsFrom_append, ← digits_encode]
  rfl

/-- The offset after one more character of ASCII. -/
theorem byteSize_concat_ascii (before : Text) {c : Char} (ascii : c.toNat < 128) :
    byteSize (before ++ [c]) = byteSize before + 1 := by
  rw [byteSize_append, byteSize, byteSize, utf8Size_ascii ascii]

theorem fraction_eq : ∃ front, ahead = front ++ (takeFraction ahead).2 ∧
    fraction (encode (before ++ ahead)) (byteSize before) =
      .ok (byteSize (before ++ front), byteSize (takeFraction ahead).1) := by
  unfold fraction
  simp only [charAt?_iff (show '.'.toNat < 128 by decide)]
  by_cases point : ahead.head? = some '.'
  case pos =>
    obtain ⟨cs, rfl⟩ := List.head?_eq_some_iff.1 point
    refine ⟨'.' :: cs.takeWhile Char.isDigit, ?_, ?_⟩
    · exact congrArg ('.' :: ·) List.takeWhile_append_dropWhile.symm
    · have size := byteSize_concat_ascii before (show '.'.toNat < 128 by decide)
      rw [if_pos point, List.append_cons before '.' cs, ← size, digitsAt_eq]
      change Except.ok (byteSize (before ++ ['.']) + _, _) = _
      rw [← byteSize_append, ← List.append_cons]
      rfl
  case neg =>
    refine ⟨[], ?_, ?_⟩
    · rw [takeFraction_other point]
      rfl
    · rw [if_neg point, takeFraction_other point, List.append_nil]
      rfl

theorem signEnd_eq : ∃ sign, ahead = sign ++ (takeSign ahead).2 ∧
    signEnd (encode (before ++ ahead)) (byteSize before) = byteSize (before ++ sign) := by
  unfold signEnd
  simp only [charAt?_iff (show '+'.toNat < 128 by decide),
    charAt?_iff (show '-'.toNat < 128 by decide)]
  by_cases signed : ahead.head? = some '+' ∨ ahead.head? = some '-'
  case pos =>
    rw [if_pos signed]
    rcases signed with plus | minus
    · obtain ⟨cs, rfl⟩ := List.head?_eq_some_iff.1 plus
      exact ⟨['+'], rfl, (byteSize_concat_ascii before (by decide)).symm⟩
    · obtain ⟨cs, rfl⟩ := List.head?_eq_some_iff.1 minus
      exact ⟨['-'], rfl, (byteSize_concat_ascii before (by decide)).symm⟩
  case neg =>
    refine ⟨[], ?_, ?_⟩
    · rw [takeSign]
      · rfl
      · rintro cs rfl
        exact signed (.inr rfl)
      · rintro cs rfl
        exact signed (.inl rfl)
    · rw [if_neg signed, List.append_nil]

/-- A text consists of digits if the digits at its front are as long as it is. -/
theorem allDigits_eq (t : Text) : allDigits t = (byteSize (t.takeWhile Char.isDigit) != 0 &&
    byteSize (t.takeWhile Char.isDigit) == byteSize t) := by
  have parts := List.takeWhile_append_dropWhile (p := Char.isDigit) (l := t)
  have size := byteSize_append (t.takeWhile Char.isDigit) (t.dropWhile Char.isDigit)
  rw [parts] at size
  apply Bool.eq_iff_iff.2
  rw [allDigits_iff, Bool.and_eq_true, bne_iff_ne, beq_iff_eq]
  constructor
  · rintro ⟨full, digits⟩
    have all := takeWhile_run digits (rfl : ([] : Text).head?.any Char.isDigit = false)
    rw [List.append_nil] at all
    rw [all]
    have := byteSize_pos full
    exact ⟨by omega, rfl⟩
  · rintro ⟨some, all⟩
    have none : t.dropWhile Char.isDigit = [] := byteSize_eq_zero (by omega)
    rw [none, List.append_nil] at parts
    refine ⟨?_, ?_⟩
    · rintro rfl
      exact some rfl
    · rw [← parts]
      exact inside_takeWhile

theorem exponentToEnd_eq : exponentToEnd (encode (before ++ ahead)) (byteSize before) =
    .ok (exponent? ahead).isSome := by
  unfold exponentToEnd
  simp only [charAt?_iff (show 'e'.toNat < 128 by decide),
    charAt?_iff (show 'E'.toNat < 128 by decide)]
  cases ahead with
  | nil =>
    rw [if_neg (by simp), length_encode, List.append_nil, beq_self_eq_true]
    rfl
  | cons c cs =>
    simp only [List.head?_cons, Option.some_inj, exponent?]
    by_cases letter : c = 'e' ∨ c = 'E'
    case pos =>
      have ascii : c.toNat < 128 := by rcases letter with rfl | rfl <;> decide
      have size := byteSize_concat_ascii before ascii
      obtain ⟨sign, shape, ends⟩ := @signEnd_eq (before ++ [c]) cs
      have digits := @digitsAt_eq (before ++ [c] ++ sign) (takeSign cs).2
      rw [List.append_assoc, ← shape] at digits
      rw [if_pos letter, List.append_cons before c cs, ← size, ends, digits, length_encode]
      have whole : byteSize (before ++ [c] ++ cs) =
          byteSize (before ++ [c] ++ sign) + byteSize (takeSign cs).2 := by
        rw [← byteSize_append, List.append_assoc _ sign, ← shape]
      have same (n : Nat) :
          (byteSize (before ++ [c] ++ sign) + n == byteSize (before ++ [c] ++ cs)) =
            (n == byteSize (takeSign cs).2) := by
        apply Bool.eq_iff_iff.2
        rw [beq_iff_eq, beq_iff_eq]
        omega
      simp only [Except.map, same, ← allDigits_eq]
      cases allDigits (takeSign cs).2 <;> simp [letter]
    case neg =>
      have longer := byteSize_pos (List.cons_ne_nil c cs)
      have short : (byteSize before == (encode (before ++ c :: cs)).length) = false := by
        rw [length_encode, byteSize_append, beq_eq_false_iff_ne]
        omega
      rw [if_neg letter, short]
      simp [letter]

/-- The cursor accepts what the reader of decimal literals reads. -/
theorem isDecimal_eq (t : Text) :
    isDecimal (encode (takeSign t).2) = .ok (parse? t).isSome := by
  rw [isSome_parse?]
  generalize (takeSign t).2 = u
  have parts := List.takeWhile_append_dropWhile (p := Char.isDigit) (l := u)
  have whole : digitsAt (encode u) 0 = _ := @digitsAt_eq [] u
  obtain ⟨front, shape, point⟩ := @fraction_eq (u.takeWhile Char.isDigit) (u.dropWhile Char.isDigit)
  have rest := @exponentToEnd_eq (u.takeWhile Char.isDigit ++ front)
    (takeFraction (u.dropWhile Char.isDigit)).2
  rw [List.append_assoc, ← shape] at rest
  rw [parts] at point rest
  have empty (v : Text) : byteSize v = 0 ↔ v.isEmpty = true := by
    rw [List.isEmpty_iff]
    exact ⟨byteSize_eq_zero, fun none => none ▸ rfl⟩
  -- What is empty as a text has no octets, so both count no digits in the same places.
  unfold isDecimal lacksDigits
  simp only [whole, point, rest, bind, Except.bind, empty, pure, Except.pure]
  cases (u.takeWhile Char.isDigit).isEmpty <;>
    cases (takeFraction (u.dropWhile Char.isDigit)).1.isEmpty <;> simp

end Numeral.Octets

namespace NumberLiteral

namespace Octets

open Numeral.Octets

/-- The number behind a radix prefix, if there is such a prefix. -/
def radix (s : Text) : Except BadOffset (Option (Option Binary64)) :=
  if (encode s).length < 2 ∨ charAt? (encode s) 0 ≠ some '0' then .ok none
  else
    match (charAt? (encode s) 1).bind base? with
    | none => .ok none
    | some base => (textFrom s 2).map fun digits => some (inBase? base digits)

/-- Whether a minus sign comes first, and the text without its sign. -/
def unsigned (s : Text) : Except BadOffset (Bool × Text) :=
  match charAt? (encode s) 0 with
  | none => .error ⟨0⟩
  | some c =>
    if c = '+' then (textFrom s 1).map fun rest => (false, rest)
    else if c = '-' then (textFrom s 1).map fun rest => (true, rest)
    else .ok (false, s)

/-- The number that a text without a radix prefix stands for. The reader `float?` is asked for what
the cursor has accepted. -/
def signed (float? : Text → Option Binary64) (s : Text) : Except BadOffset (Option Binary64) := do
  let (negative, rest) ← unsigned s
  if rest = "Infinity".toList then return some (.infinity negative)
  if ← isDecimal (encode rest) then return float? s
  return none

def bare (float? : Text → Option Binary64) (s : Text) : Except BadOffset (Option Binary64) := do
  if s.isEmpty then return some (.zero false)
  match ← radix s with
  | some value => return value
  | none => signed float? s

/-- The number that a text stands for, if it stands for one. -/
def read (float? : Text → Option Binary64) (t : Text) : Except BadOffset (Option Binary64) :=
  bare float? (trimWhile isPadding t)

theorem base?_eq_none_of_high {c : Char} (high : 128 ≤ c.toNat) : base? c = none := by
  have other {d : Char} (small : d.toNat < 128) : c ≠ d := by
    rintro rfl
    omega
  unfold base?
  rw [if_neg, if_neg, if_neg]
  · exact not_or.2 ⟨other (by decide), other (by decide)⟩
  · exact not_or.2 ⟨other (by decide), other (by decide)⟩
  · exact not_or.2 ⟨other (by decide), other (by decide)⟩

/-- The first octet of a character announces a base just if the character does. -/
theorem base?_octet {c : Char} {b : UInt8} {bs : Bytes}
    (shape : String.utf8EncodeChar c = b :: bs) : base? (byteChar b) = base? c := by
  rcases encodeChar_cases c with ⟨b', single, same⟩ | ⟨high, octets⟩
  · rw [single] at shape
    cases shape
    rw [same]
  · have above := octets b (shape ▸ List.mem_cons_self)
    rw [base?_eq_none_of_high high, base?_eq_none_of_high above]

theorem radix_zero (c : Char) (cs : Text) : radix ('0' :: c :: cs) =
    .ok ((base? c).map fun base => inBase? base cs) := by
  have two : ¬ ((encode ('0' :: c :: cs)).length < 2 ∨
      charAt? (encode ('0' :: c :: cs)) 0 ≠ some '0') := by
    rintro (short | other)
    · have := Char.utf8Size_pos c
      have zero : '0'.utf8Size = 1 := rfl
      rw [length_encode, byteSize, byteSize, zero] at short
      omega
    · exact other ((@charAt?_iff [] ('0' :: c :: cs) '0' (by decide)).2 rfl)
  obtain ⟨b, bs, shape⟩ := encodeChar_cons c
  have second : charAt? (encode (['0'] ++ c :: cs)) 1 = some (byteChar b) := by
    have first := @getElem?_encode ['0'] (c :: cs)
    rw [encode_cons c, shape] at first
    exact congrArg (Option.map byteChar) first
  rw [radix, if_neg two]
  rw [List.singleton_append] at second
  rw [second, Option.bind_some, base?_octet shape]
  cases known : base? c with
  | none => rfl
  | some base =>
    -- Only an ASCII character announces a base, so the cut behind two octets is between characters.
    have ascii : c.toNat < 128 := by
      apply Nat.lt_of_not_le
      intro high
      rw [base?_eq_none_of_high high] at known
      cases known
    have size : byteSize ['0', c] = 2 := byteSize_concat_ascii ['0'] ascii
    have digits := textFrom_append ['0', c] cs
    rw [size] at digits
    change (textFrom (['0', c] ++ cs) 2).map _ = _
    rw [digits]
    rfl

theorem radix_other {s : Text} (other : ∀ c cs, s ≠ '0' :: c :: cs) : radix s = .ok none := by
  unfold radix
  rw [if_pos]
  cases s with
  | nil => exact .inl (by decide)
  | cons d ds =>
    by_cases zero : d = '0'
    · subst zero
      cases ds with
      | nil => exact .inl (by decide)
      | cons c cs => exact absurd rfl (other c cs)
    · right
      intro first
      have same := (@charAt?_iff [] (d :: ds) '0' (by decide)).1 first
      exact zero (Option.some.inj same)

theorem unsigned_eq {s : Text} (full : s ≠ []) : unsigned s = .ok (Numeral.takeSign s) := by
  obtain ⟨c, cs, rfl⟩ := List.exists_cons_of_ne_nil full
  obtain ⟨b, bs, shape⟩ := encodeChar_cons c
  have octet : charAt? (encode (c :: cs)) 0 = some (byteChar b) := by
    rw [charAt?, encode_cons, shape]
    rfl
  have first {d : Char} (small : d.toNat < 128) : byteChar b = d ↔ c = d := by
    have same := @charAt?_iff [] (c :: cs) d small
    change charAt? (encode (c :: cs)) 0 = some d ↔ some c = some d at same
    rwa [octet, Option.some_inj, Option.some_inj] at same
  have rest (small : c.toNat < 128) : textFrom (c :: cs) 1 = .ok cs := by
    have cut := textFrom_append [c] cs
    rwa [byteSize, byteSize, utf8Size_ascii small] at cut
  simp only [unsigned, octet, first (show '+'.toNat < 128 by decide),
    first (show '-'.toNat < 128 by decide)]
  by_cases plus : c = '+'
  · subst plus
    rw [if_pos rfl, rest (by decide)]
    rfl
  · by_cases minus : c = '-'
    · subst minus
      rw [if_neg plus, if_pos rfl, rest (by decide)]
      rfl
    · rw [if_neg plus, if_neg minus, Numeral.takeSign]
      · rintro ds same
        exact minus (List.cons.inj same).1
      · rintro ds same
        exact plus (List.cons.inj same).1

/-- A text without a radix prefix is read as what it is, but a decimal literal is left to the given
reader. -/
theorem signed_eq (float? : Text → Option Binary64) {s : Text} (full : s ≠ []) :
    signed float? s = .ok (if (Numeral.takeSign s).2 = "Infinity".toList then
      some (.infinity (Numeral.takeSign s).1)
      else if (Numeral.parse? s).isSome then float? s else none) := by
  rw [signed, unsigned_eq full]
  change (if (Numeral.takeSign s).2 = "Infinity".toList then
    Except.ok (some (Binary64.infinity (Numeral.takeSign s).1))
    else (isDecimal (encode (Numeral.takeSign s).2)).bind fun accepted =>
      if accepted = true then .ok (float? s) else .ok none) = _
  rw [isDecimal_eq]
  split
  · rfl
  · cases (Numeral.parse? s).isSome <;> rfl

theorem signed_cases (float? : Text → Option Binary64) {s : Text} (full : s ≠ []) :
    signed float? s = .ok (signed? s) ∨ Numeral.Literal s ∧
      signed? s = (Numeral.parse? s).map (·.toBinary64) ∧ signed float? s = .ok (float? s) := by
  rw [signed_eq float? full, signed?]
  by_cases infinite : (Numeral.takeSign s).2 = "Infinity".toList
  · left
    rw [if_pos infinite, if_pos infinite]
  · rw [if_neg infinite, if_neg infinite]
    cases read : Numeral.parse? s with
    | none => exact .inl rfl
    | some n =>
      have literal := (Numeral.isSome_parse?_iff s).1 (read ▸ rfl)
      exact .inr ⟨literal, rfl, rfl⟩

/-- No cut fails, and the given reader is asked for decimal literals only. -/
theorem bare_cases (float? : Text → Option Binary64) (s : Text) :
    bare float? s = .ok (bare? s) ∨ Numeral.Literal s ∧
      bare? s = (Numeral.parse? s).map (·.toBinary64) ∧ bare float? s = .ok (float? s) := by
  have unprefixed (full : s ≠ []) (other : radix s = .ok none) :
      bare float? s = signed float? s := by
    have some : s.isEmpty = false := List.isEmpty_eq_false_iff.2 full
    rw [bare, some, other]
    rfl
  unfold bare?
  split
  case h_1 => exact .inl rfl
  case h_2 c cs =>
    cases known : base? c with
    | none =>
      rw [unprefixed (List.cons_ne_nil _ _) (by rw [radix_zero, known]; rfl)]
      exact signed_cases float? (List.cons_ne_nil _ _)
    | some base =>
      left
      rw [bare, radix_zero, known]
      rfl
  case h_3 some other =>
    rw [unprefixed some (radix_other other)]
    exact signed_cases float? some

/-- With a reader that reads decimal literals as they are, the numbers are the same. -/
theorem read_eq (t : Text) :
    read (fun s => (Numeral.parse? s).map (·.toBinary64)) t = .ok (parse? t) := by
  rcases bare_cases (fun s => (Numeral.parse? s).map (·.toBinary64)) (trimWhile isPadding t) with
    same | ⟨-, literal, same⟩
  · exact same
  · exact same.trans (congrArg Except.ok literal.symm)

/-- With any reader that reads all decimal literals, as many texts are read. -/
theorem exists_read {float? : Text → Option Binary64}
    (accepts : ∀ s, Numeral.Literal s → (float? s).isSome = true) (t : Text) :
    ∃ x?, read float? t = .ok x? ∧ x?.isSome = (parse? t).isSome := by
  rcases bare_cases float? (trimWhile isPadding t) with same | ⟨formed, literal, same⟩
  · exact ⟨_, same, rfl⟩
  · refine ⟨_, same, ?_⟩
    rw [accepts _ formed, parse?, literal, Option.isSome_map]
    exact ((Numeral.isSome_parse?_iff _).2 formed).symm

end Octets

/-- The texts that are read as numbers are the number literals with padding around them, and padding
alone is zero. Read octet by octet they are the same: no cut is made inside a character or past the
end, the cursor accepts the decimal literals, and what it accepts is not rejected by any reader that
reads those. -/
theorem parse?_exact (t : Text) :
    ((parse? t).isSome = true ↔ ∃ u, Unpads t u ∧ Formed u) ∧
    (Unpads t [] → parse? t = some (.zero false)) ∧
    Octets.read (fun s => (Numeral.parse? s).map (·.toBinary64)) t = .ok (parse? t) ∧
    (∀ s, Numeral.Octets.isDecimal (encode (Numeral.takeSign s).2) = .ok true ↔
      Numeral.Literal s) ∧
    ∀ float? : Text → Option Binary64, (∀ s, Numeral.Literal s → (float? s).isSome = true) →
      ∃ x?, Octets.read float? t = .ok x? ∧ x?.isSome = (parse? t).isSome := by
  refine ⟨isSome_parse?_iff t, ?_, Octets.read_eq t, ?_, ?_⟩
  · intro unpads
    rw [parse?, (unpads_iff t []).1 unpads]
    rfl
  · intro s
    rw [Numeral.Octets.isDecimal_eq, ← Numeral.isSome_parse?_iff]
    constructor
    · intro same
      exact Except.ok.inj same
    · intro read
      rw [read]
  · intro float? accepts
    exact Octets.exists_read accepts t

end NumberLiteral

end QueryDesk
