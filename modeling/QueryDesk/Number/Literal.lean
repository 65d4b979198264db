import QueryDesk.Text.Blank
import QueryDesk.Number.Binary64

/-!
# Number literals

What counts as a number in text: decimal literals with a sign, a fraction and an exponent, infinity
by its name, and whole numbers in base sixteen, eight or two. Blanks and byte-order marks around it
are ignored, and nothing at all is zero.
-/

set_option autoImplicit false

namespace QueryDesk

/-- A decimal literal: `± digits * 10 ^ exponent`. `plain` tells that it was written as digits
alone, with neither a point nor an exponent. -/
structure Numeral where
  negative : Bool
  digits : Nat
  exponent : Int
  plain : Bool
  deriving DecidableEq, Repr

namespace Numeral

open Text

/-- Whether a minus sign comes first, and the text without its sign. -/
def takeSign : Text → Bool × Text
  | '-' :: cs => (true, cs)
  | '+' :: cs => (false, cs)
  | t => (false, t)

def allDigits (t : Text) : Bool := !t.isEmpty && t.all Char.isDigit

/-- The exponent part after the digits, which may be missing. -/
def exponent? : Text → Option Int
  | [] => some 0
  | c :: cs =>
    let r := takeSign cs
    if (c = 'e' ∨ c = 'E') ∧ allDigits r.2 then
      some (if r.1 then -(decimalValue r.2 : Nat) else (decimalValue r.2 : Nat))
    else none

/-- The digits after a point, and the rest. -/
def takeFraction : Text → Text × Text
  | '.' :: cs => (cs.takeWhile Char.isDigit, cs.dropWhile Char.isDigit)
  | t => ([], t)

/-- Reads a whole text as a decimal literal. -/
def parse? (t : Text) : Option Numeral :=
  let signed := takeSign t
  let whole := signed.2.takeWhile Char.isDigit
  let fraction := takeFraction (signed.2.dropWhile Char.isDigit)
  if whole.isEmpty && fraction.1.isEmpty then none
  else
    (exponent? fraction.2).map fun e =>
      ⟨signed.1, decimalValue (whole ++ fraction.1), e - (fraction.1.length : Nat),
        allDigits signed.2⟩

def toBinary64 (n : Numeral) : Binary64 := .ofDecimal n.negative n.digits n.exponent

end Numeral

namespace NumberLiteral

open Text

/-- The base that a letter after a leading zero announces. -/
def base? (c : Char) : Option Nat :=
  if c = 'x' ∨ c = 'X' then some 16
  else if c = 'o' ∨ c = 'O' then some 8
  else if c = 'b' ∨ c = 'B' then some 2
  else none

/-- Takes up the digits one by one, rounding after each product and each sum. -/
def accumulate (base : Nat) (x : Binary64) : Text → Option Binary64
  | [] => some x
  | c :: cs =>
    (digitValue? base c).bind fun d => accumulate base ((x.timesNat base).plusNat d) cs

def inBase? (base : Nat) (digits : Text) : Option Binary64 :=
  if digits.isEmpty then none else accumulate base (.zero false) digits

/-- Infinity or a decimal literal, with a sign or without. -/
def signed? (t : Text) : Option Binary64 :=
  let r := Numeral.takeSign t
  if r.2 = "Infinity".toList then some (.infinity r.1) else (Numeral.parse? t).map (·.toBinary64)

/-- A literal without anything around it. -/
def bare? : Text → Option Binary64
  | [] => some (.zero false)
  | '0' :: c :: cs =>
    match base? c with
    | some base => inBase? base cs
    | none => signed? ('0' :: c :: cs)
  | t => signed? t

def isPadding (c : Char) : Bool := isBlank c || c == byteOrderMark

/-- The number that a text stands for, if it stands for one. -/
def parse? (t : Text) : Option Binary64 := bare? (trimWhile isPadding t)

end NumberLiteral

end QueryDesk
