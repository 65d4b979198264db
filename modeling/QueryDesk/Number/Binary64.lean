/-!
# Binary64

The floating-point numbers of IEEE 754 binary64 and correct rounding to them, over natural numbers
only. Every finite number is a whole multiple of `2 ^ -1074`, so its magnitude is a natural number
of those units. The codes of the magnitudes are in the order of the magnitudes, and the code after
the greatest finite one is infinity.
-/

set_option autoImplicit false

namespace QueryDesk

/-- Sign and magnitude. The magnitude's code is the exponent field above 52 bits of fraction. -/
structure Binary64 where
  negative : Bool
  magnitude : Fin 0x8000000000000000
  deriving DecidableEq, Repr

namespace Binary64

/-- The weight of the exponent field's last bit. -/
def exponentUnit : Nat := 0x10000000000000

/-- The weight of the sign. -/
def signUnit : Nat := 0x8000000000000000

/-- The code of infinity. Greater ones are not numbers. -/
def infinityCode : Nat := 2047 * exponentUnit

def unitsPerOne : Nat := 1 <<< 1074

/-- The units in the magnitude with the given code. -/
def unitsOfCode (code : Nat) : Nat :=
  if code < exponentUnit then code
  else (exponentUnit + code % exponentUnit) <<< (code / exponentUnit - 1)

def units (x : Binary64) : Nat := unitsOfCode x.magnitude.val

def isFinite (x : Binary64) : Bool := x.magnitude.val < infinityCode

def isNaN (x : Binary64) : Bool := infinityCode < x.magnitude.val

/-- Finite, and without a fractional part. -/
def isWhole (x : Binary64) : Bool := x.isFinite && x.units % unitsPerOne == 0

def zero (negative : Bool) : Binary64 := ⟨negative, ⟨0, by decide⟩⟩

def infinity (negative : Bool) : Binary64 := ⟨negative, ⟨infinityCode, by decide⟩⟩

def nan : Binary64 := ⟨false, ⟨infinityCode + exponentUnit / 2, by decide⟩⟩

/-- The whole number nearest to a quotient, the even one of two that are equally near. -/
def divNearest (num den : Nat) : Nat :=
  let rest := num % den
  if den < 2 * rest ∨ (den = 2 * rest ∧ num / den % 2 = 1) then num / den + 1 else num / den

/-- The code of the magnitude nearest to a quotient: 53 significant bits, fewer near zero. A carry
out of the significand runs into the exponent, as it should. -/
def codeOfRatio (num den : Nat) : Nat :=
  let scaled := num * unitsPerOne
  let shift := (scaled / den).log2 - 52
  min infinityCode (shift * exponentUnit + divNearest scaled (den <<< shift))

theorem codeOfRatio_le (num den : Nat) : codeOfRatio num den ≤ infinityCode := Nat.min_le_left _ _

/-- The number nearest to a quotient. -/
def ofRatio (negative : Bool) (num den : Nat) : Binary64 :=
  ⟨negative, ⟨codeOfRatio num den, Nat.lt_of_le_of_lt (codeOfRatio_le num den) (by decide)⟩⟩

/-- The number nearest to `digits * 10 ^ exponent`. Far beyond the range of the format the answer
is known without the power. -/
def ofDecimal (negative : Bool) (digits : Nat) (exponent : Int) : Binary64 :=
  if digits = 0 then zero negative
  else if 310 < exponent then infinity negative
  else if 0 ≤ exponent then ofRatio negative (digits * Nat.pow 10 exponent.toNat) 1
  else if digits.log2 + 1081 ≤ 3 * (-exponent).toNat then zero negative
  else ofRatio negative digits (Nat.pow 10 (-exponent).toNat)

def ofInt (i : Int) : Binary64 := ofRatio (i < 0) i.natAbs 1

/-- The rounded product with a whole number. -/
def timesNat (x : Binary64) (k : Nat) : Binary64 :=
  if x.isFinite then ofRatio x.negative (x.units * k) unitsPerOne else x

/-- The rounded sum of a number that is not negative and a whole number. -/
def plusNat (x : Binary64) (k : Nat) : Binary64 :=
  if x.isFinite then ofRatio false (x.units + k * unitsPerOne) unitsPerOne else x

/-- The 64 bits of the interchange format, as a number. -/
def toBits (x : Binary64) : Nat := (if x.negative then signUnit else 0) + x.magnitude.val

def ofBits (bits : Nat) : Binary64 :=
  ⟨bits / signUnit % 2 == 1, ⟨bits % signUnit, Nat.mod_lt _ (by decide)⟩⟩

end Binary64

end QueryDesk
