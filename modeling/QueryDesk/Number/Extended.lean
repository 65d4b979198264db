import QueryDesk.Number.Binary64

/-!
# Extended precision

Magnitudes of 64 significant bits, with an exponent of any size. A product is rounded to the nearest
of them, and if two are equally near, to the even one. Scaling by a power of ten takes one factor
after another, so that each of them may round.
-/

set_option autoImplicit false

namespace QueryDesk

/-- The magnitude `significand * 2 ^ exponent`. -/
structure Extended where
  significand : Nat
  exponent : Int
  deriving DecidableEq, Repr

namespace Extended

open Binary64 (divNearest)

/-- The magnitude nearest to `n * 2 ^ exponent`. -/
def nearest (n : Nat) (exponent : Int) : Extended :=
  let excess := n.log2 - 63
  ⟨divNearest n (1 <<< excess), exponent + (excess : Nat)⟩

def ofNat (n : Nat) : Extended := nearest n 0

/-- The magnitude nearest to the reciprocal. The quotient has 64 bits, or is a power of two. -/
def ofReciprocal (n : Nat) : Extended :=
  let scale := 64 + n.log2
  ⟨divNearest (1 <<< scale) n, -(scale : Nat)⟩

/-- The magnitude of a finite number, exactly. -/
def ofBinary64 (x : Binary64) : Extended := ⟨x.units, -1074⟩

/-- The rounded product. -/
def times (x y : Extended) : Extended :=
  nearest (x.significand * y.significand) (x.exponent + y.exponent)

/-- Whether a magnitude is at least as great as another one. -/
def atLeast (x bound : Extended) : Bool :=
  bound.significand <<< (bound.exponent - x.exponent).toNat ≤
    x.significand <<< (x.exponent - bound.exponent).toNat

/-- The whole part. -/
def floor (x : Extended) : Nat := (x.significand <<< x.exponent.toNat) >>> (-x.exponent).toNat

/-- The greatest finite magnitude of binary64. -/
def greatestFinite : Nat := (1 <<< 53 - 1) <<< 971

/-- The nearest number of binary64. What is above the greatest finite one is infinite, however near
to it. -/
def toBinary64 (negative : Bool) (x : Extended) : Binary64 :=
  let num := x.significand <<< x.exponent.toNat
  let den := 1 <<< (-x.exponent).toNat
  if greatestFinite * den < num then .infinity negative else .ofRatio negative num den

/-- Ten to the powers 100, 10 and 1, or the reciprocals of these. -/
structure Tens where
  hundred : Extended
  ten : Extended
  one : Extended
  deriving DecidableEq, Repr

namespace Tens

def rising : Tens := ⟨ofNat (Nat.pow 10 100), ofNat (Nat.pow 10 10), ofNat 10⟩

def falling : Tens :=
  ⟨ofReciprocal (Nat.pow 10 100), ofReciprocal (Nat.pow 10 10), ofReciprocal 10⟩

/-- Scales a magnitude by `n` powers of ten, the great factors first. -/
def scale (tens : Tens) (n : Nat) (x : Extended) : Extended :=
  Nat.repeat (·.times tens.one) (n % 10) <|
    Nat.repeat (·.times tens.ten) (n % 100 / 10) <|
      Nat.repeat (·.times tens.hundred) (n / 100) x

end Tens

end Extended

end QueryDesk
