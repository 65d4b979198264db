import QueryDesk.Text.Basic
import QueryDesk.Number.Binary64

/-!
# Decimal digits of binary64 numbers

The fewest digits that read back as a number, found by comparing exact products of natural numbers:
on the grid of the multiples of a power of ten only the two neighbours of the number can be the
answer.
-/

set_option autoImplicit false

namespace QueryDesk

/-- `digits * 10 ^ exponent`. -/
structure Decimal where
  digits : Nat
  exponent : Int
  deriving DecidableEq, Repr

namespace Decimal

open Binary64 (unitsOfCode unitsPerOne)

/-- Written without an exponent, with a point only where digits follow it. -/
def positional (d : Decimal) : Text :=
  let shown := Text.ofNat d.digits
  if 0 ≤ d.exponent then shown ++ List.replicate d.exponent.toNat '0'
  else
    let places := (-d.exponent).toNat
    if places < shown.length then
      shown.take (shown.length - places) ++ '.' :: shown.drop (shown.length - places)
    else '0' :: '.' :: (List.replicate (places - shown.length) '0' ++ shown)

/-- How many zeros follow the point of a number below one, up to `limit`. -/
def leadingZeros (limit units : Nat) : Nat :=
  match limit with
  | 0 => 0
  | limit + 1 => if unitsPerOne ≤ 10 * units then 0 else leadingZeros limit (10 * units) + 1

/-- The power of ten next above a magnitude. -/
def pointPosition (units : Nat) : Int :=
  if unitsPerOne ≤ units then (Text.ofNat (units / unitsPerOne)).length
  else -(leadingZeros 400 units : Nat)

/-- The multiple of `10 ^ exponent` that lies nearest to a magnitude among the two beside it, and
reads back as it. What reads back is nearer to it than to the magnitudes next to it; on the border
the even code wins. A tie goes up. -/
def onGrid? (code : Nat) (exponent : Int) : Option Nat :=
  let finer := Nat.pow 10 (-exponent).toNat
  let step := unitsPerOne * Nat.pow 10 exponent.toNat
  let value := unitsOfCode code * finer
  let low := unitsOfCode (code - 1) * finer + value
  let high := value + unitsOfCode (code + 1) * finer
  let readsBack (n : Nat) : Bool :=
    if code % 2 = 0 then low ≤ 2 * n * step && 2 * n * step ≤ high
    else low < 2 * n * step && 2 * n * step < high
  let below := value / step
  if readsBack below && readsBack (below + 1) then
    some (if 2 * value < (2 * below + 1) * step then below else below + 1)
  else if readsBack below then some below
  else if readsBack (below + 1) then some (below + 1)
  else none

/-- Without a zero at the end. -/
def dropZero (d : Decimal) : Decimal :=
  if d.digits % 10 = 0 then ⟨d.digits / 10, d.exponent + 1⟩ else d

/-- The decimal with the fewest digits that reads back as a finite number other than zero; of those
the nearest. Seventeen digits always do. -/
def shortest (x : Binary64) : Decimal :=
  let position := pointPosition x.units
  let found := (List.range 17).findSome? fun i =>
    let exponent := position - 1 - (i : Nat)
    (onGrid? x.magnitude.val exponent).map fun n => (⟨n, exponent⟩ : Decimal)
  (found.map dropZero).getD ⟨x.units, 0⟩

end Decimal

end QueryDesk
