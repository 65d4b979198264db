import QueryDesk.Number.Decimal
import QueryDesk.Number.Extended
import QueryDesk.Number.Literal

/-!
# Reals of the store

How the store reads a decimal numeral as a number, and how it writes a number as text. Both work on
a significand of about nineteen digits in extended precision, so that a number which lies close to
the middle of two others may come out as the farther one.
-/

set_option autoImplicit false

namespace QueryDesk.Store

/-- A significand this great takes up no further digit. -/
def fullSignificand : Nat := 1844674407370955160

/-- A significand this great is not multiplied by ten. -/
def wideSignificand : Nat := 1844674407370955161

/-- The digits up to the one that makes the significand full. Each of the others counts as a power
of ten. A significand is full with its nineteenth or twentieth digit. -/
def leading (d : Decimal) : Decimal :=
  let count := (Text.ofNat d.digits).length
  let nineteen := d.digits / Nat.pow 10 (count - 19)
  let dropped := if nineteen < fullSignificand then count - 20 else count - 19
  ⟨d.digits / Nat.pow 10 dropped, d.exponent + (dropped : Nat)⟩

/-- Takes powers of ten into a significand while it has room: the significand, and how many powers
are left. -/
def absorb (significand : Nat) : Nat → Nat × Nat
  | 0 => (significand, 0)
  | n + 1 =>
    if significand < wideSignificand then absorb (10 * significand) n else (significand, n + 1)

/-- Takes negative powers of ten into a significand while it ends in zero. -/
def cancel (significand : Nat) : Nat → Nat × Nat
  | 0 => (significand, 0)
  | n + 1 =>
    if significand % 10 = 0 then cancel (significand / 10) n else (significand, n + 1)

/-- A decimal in extended precision, by powers of ten from left to right. -/
def approximate (d : Decimal) : Extended :=
  if 0 ≤ d.exponent then
    let r := absorb d.digits d.exponent.toNat
    Extended.Tens.rising.scale r.2 (.ofNat r.1)
  else
    let r := cancel d.digits (-d.exponent).toNat
    Extended.Tens.falling.scale r.2 (.ofNat r.1)

/-- The number that a numeral is read as. Beyond 400 powers of ten every significand is infinite,
or zero. -/
def readReal (n : Numeral) : Binary64 :=
  let d := leading ⟨n.digits, n.exponent⟩
  if n.digits = 0 ∨ d.exponent < -400 then .zero n.negative
  else if 400 < d.exponent then .infinity n.negative
  else (approximate d).toBinary64 n.negative

/-- A magnitude and a power of ten. -/
abbrev Scaled := Extended × Int

/-- Multiplies the magnitude by `factor`, which is worth `step` powers of ten, while property `p`
holds. -/
def scaleWhile (p : Extended → Bool) (factor : Extended) (step : Int) (limit : Nat) (s : Scaled) :
    Scaled :=
  match limit with
  | 0 => s
  | limit + 1 =>
    if p s.1 then scaleWhile p factor step limit (s.1.times factor, s.2 - step) else s

/-- Brings the magnitude of a finite number other than zero between `10 ^ 17` and `10 ^ 19`. No
factor is needed more than twenty times. -/
def normalized (x : Binary64) : Scaled :=
  let below (bound : Extended) (y : Extended) : Bool := !y.atLeast bound
  let above (power : Nat) (y : Extended) : Bool := y.atLeast (.ofNat (Nat.pow 10 power))
  let up := Extended.Tens.rising
  let down := Extended.Tens.falling
  let start : Scaled := (.ofBinary64 x, 0)
  if above 19 start.1 then
    scaleWhile (above 19) down.one (-1) 20 <|
      scaleWhile (above 29) down.ten (-10) 20 <|
        scaleWhile (above 119) down.hundred (-100) 20 start
  else
    scaleWhile (below (.ofNat (Nat.pow 10 17))) up.one 1 20 <|
      scaleWhile (below (.ofNat (Nat.pow 10 7))) up.ten 10 20 <|
        scaleWhile (below (.ofReciprocal (Nat.pow 10 97))) up.hundred 100 20 start

/-- Fifteen digits of a finite number other than zero, a half going up. -/
def fifteenDigits (x : Binary64) : Decimal :=
  let s := normalized x
  let surplus := (Text.ofNat s.1.floor).length - 15
  let unit := Nat.pow 10 surplus
  ⟨(2 * s.1.floor + unit) / (2 * unit), s.2 + (surplus : Nat)⟩

/-- A significand without the zeros at its end; `limit` bounds their number. -/
def dropZeros (limit : Nat) (d : Decimal) : Decimal :=
  match limit with
  | 0 => d
  | limit + 1 =>
    if d.digits % 10 = 0 then dropZeros limit ⟨d.digits / 10, d.exponent + 1⟩ else d

/-- One digit before the point, and a power of ten of two digits at least. -/
def scientific (digits : Text) (power : Int) : Text :=
  let fraction := if digits.length ≤ 1 then ['0'] else digits.drop 1
  let shown := Text.ofNat power.natAbs
  digits.take 1 ++ '.' :: fraction ++ 'e' :: (if power < 0 then '-' else '+') ::
    (List.replicate (2 - shown.length) '0' ++ shown)

/-- A number as text: fifteen significant digits, a point in any case, and powers of ten where the
digits do not reach the point. -/
def numberText (x : Binary64) : Text :=
  let sign := if x.negative then ['-'] else []
  if !x.isFinite then sign ++ "Inf".toList
  else if x.units = 0 then "0.0".toList
  else
    let d := dropZeros 16 (fifteenDigits x)
    let digits := Text.ofNat d.digits
    let power := d.exponent + (digits.length : Nat) - 1
    if power < -4 ∨ 14 < power then sign ++ scientific digits power
    else sign ++ d.positional ++ (if 0 ≤ d.exponent then ['.', '0'] else [])

end QueryDesk.Store
