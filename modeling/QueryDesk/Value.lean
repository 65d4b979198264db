import QueryDesk.Text.Utf8
import QueryDesk.Number.Decimal

/-!
# Values

The values of a database cell and how a viewer prints them. A finite real always prints with a point,
also where it is whole, and an integer never does, so the two can be told apart.
-/

set_option autoImplicit false

namespace QueryDesk

inductive Value where
  | null
  | integer (i : Int64)
  | real (x : Binary64)
  | text (t : Text)
  | blob (bytes : Bytes)
  deriving DecidableEq, Repr

namespace Binary64

/-- Positional, with the exact digits and one place if whole, and else with the fewest digits that
read back. -/
def print (x : Binary64) : Text :=
  let sign := if x.negative then ['-'] else []
  if x.isNaN then "NaN".toList
  else if !x.isFinite then sign ++ "inf".toList
  else if x.isWhole then sign ++ Text.ofNat (x.units / unitsPerOne) ++ ".0".toList
  else sign ++ (Decimal.shortest x).positional

end Binary64

namespace Value

def upperHexDigit (n : Nat) : Char := (Nat.digitChar n).toUpper

/-- Two upper-case hexadecimal digits. -/
def hexByte (b : UInt8) : Text := [upperHexDigit (b.toNat / 16), upperHexDigit (b.toNat % 16)]

/-- What a viewer shows. Text stands without quotes. -/
def print : Value → Text
  | .null => "NULL".toList
  | .integer i => Text.ofInt i.toInt
  | .real x => x.print
  | .text t => t
  | .blob bytes => "X'".toList ++ bytes.flatMap hexByte ++ ['\'']

def isNull : Value → Bool
  | .null => true
  | _ => false

def asInteger? : Value → Option Int64
  | .integer i => some i
  | _ => none

def asReal? : Value → Option Binary64
  | .real x => some x
  | _ => none

def asText? : Value → Option Text
  | .text t => some t
  | _ => none

/-- A stored text is bytes; those that are no UTF-8 show as replacement characters. -/
def ofStoredText (bytes : Bytes) : Value := .text (Text.decodeLossy bytes)

end Value

end QueryDesk
