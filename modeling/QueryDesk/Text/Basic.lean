/-!
# Text

A text is its list of characters, read from the left. This module names the character classes that
SQL and table names are made of, all of them ASCII, and measures a text in UTF-8 bytes, the unit in
which spans are counted.
-/

set_option autoImplicit false

namespace QueryDesk

abbrev Text := List Char

namespace Text

/-- A letter, a digit or the underscore: the characters a bare SQL word consists of. -/
def isWordChar (c : Char) : Bool := c.isAlphanum || c == '_'

/-- The printable ASCII characters that are neither letters, digits nor the space. -/
def isPunctuation (c : Char) : Bool :=
  ('!' ≤ c && c ≤ '/') || (':' ≤ c && c ≤ '@') || ('[' ≤ c && c ≤ '\x60') || ('\x7b' ≤ c && c ≤ '~')

/-- Whether the code point of a character lies in one of the ranges, both ends included. -/
def inRanges (ranges : List (Nat × Nat)) (c : Char) : Bool :=
  ranges.any fun r => r.1 ≤ c.toNat && c.toNat ≤ r.2

/-- The value of a digit in a base up to sixteen; letters count in either case. -/
def digitValue? (base : Nat) (c : Char) : Option Nat :=
  let value :=
    if c.isDigit then some (c.toNat - '0'.toNat)
    else if 'a' ≤ c && c ≤ 'f' then some (c.toNat - 'a'.toNat + 10)
    else if 'A' ≤ c && c ≤ 'F' then some (c.toNat - 'A'.toNat + 10)
    else none
  value.filter (· < base)

/-- ASCII letters in upper case, everything else as it is. -/
def upper (t : Text) : Text := t.map Char.toUpper

/-- Equality up to the case of ASCII letters. -/
def sameWord (a b : Text) : Bool := upper a == upper b

/-- Whether a word character comes first. -/
def startsWithWord (t : Text) : Bool := t.head?.any isWordChar

/-- Whether a word character comes last. -/
def endsWithWord (t : Text) : Bool := t.getLast?.any isWordChar

/-- The length in UTF-8 bytes. -/
def byteSize : Text → Nat
  | [] => 0
  | c :: cs => c.utf8Size + byteSize cs

/-- What is left after the first `n` bytes. -/
def dropBytes : Text → Nat → Text
  | [], _ => []
  | c :: cs, n => if n = 0 then c :: cs else dropBytes cs (n - c.utf8Size)

/-- The first `n` bytes. -/
def takeBytes : Text → Nat → Text
  | [], _ => []
  | c :: cs, n => if n = 0 then [] else c :: takeBytes cs (n - c.utf8Size)

/-- The text between two byte offsets that stand between characters. -/
def slice (t : Text) (start stop : Nat) : Text := takeBytes (dropBytes t start) (stop - start)

/-- The pieces one after another, with `separator` between neighbours. -/
def join (separator : Text) (pieces : List Text) : Text := separator.intercalate pieces

def ofNat (n : Nat) : Text := Nat.toDigits 10 n

def ofInt (i : Int) : Text := if i < 0 then '-' :: ofNat i.natAbs else ofNat i.natAbs

/-- The number written by decimal digits; a character that is no digit counts for nothing. -/
def decimalValue (digits : Text) : Nat :=
  digits.foldl (fun n c => n * 10 + (digitValue? 10 c).getD 0) 0

/-- A text cut in two, with `front` put before it. -/
def extend (front : Text) (parts : Text × Text) : Text × Text := (front ++ parts.1, parts.2)

/-- The characters up to and including the first one with property `p`, and the rest. Without such
a character that is the whole text and nothing. -/
def through (p : Char → Bool) : Text → Text × Text
  | [] => ([], [])
  | c :: cs => if p c then ([c], cs) else extend [c] (through p cs)

@[simp] theorem extend_append (front : Text) (parts : Text × Text) :
    (extend front parts).1 ++ (extend front parts).2 = front ++ (parts.1 ++ parts.2) := by
  simp [extend]

theorem through_append (p : Char → Bool) (t : Text) : (through p t).1 ++ (through p t).2 = t := by
  induction t with
  | nil => rfl
  | cons c cs ih => by_cases h : p c <;> simp [through, h, ih]

theorem byteSize_append (a b : Text) : byteSize (a ++ b) = byteSize a + byteSize b := by
  induction a with
  | nil => simp [byteSize]
  | cons c cs ih => simp [byteSize, ih, Nat.add_assoc]

end Text

end QueryDesk
