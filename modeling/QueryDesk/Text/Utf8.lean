import QueryDesk.Text.Basic

/-!
# UTF-8

Octets read as text. `decode?` accepts exactly well-formed UTF-8; `decodeLossy` reads anything and
puts U+FFFD for each longest run of octets that starts a character and does not finish it.
-/

set_option autoImplicit false

namespace QueryDesk

abbrev Bytes := List UInt8

namespace Text

/-- What a leading octet announces: its own bits of the code point, how many octets follow, and the
range of the first of them. The others are of `0x80` to `0xBF`. -/
structure Lead where
  bits : Nat
  following : Nat
  low : Nat
  high : Nat
  deriving DecidableEq, Repr

def lead? (b : Nat) : Option Lead :=
  if b < 0x80 then some ⟨b, 0, 0x80, 0xBF⟩
  else if b < 0xC2 then none
  else if b < 0xE0 then some ⟨b % 32, 1, 0x80, 0xBF⟩
  else if b = 0xE0 then some ⟨0, 2, 0xA0, 0xBF⟩
  else if b = 0xED then some ⟨13, 2, 0x80, 0x9F⟩
  else if b < 0xF0 then some ⟨b % 16, 2, 0x80, 0xBF⟩
  else if b = 0xF0 then some ⟨0, 3, 0x90, 0xBF⟩
  else if b < 0xF4 then some ⟨b % 8, 3, 0x80, 0xBF⟩
  else if b = 0xF4 then some ⟨4, 3, 0x80, 0x8F⟩
  else none

/-- Reads the announced octets as far as they fit. The rest starts at the first that does not. -/
def continued (code low high : Nat) : Nat → Bytes → Option Nat × Bytes
  | 0, bs => (some code, bs)
  | _ + 1, [] => (none, [])
  | n + 1, b :: bs =>
    if low ≤ b.toNat && b.toNat ≤ high then continued (code * 64 + b.toNat % 64) 0x80 0xBF n bs
    else (none, b :: bs)

/-- One character, or nothing where the octets start none or leave it unfinished. -/
def decodeFirst (b : UInt8) (bs : Bytes) : Option Char × Bytes :=
  match lead? b.toNat with
  | none => (none, bs)
  | some l =>
    let r := continued l.bits l.low l.high l.following bs
    (r.1.map Char.ofNat, r.2)

theorem continued_length (n code low high : Nat) (bs : Bytes) :
    (continued code low high n bs).2.length ≤ bs.length := by
  induction n generalizing code low high bs with
  | zero => simp [continued]
  | succ n ih =>
    cases bs with
    | nil => simp [continued]
    | cons b bs =>
      by_cases fits : (low ≤ b.toNat && b.toNat ≤ high) = true
      · simpa [continued, fits] using Nat.le_succ_of_le (ih _ _ _ _)
      · simp [continued, fits]

theorem decodeFirst_length (b : UInt8) (bs : Bytes) :
    (decodeFirst b bs).2.length ≤ bs.length := by
  unfold decodeFirst
  split
  · exact Nat.le_refl _
  · exact continued_length _ _ _ _ _

/-- The characters in order, with nothing standing for each place that holds none. -/
def decodeEach : Bytes → List (Option Char)
  | [] => []
  | b :: bs =>
    have := decodeFirst_length b bs
    (decodeFirst b bs).1 :: decodeEach (decodeFirst b bs).2
  termination_by bs => bs.length

def decode? (bs : Bytes) : Option Text := (decodeEach bs).mapM id

def decodeLossy (bs : Bytes) : Text := (decodeEach bs).map (·.getD '\uFFFD')

def encode (t : Text) : Bytes := t.flatMap String.utf8EncodeChar

end Text

end QueryDesk
