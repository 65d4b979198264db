import QueryDesk.Text.Utf8
import QueryDesk.Proofs.Text.Classes
import QueryDesk.Proofs.Text.Offset

/-!
# Octets of a text and its characters

An ASCII character is one octet, and every octet of another character lies above ASCII
(`encodeChar_cases`). So a class of ASCII characters has the same runs in a text and in its octets
(`takeWhile_encode`), and an octet found in such a class is a whole character.
-/

set_option autoImplicit false

namespace QueryDesk.Text

/-- The character of the code point that an octet is as a number. -/
def byteChar (b : UInt8) : Char := Char.ofNat b.toNat

theorem toNat_byteChar (b : UInt8) : (byteChar b).toNat = b.toNat := by
  have valid : b.toNat.isValidChar := .inl (Nat.lt_trans b.toNat_lt (by decide))
  rw [byteChar, Char.ofNat, dif_pos valid]
  rfl

theorem encodeChar_ascii {c : Char} (ascii : c.toNat < 128) :
    ∃ b, String.utf8EncodeChar c = [b] ∧ byteChar b = c := by
  have small : c.val.toNat ≤ 0x7f := Nat.le_of_lt_succ ascii
  refine ⟨UInt8.ofNat c.val.toNat, ?_, ?_⟩
  · unfold String.utf8EncodeChar
    rw [if_pos small]
  · rw [eq_iff_toNat, toNat_byteChar, UInt8.toNat_ofNat']
    exact Nat.mod_eq_of_lt (by omega)

theorem utf8Size_ascii {c : Char} (ascii : c.toNat < 128) : c.utf8Size = 1 := by
  obtain ⟨b, single, -⟩ := encodeChar_ascii ascii
  rw [← String.length_utf8EncodeChar, single]
  rfl

theorem encodeChar_high {c : Char} (high : 128 ≤ c.toNat) :
    ∀ b ∈ String.utf8EncodeChar c, 128 ≤ (byteChar b).toNat := by
  intro b member
  have above : ¬ c.val.toNat ≤ 0x7f := Nat.not_le_of_lt high
  rw [toNat_byteChar]
  unfold String.utf8EncodeChar at member
  simp only [if_neg above] at member
  split at member
  · simp only [List.mem_cons, List.not_mem_nil, or_false] at member
    rcases member with rfl | rfl <;> rw [UInt8.toNat_ofNat'] <;> omega
  · split at member
    · simp only [List.mem_cons, List.not_mem_nil, or_false] at member
      rcases member with rfl | rfl | rfl <;> rw [UInt8.toNat_ofNat'] <;> omega
    · simp only [List.mem_cons, List.not_mem_nil, or_false] at member
      rcases member with rfl | rfl | rfl | rfl <;> rw [UInt8.toNat_ofNat'] <;> omega

/-- A character is one octet of ASCII, or all its octets lie above ASCII. -/
theorem encodeChar_cases (c : Char) :
    (∃ b, String.utf8EncodeChar c = [b] ∧ byteChar b = c) ∨
      (128 ≤ c.toNat ∧ ∀ b ∈ String.utf8EncodeChar c, 128 ≤ (byteChar b).toNat) := by
  by_cases ascii : c.toNat < 128
  · exact .inl (encodeChar_ascii ascii)
  · exact .inr ⟨by omega, encodeChar_high (by omega)⟩

theorem encode_nil : encode [] = [] := rfl

theorem encode_cons (c : Char) (cs : Text) :
    encode (c :: cs) = String.utf8EncodeChar c ++ encode cs := List.flatMap_cons

theorem encode_append (a b : Text) : encode (a ++ b) = encode a ++ encode b :=
  List.flatMap_append

theorem length_encode (t : Text) : (encode t).length = byteSize t := by
  induction t with
  | nil => rfl
  | cons c cs ih =>
    rw [encode_cons, List.length_append, String.length_utf8EncodeChar, ih, byteSize]

theorem drop_encode (a b : Text) : (encode (a ++ b)).drop (byteSize a) = encode b := by
  rw [encode_append, ← length_encode, List.drop_left]

theorem encodeChar_cons (c : Char) : ∃ b bs, String.utf8EncodeChar c = b :: bs :=
  List.exists_cons_of_ne_nil String.utf8EncodeChar_ne_nil

/-- Whether a class has ASCII characters only. -/
def Ascii (p : Char → Bool) : Prop := ∀ c, p c = true → c.toNat < 128

theorem ascii_isWordChar : Ascii isWordChar := by
  intro c inside
  rw [isWordChar_iff] at inside
  omega

theorem ascii_isDigit : Ascii Char.isDigit := by
  intro c inside
  rw [isDigit_iff] at inside
  omega

theorem ascii_isAlpha : Ascii Char.isAlpha := by
  intro c inside
  rw [isAlpha_iff] at inside
  omega

theorem ascii_isPunctuation : Ascii isPunctuation := by
  intro c inside
  rw [isPunctuation_iff] at inside
  omega

theorem ascii_beq {d : Char} (small : d.toNat < 128) : Ascii (· == d) := by
  intro c inside
  rw [beq_iff_eq] at inside
  exact inside ▸ small

theorem Ascii.outside {p : Char → Bool} (ascii : Ascii p) {c : Char} (high : 128 ≤ c.toNat) :
    p c = false := by
  cases inside : p c with
  | false => rfl
  | true =>
    have := ascii c inside
    omega

variable {p : Char → Bool}

/-- Outside of the class, all octets of a character are outside of it. -/
theorem Ascii.octets (ascii : Ascii p) {c : Char} (outside : p c = false) :
    ∀ b ∈ String.utf8EncodeChar c, p (byteChar b) = false := by
  intro b member
  rcases encodeChar_cases c with ⟨b', single, same⟩ | ⟨-, high⟩
  · rw [single, List.mem_singleton] at member
    rw [member, same, outside]
  · exact ascii.outside (high b member)

/-- A character of the class is one octet. -/
theorem Ascii.octet (ascii : Ascii p) {c : Char} (inside : p c = true) :
    ∃ b, String.utf8EncodeChar c = [b] ∧ byteChar b = c :=
  encodeChar_ascii (ascii c inside)

theorem Ascii.head?_encode (ascii : Ascii p) (t : Text) :
    (encode t).head?.any (p ∘ byteChar) = t.head?.any p := by
  cases t with
  | nil => rfl
  | cons c cs =>
    obtain ⟨b, bs, shape⟩ := encodeChar_cons c
    have first : p (byteChar b) = p c := by
      cases inside : p c with
      | false => exact ascii.octets inside b (shape ▸ List.mem_cons_self ..)
      | true =>
        obtain ⟨b', single, same⟩ := ascii.octet inside
        rw [single] at shape
        cases shape
        rw [same, inside]
    rw [encode_cons, shape]
    exact first

theorem Ascii.getLast?_encode (ascii : Ascii p) (t : Text) :
    (encode t).getLast?.any (p ∘ byteChar) = t.getLast?.any p := by
  rcases List.eq_nil_or_concat t with rfl | ⟨front, c, rfl⟩
  · rfl
  · obtain ⟨bs, b, shape⟩ : ∃ bs b, String.utf8EncodeChar c = bs ++ [b] := by
      rcases List.eq_nil_or_concat (String.utf8EncodeChar c) with none | ⟨bs, b, shape⟩
      · exact absurd none String.utf8EncodeChar_ne_nil
      · exact ⟨bs, b, shape.trans List.concat_eq_append⟩
    have last : p (byteChar b) = p c := by
      cases inside : p c with
      | false => exact ascii.octets inside b (by simp [shape])
      | true =>
        obtain ⟨b', single, same⟩ := ascii.octet inside
        have one : b = b' := by simpa [shape] using congrArg List.getLast? single
        rw [one, same, inside]
    rw [List.concat_eq_append, encode_append, encode_cons, encode_nil, List.append_nil, shape]
    simpa using last

/-- A run of the class is the same octet by octet. -/
theorem Ascii.takeWhile_encode (ascii : Ascii p) (t : Text) :
    (encode t).takeWhile (p ∘ byteChar) = encode (t.takeWhile p) := by
  induction t with
  | nil => rfl
  | cons c cs ih =>
    cases inside : p c with
    | true =>
      obtain ⟨b, single, same⟩ := ascii.octet inside
      rw [encode_cons, single, List.takeWhile_cons_of_pos inside, encode_cons, single]
      simp [same, inside, ih]
    | false =>
      obtain ⟨b, bs, shape⟩ := encodeChar_cons c
      have first := ascii.octets inside b (shape ▸ List.mem_cons_self ..)
      rw [encode_cons, shape]
      simp [first, inside, encode_nil]

end QueryDesk.Text
