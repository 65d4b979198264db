import QueryDesk.Files
import QueryDesk.Proofs.Text.Encoding

/-!
# Octets that are a text

`decodeFirst` reads the octets of a character where they stand and nothing else
(`decodeFirst_eq_some_iff`), so `decode?` has a text for exactly those octets that the text is encoded
to. Of a file this says when it can be read (`readText_eq_ok_iff`).
-/

set_option autoImplicit false

namespace QueryDesk.Text

theorem continued_zero_iff {code low high v : Nat} {bs rest : Bytes} :
    continued code low high 0 bs = (some v, rest) ↔ code = v ∧ bs = rest := by
  rw [continued, Prod.mk.injEq, Option.some.injEq]

theorem continued_succ_iff {code low high n v : Nat} {bs rest : Bytes} :
    continued code low high (n + 1) bs = (some v, rest) ↔
      ∃ b bs', bs = b :: bs' ∧ low ≤ b.toNat ∧ b.toNat ≤ high ∧
        continued (code * 64 + b.toNat % 64) 0x80 0xBF n bs' = (some v, rest) := by
  constructor
  · intro found
    cases bs with
    | nil => cases found
    | cons b bs' =>
      rw [continued] at found
      split at found
      case isTrue fits =>
        rw [Bool.and_eq_true, decide_eq_true_eq, decide_eq_true_eq] at fits
        exact ⟨b, bs', rfl, fits.1, fits.2, found⟩
      case isFalse => cases found
  · rintro ⟨b, bs', rfl, above, below, found⟩
    rw [continued, if_pos (by simp [above, below])]
    exact found

/-- What may begin a character, by the number of octets that follow. -/
theorem lead?_eq_some_iff {b bits n low high : Nat} : lead? b = some ⟨bits, n, low, high⟩ ↔
    (n = 0 ∧ b < 0x80 ∧ bits = b ∧ low = 0x80 ∧ high = 0xBF) ∨
    (n = 1 ∧ 0xC2 ≤ b ∧ b < 0xE0 ∧ bits = b % 32 ∧ low = 0x80 ∧ high = 0xBF) ∨
    (n = 2 ∧ 0xE0 ≤ b ∧ b < 0xF0 ∧ bits = b % 16 ∧
      (b = 0xE0 ∧ low = 0xA0 ∨ b ≠ 0xE0 ∧ low = 0x80) ∧
      (b = 0xED ∧ high = 0x9F ∨ b ≠ 0xED ∧ high = 0xBF)) ∨
    (n = 3 ∧ 0xF0 ≤ b ∧ b < 0xF5 ∧ bits = b % 8 ∧
      (b = 0xF0 ∧ low = 0x90 ∨ b ≠ 0xF0 ∧ low = 0x80) ∧
      (b = 0xF4 ∧ high = 0x8F ∨ b ≠ 0xF4 ∧ high = 0xBF)) := by
  unfold lead?
  repeat' split
  all_goals
    simp only [Option.some.injEq, Lead.mk.injEq, reduceCtorEq, false_iff]
    omega

/-- The octets of a code point, by how many there are. -/
inductive Octets (v : Nat) : Bytes → Prop
  | one {a : UInt8} : v < 0x80 → a.toNat = v → Octets v [a]
  | two {a b : UInt8} : 0x80 ≤ v → v < 0x800 → a.toNat = 0xC0 + v / 64 →
      b.toNat = 0x80 + v % 64 → Octets v [a, b]
  | three {a b c : UInt8} : 0x800 ≤ v → v < 0x10000 → a.toNat = 0xE0 + v / 4096 →
      b.toNat = 0x80 + v / 64 % 64 → c.toNat = 0x80 + v % 64 → Octets v [a, b, c]
  | four {a b c d : UInt8} : 0x10000 ≤ v → v < 0x110000 → a.toNat = 0xF0 + v / 262144 →
      b.toNat = 0x80 + v / 4096 % 64 → c.toNat = 0x80 + v / 64 % 64 →
      d.toNat = 0x80 + v % 64 → Octets v [a, b, c, d]

theorem octets_encodeChar (c : Char) : Octets c.toNat (String.utf8EncodeChar c) := by
  have small : c.val.toNat < 0x110000 := by
    rcases c.valid with low | high
    · exact Nat.lt_trans low (by decide)
    · exact high.2
  have value {n : Nat} (octet : n < 256) : (UInt8.ofNat n).toNat = n := by
    rw [UInt8.toNat_ofNat', Nat.mod_eq_of_lt octet]
  change Octets c.val.toNat _
  unfold String.utf8EncodeChar
  generalize c.val.toNat = v at small
  dsimp only
  split
  · exact .one (by omega) (value (by omega))
  · split
    · exact .two (by omega) (by omega) ((value (by omega)).trans (by omega))
        ((value (by omega)).trans (by omega))
    · split
      · exact .three (by omega) (by omega) ((value (by omega)).trans (by omega))
          ((value (by omega)).trans (by omega)) ((value (by omega)).trans (by omega))
      · exact .four (by omega) (by omega) ((value (by omega)).trans (by omega))
          ((value (by omega)).trans (by omega)) ((value (by omega)).trans (by omega))
          ((value (by omega)).trans (by omega))

/-- A code point has its octets in one way. -/
theorem Octets.unique {v : Nat} {bs bs' : Bytes} (octets : Octets v bs) (octets' : Octets v bs') :
    bs = bs' := by
  cases octets <;> cases octets' <;> first
    | omega
    | simp only [List.cons.injEq, ← UInt8.toNat_inj, and_true]; omega

variable {a : UInt8} {bits n low high v : Nat} {bs rest : Bytes} {c : Char}

/-- What is read as one character is the octets of a code point that is no surrogate. -/
theorem octets_of_continued (lead : lead? a.toNat = some ⟨bits, n, low, high⟩)
    (read : continued bits low high n bs = (some v, rest)) :
    v.isValidChar ∧ ∃ octets, a :: bs = octets ++ rest ∧ Octets v octets := by
  rcases lead?_eq_some_iff.1 lead with ⟨rfl, lead⟩ | ⟨rfl, lead⟩ | ⟨rfl, lead⟩ | ⟨rfl, lead⟩
  · obtain ⟨code, rfl⟩ := continued_zero_iff.1 read
    exact ⟨.inl (by omega), [a], rfl, .one (by omega) (by omega)⟩
  · obtain ⟨b, bs, rfl, above, below, read⟩ := continued_succ_iff.1 read
    obtain ⟨code, rfl⟩ := continued_zero_iff.1 read
    exact ⟨.inl (by omega), [a, b], rfl, .two (by omega) (by omega) (by omega) (by omega)⟩
  · obtain ⟨b, bs, rfl, above, below, read⟩ := continued_succ_iff.1 read
    obtain ⟨c, bs, rfl, above', below', read⟩ := continued_succ_iff.1 read
    obtain ⟨code, rfl⟩ := continued_zero_iff.1 read
    have valid : v.isValidChar := by
      by_cases low : v < 0xD800
      · exact .inl low
      · exact .inr ⟨by omega, by omega⟩
    exact ⟨valid, [a, b, c], rfl,
      .three (by omega) (by omega) (by omega) (by omega) (by omega)⟩
  · obtain ⟨b, bs, rfl, above, below, read⟩ := continued_succ_iff.1 read
    obtain ⟨c, bs, rfl, above', below', read⟩ := continued_succ_iff.1 read
    obtain ⟨d, bs, rfl, above'', below'', read⟩ := continued_succ_iff.1 read
    obtain ⟨code, rfl⟩ := continued_zero_iff.1 read
    exact ⟨.inr ⟨by omega, by omega⟩, [a, b, c, d], rfl,
      .four (by omega) (by omega) (by omega) (by omega) (by omega) (by omega)⟩

theorem continued_of_octets {octets : Bytes} (octets_v : Octets v octets) (valid : v.isValidChar)
    (whole : a :: bs = octets ++ rest) : ∃ bits n low high,
      lead? a.toNat = some ⟨bits, n, low, high⟩ ∧
        continued bits low high n bs = (some v, rest) := by
  cases octets_v with
  | one small first =>
    obtain ⟨rfl, rfl⟩ := List.cons.inj whole
    refine ⟨a.toNat, 0, 0x80, 0xBF, lead?_eq_some_iff.2 (.inl (by omega)), ?_⟩
    exact continued_zero_iff.2 ⟨first, rfl⟩
  | @two _ b above below first second =>
    obtain ⟨rfl, rfl⟩ := List.cons.inj whole
    refine ⟨a.toNat % 32, 1, 0x80, 0xBF, lead?_eq_some_iff.2 (.inr (.inl (by omega))), ?_⟩
    refine continued_succ_iff.2 ⟨b, rest, rfl, by omega, by omega, ?_⟩
    exact continued_zero_iff.2 ⟨by omega, rfl⟩
  | @three _ b c above below first second third =>
    obtain ⟨rfl, rfl⟩ := List.cons.inj whole
    have surrogate : v < 0xD800 ∨ 0xDFFF < v := valid.imp_right And.left
    refine ⟨a.toNat % 16, 2, if a.toNat = 0xE0 then 0xA0 else 0x80,
      if a.toNat = 0xED then 0x9F else 0xBF,
      lead?_eq_some_iff.2 (.inr (.inr (.inl (by split <;> split <;> omega)))), ?_⟩
    refine continued_succ_iff.2
      ⟨b, c :: rest, rfl, by split <;> omega, by split <;> omega, ?_⟩
    refine continued_succ_iff.2 ⟨c, rest, rfl, by omega, by omega, ?_⟩
    exact continued_zero_iff.2 ⟨by omega, rfl⟩
  | @four _ b c d above below first second third fourth =>
    obtain ⟨rfl, rfl⟩ := List.cons.inj whole
    refine ⟨a.toNat % 8, 3, if a.toNat = 0xF0 then 0x90 else 0x80,
      if a.toNat = 0xF4 then 0x8F else 0xBF,
      lead?_eq_some_iff.2 (.inr (.inr (.inr (by split <;> split <;> omega)))), ?_⟩
    refine continued_succ_iff.2
      ⟨b, c :: d :: rest, rfl, by split <;> omega, by split <;> omega, ?_⟩
    refine continued_succ_iff.2 ⟨c, d :: rest, rfl, by omega, by omega, ?_⟩
    refine continued_succ_iff.2 ⟨d, rest, rfl, by omega, by omega, ?_⟩
    exact continued_zero_iff.2 ⟨by omega, rfl⟩

/-- The octets of a character are read where they stand, and nothing else is. -/
theorem decodeFirst_eq_some_iff :
    decodeFirst a bs = (some c, rest) ↔ a :: bs = String.utf8EncodeChar c ++ rest := by
  unfold decodeFirst
  constructor
  · intro found
    split at found
    case h_1 => cases found
    case h_2 l lead =>
      rw [Prod.mk.injEq, Option.map_eq_some_iff] at found
      obtain ⟨⟨v, code, rfl⟩, left⟩ := found
      obtain ⟨valid, octets, whole, octets_v⟩ := octets_of_continued lead (Prod.ext code left)
      have value : (Char.ofNat v).toNat = v := by
        rw [Char.ofNat, dif_pos valid]
        rfl
      have same := octets_v.unique (value ▸ octets_encodeChar (Char.ofNat v))
      rw [whole, same]
  · intro whole
    obtain ⟨bits, n, low, high, lead, read⟩ :=
      continued_of_octets (octets_encodeChar c) c.valid whole
    simp only [lead, read, Option.map_some, Char.ofNat_toNat]

theorem decodeEach_eq_iff (bs : Bytes) (t : Text) :
    decodeEach bs = t.map some ↔ encode t = bs := by
  induction t generalizing bs with
  | nil =>
    rw [decodeEach.eq_def]
    cases bs with
    | nil => exact iff_of_true rfl rfl
    | cons b bs => exact iff_of_false (List.cons_ne_nil _ _) (List.cons_ne_nil b bs).symm
  | cons c cs ih =>
    rw [encode_cons]
    constructor
    · intro read
      cases bs with
      | nil =>
        rw [decodeEach] at read
        cases read
      | cons b bs =>
        rw [decodeEach, List.map_cons, List.cons.injEq] at read
        have first := decodeFirst_eq_some_iff.1 (Prod.ext read.1 (rfl : _ = (decodeFirst b bs).2))
        rw [(ih _).1 read.2, first]
    · rintro rfl
      obtain ⟨b, bs, shape⟩ := encodeChar_cons c
      have first : decodeFirst b (bs ++ encode cs) = (some c, encode cs) :=
        decodeFirst_eq_some_iff.2 (by rw [shape]; rfl)
      rw [shape, List.cons_append, decodeEach, first, List.map_cons, (ih _).2 rfl]

theorem mapM_id_eq_some_iff (each : List (Option Char)) (t : Text) :
    each.mapM id = some t ↔ each = t.map some := by
  induction each generalizing t with
  | nil => cases t <;> simp
  | cons read each ih =>
    have whole : (read :: each).mapM id = some t ↔
        ∃ c, read = some c ∧ ∃ cs, each.mapM id = some cs ∧ c :: cs = t := by
      simp [List.mapM_cons, Option.bind_eq_some_iff]
    rw [whole]
    constructor
    · rintro ⟨c, rfl, cs, rest, rfl⟩
      rw [(ih cs).1 rest, List.map_cons]
    · intro shape
      obtain ⟨c, cs, rfl, rfl, rest⟩ := List.map_eq_cons_iff.1 shape.symm
      exact ⟨c, rfl, cs, (ih cs).2 rest.symm, rfl⟩

/-- Octets are read as the text that they encode, and only if they encode one. -/
theorem decode?_eq_some_iff (bs : Bytes) (t : Text) : decode? bs = some t ↔ encode t = bs := by
  rw [decode?, mapM_id_eq_some_iff, decodeEach_eq_iff]

end QueryDesk.Text

namespace QueryDesk.Files

/-- A file can be read as text if its octets are those of a text. -/
theorem readText_eq_ok_iff (f : Files) (path t : Text) :
    f.readText path = .ok t ↔ f.readBytes path = .ok (Text.encode t) := by
  have decoded (bytes : Bytes) : decode bytes = .ok t ↔ Text.encode t = bytes := by
    rw [← Text.decode?_eq_some_iff, decode]
    cases Text.decode? bytes <;> simp
  change (f.readBytes path >>= decode) = .ok t ↔ _
  cases f.readBytes path with
  | error failure => exact iff_of_false nofun nofun
  | ok bytes =>
    change decode bytes = .ok t ↔ _
    rw [decoded, Except.ok.injEq, eq_comm]

end QueryDesk.Files
