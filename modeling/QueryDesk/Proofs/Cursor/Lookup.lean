import QueryDesk.Proofs.Cursor.Agreement

/-!
# Looking up phrases

The cursor tries the phrases of the table one after another and takes the first that stands where it
is. Words are compared as they come and gaps may be of any length, so it could matter which phrase is
tried first. It does not: of two phrases at one place one begins the other, and the table has no such
pair. `phrase_lookup` says so of every offset, and that the table is used as a set.
-/

set_option autoImplicit false

namespace QueryDesk.Sql

open Text

theorem Phrase.Table.perm {phrases phrases' : List Phrase} (table : Phrase.Table phrases)
    (perm : phrases'.Perm phrases) : Phrase.Table phrases' where
  wellFormed p member := table.wellFormed p (perm.mem_iff.1 member)
  apart p member q member' := table.apart p (perm.mem_iff.1 member) q (perm.mem_iff.1 member')

namespace Token

variable {phrases phrases' : List Phrase}

/-- The phrase that is found depends on the table as a set only. -/
theorem findPhrase_perm (table : Phrase.Table phrases) (perm : phrases'.Perm phrases) (t : Text) :
    (phrases'.findSome? fun p => takePhrase? p t) = phrases.findSome? fun p => takePhrase? p t := by
  refine Option.ext fun r => ?_
  rw [findPhrase_eq_some_iff table, findPhrase_eq_some_iff (table.perm perm)]
  simp only [perm.mem_iff]

theorem cut?_perm (table : Phrase.Table phrases) (perm : phrases'.Perm phrases) (afterWord : Bool)
    (t : Text) : cut? phrases' afterWord t = cut? phrases afterWord t := by
  cases t with
  | nil => rfl
  | cons c cs => simp only [cut?, phrase?, findPhrase_perm table perm]

theorem splitAfter_perm (table : Phrase.Table phrases) (perm : phrases'.Perm phrases)
    (afterWord : Bool) (t : Text) :
    splitAfter phrases' afterWord t = splitAfter phrases afterWord t := by
  fun_induction splitAfter phrases afterWord t with
  | case1 afterWord t none =>
    cases t with
    | nil => exact splitAfter_nil phrases' afterWord
    | cons c cs => simp [cut?, single?] at none
  | case2 afterWord t token rest found ih =>
    rw [splitAfter_cut ((cut?_perm table perm afterWord t).trans found), ih]

end Token

namespace Cursor

variable {source : Text} {n : Nat} {p : Phrase}

/-- An octet of ASCII begins a character. -/
theorem boundary_of_ascii {b : UInt8} (here : (encode source)[n]? = some b)
    (ascii : (byteChar b).toNat < 128) : Boundary source n := by
  induction source generalizing n with
  | nil => cases here
  | cons c cs ih =>
    have size : (String.utf8EncodeChar c).length = c.utf8Size := String.length_utf8EncodeChar c
    rw [encode_cons] at here
    by_cases inside : n < c.utf8Size
    case pos =>
      rw [List.getElem?_append_left (by omega)] at here
      rcases encodeChar_cases c with ⟨d, single, -⟩ | ⟨-, high⟩
      · have first : n = 0 := by
          rw [single, List.length_singleton] at size
          omega
        exact ⟨[], c :: cs, rfl, first.symm⟩
      · have above := high b (List.mem_of_getElem? here)
        omega
    case neg =>
      rw [List.getElem?_append_right (by omega)] at here
      obtain ⟨front, rest, rfl, reached⟩ := ih here
      refine ⟨c :: front, rest, rfl, ?_⟩
      rw [byteSize, reached]
      omega

/-- A word in capitals stands at boundaries only. -/
theorem boundary_of_wordEnd? {word : Text} (full : word ≠ [])
    (capitals : ∀ c ∈ word, c.isUpper = true) {stop : Nat}
    (found : wordEnd? (encode source) n word = some stop) : Boundary source n := by
  obtain ⟨w, ws, rfl⟩ := List.exists_cons_of_ne_nil full
  have here : spelled (w :: ws) ((encode source).drop n) = true := by
    unfold wordEnd? at found
    split at found
    · assumption
    · cases found
  cases ahead : (encode source).drop n with
  | nil =>
    rw [ahead] at here
    cases here
  | cons b bs =>
    rw [ahead, spelled, Bool.and_eq_true, beq_iff_eq] at here
    have letter : (byteChar b).isAlpha = true :=
      isAlpha_of_isUpper_toUpper (here.1 ▸ capitals w List.mem_cons_self)
    have first : (encode source)[n]? = some b := by
      rw [← List.head?_drop, ahead]
      rfl
    exact boundary_of_ascii first (ascii_isAlpha _ letter)

/-- A phrase stands at boundaries only, and looking for it anywhere else fails nowhere. -/
theorem phraseEnd_inside (formed : p.WellFormed) (inside : ¬ Boundary source n) :
    phraseEnd source n p = .ok none := by
  have absent {w : Text} {ws : Phrase} (formed : Phrase.WellFormed (w :: ws)) :
      wordEnd? (encode source) n w = none := by
    obtain ⟨full, capitals⟩ := formed.2 w List.mem_cons_self
    rw [Option.eq_none_iff_forall_ne_some]
    exact fun stop found => inside (boundary_of_wordEnd? full capitals found)
  have unread : wordsEnd source p n = .ok none := by
    cases p with
    | nil => exact absurd rfl formed.1
    | cons w ws =>
      cases ws with
      | nil => rw [wordsEnd, absent formed]
      | cons v ws =>
        rw [wordsEnd, absent formed]
        exact List.cons_ne_nil v ws
  rw [phraseEnd, unread]
  rfl

theorem firstPhraseEnd_inside {phrases : List Phrase} (formed : ∀ p ∈ phrases, p.WellFormed)
    (inside : ¬ Boundary source n) : firstPhraseEnd source n phrases = .ok none := by
  induction phrases with
  | nil => rfl
  | cons p ps ih =>
    rw [firstPhraseEnd, phraseEnd_inside (formed p List.mem_cons_self) inside]
    exact ih fun q member => formed q (List.mem_cons_of_mem p member)

/-- A phrase is found by the cursor where it is spelled and no word octet follows. -/
theorem phraseEnd_eq_some_iff (formed : p.WellFormed) {stop : Nat} :
    phraseEnd source n p = .ok (some stop) ↔ ∃ before lexeme after,
      source = before ++ (lexeme ++ after) ∧ n = byteSize before ∧
        stop = byteSize (before ++ lexeme) ∧ Spells p lexeme ∧ startsWithWord after = false := by
  constructor
  · intro found
    by_cases boundary : Boundary source n
    · obtain ⟨before, ahead, rfl, rfl⟩ := boundary
      rw [phraseEnd_eq formed, Except.ok.injEq, Option.map_eq_some_iff] at found
      obtain ⟨r, taken, rfl⟩ := found
      obtain ⟨spelled, ends, rfl⟩ := (Token.takePhrase?_eq_some_iff formed).1 taken
      exact ⟨before, r.1, r.2, rfl, rfl, rfl, spelled, ends⟩
    · rw [phraseEnd_inside formed boundary] at found
      cases found
  · rintro ⟨before, lexeme, after, rfl, rfl, rfl, spelled, ends⟩
    have taken : Token.takePhrase? p (lexeme ++ after) = some (lexeme, after) :=
      (Token.takePhrase?_eq_some_iff formed).2 ⟨spelled, ends, rfl⟩
    rw [phraseEnd_eq formed, taken]
    rfl

theorem firstPhraseEnd_eq_some_iff {phrases : List Phrase} (table : Phrase.Table phrases)
    {stop : Nat} : firstPhraseEnd source n phrases = .ok (some stop) ↔
      ∃ p ∈ phrases, phraseEnd source n p = .ok (some stop) := by
  by_cases boundary : Boundary source n
  · obtain ⟨before, ahead, rfl, rfl⟩ := boundary
    rw [firstPhraseEnd_eq table.wellFormed, Except.ok.injEq, Option.map_eq_some_iff]
    constructor
    · rintro ⟨r, found, rfl⟩
      obtain ⟨p, member, taken⟩ := List.exists_of_findSome?_eq_some found
      refine ⟨p, member, ?_⟩
      rw [phraseEnd_eq (table.wellFormed p member), taken]
      rfl
    · rintro ⟨p, member, found⟩
      rw [phraseEnd_eq (table.wellFormed p member), Except.ok.injEq,
        Option.map_eq_some_iff] at found
      obtain ⟨r, taken, rfl⟩ := found
      have stands := (Token.takePhrase?_eq_some_iff (table.wellFormed p member)).1 taken
      exact ⟨r, (Token.findPhrase_eq_some_iff table).2 ⟨p, member, stands⟩, rfl⟩
  · rw [firstPhraseEnd_inside table.wellFormed boundary]
    constructor
    · nofun
    · rintro ⟨p, member, found⟩
      rw [phraseEnd_inside (table.wellFormed p member) boundary] at found
      cases found

/-- Two phrases that begin at one offset are of one beginning. -/
theorem phraseEnd_comparable {q : Phrase} (formed : p.WellFormed) (formed' : q.WellFormed)
    {stop stop' : Nat} (found : phraseEnd source n p = .ok (some stop))
    (found' : phraseEnd source n q = .ok (some stop')) : p <+: q ∨ q <+: p := by
  obtain ⟨before, lexeme, after, rfl, rfl, -, spelled, ends⟩ := (phraseEnd_eq_some_iff formed).1 found
  obtain ⟨before', lexeme', after', shape, size, -, spelled', ends'⟩ :=
    (phraseEnd_eq_some_iff formed').1 found'
  obtain ⟨rfl, same⟩ := prefix_unique shape size
  exact spelled.comparable spelled' formed formed' ends ends' same

/-- Whether a phrase stands at an offset of a source. -/
def StandsAt (source : Text) (n : Nat) (p : Phrase) : Prop :=
  ∃ stop, phraseEnd source n p = .ok (some stop)

/-- At no offset do two entries of the table stand. So the first phrase that is found is the only
one, and none is longer; in whatever order the table is searched, the same is found at every offset,
and the spans of the source are the same. -/
theorem phrase_lookup (source : Text) :
    (∀ n, Phrase.all.Pairwise fun p q => ¬ (StandsAt source n p ∧ StandsAt source n q)) ∧
    (∀ n stop, firstPhraseEnd source n Phrase.all = .ok (some stop) →
      (∃ p ∈ Phrase.all, phraseEnd source n p = .ok (some stop)) ∧
        ∀ q ∈ Phrase.all, ∀ stop', phraseEnd source n q = .ok (some stop') → stop' ≤ stop) ∧
    ∀ phrases, phrases.Perm Phrase.all →
      (∀ n, firstPhraseEnd source n phrases = firstPhraseEnd source n Phrase.all) ∧
        Span.layOut 0 (Token.splitAfter phrases false source) = Span.raw source := by
  have table := Phrase.table_all
  refine ⟨fun n => ?_, fun n stop found => ⟨?_, ?_⟩, fun phrases perm => ⟨fun n => ?_, ?_⟩⟩
  · have once : Phrase.all.Nodup := by decide +kernel
    refine once.imp_of_mem fun {p q} member member' other ⟨⟨stop, found⟩, ⟨stop', found'⟩⟩ => ?_
    rcases phraseEnd_comparable (table.wellFormed p member) (table.wellFormed q member')
      found found' with begins | begins
    · exact other (table.apart p member q member' begins)
    · exact other (table.apart q member' p member begins).symm
  · exact (firstPhraseEnd_eq_some_iff table).1 found
  · intro q member stop' found'
    have first := (firstPhraseEnd_eq_some_iff table).2 ⟨q, member, found'⟩
    rw [found, Except.ok.injEq, Option.some.injEq] at first
    exact Nat.le_of_eq first.symm
  · by_cases boundary : Boundary source n
    · obtain ⟨before, ahead, rfl, rfl⟩ := boundary
      rw [firstPhraseEnd_eq table.wellFormed, firstPhraseEnd_eq (table.perm perm).wellFormed,
        Token.findPhrase_perm table perm]
    · rw [firstPhraseEnd_inside table.wellFormed boundary,
        firstPhraseEnd_inside (table.perm perm).wellFormed boundary]
  · exact congrArg (Span.layOut 0) (Token.splitAfter_perm table perm false source)

end Cursor

end QueryDesk.Sql
