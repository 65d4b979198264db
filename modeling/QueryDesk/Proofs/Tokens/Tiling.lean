import QueryDesk.Proofs.Text.Offset
import QueryDesk.Proofs.Tokens.Reader

/-!
# Spans that tile a source

The spans of tokens laid end to end are not empty, follow each other and reach from one offset to
another (`tiles_layOut`). Together with the rules of tokens this pins them down: `eq_raw_iff` says
that the spans of a source, before plain ones are merged, are the one tiling of it in which every
span obeys the rules at its start.
-/

set_option autoImplicit false

namespace QueryDesk.Sql

open Text

namespace Span

/-- The spans of a source, one for each token. -/
def raw (source : Text) : List Span := layOut 0 (Token.split source)

/-- Spans that are not empty and follow each other from one offset to another. -/
def Tiles (stop : Nat) : Nat → List Span → Prop
  | start, [] => start = stop
  | start, s :: ss => s.start = start ∧ s.start < s.stop ∧ Tiles stop s.stop ss

/-- A span of a source that holds what the rules say about the place where it starts. -/
def Obeys (source : Text) (s : Span) : Prop :=
  ∃ before lexeme after, source = before ++ (lexeme ++ after) ∧ s.start = byteSize before ∧
    s.stop = byteSize (before ++ lexeme) ∧ Sql.Obeys Phrase.all before ⟨s.kind, lexeme⟩ after

theorem tiles_layOut {tokens : List Token} (full : ∀ t ∈ tokens, t.text ≠ []) (start : Nat) :
    Tiles (start + byteSize (Token.concat tokens)) start (layOut start tokens) := by
  induction tokens generalizing start with
  | nil => rfl
  | cons t ts ih =>
    have size := byteSize_pos (full t (List.mem_cons_self ..))
    refine ⟨rfl, Nat.lt_add_of_pos_right size, ?_⟩
    have rest := ih (fun u member => full u (List.mem_cons_of_mem t member))
      (start + byteSize t.text)
    rwa [Token.concat, List.flatMap_cons, byteSize_append, ← Nat.add_assoc]

/-- The token that a span of a source stands for. -/
def token (source : Text) (s : Span) : Token := ⟨s.kind, s.text source⟩

/-- Spans laid out from tokens stand for them. -/
theorem map_token_layOut (before : Text) (tokens : List Token) (after : Text) :
    (layOut (byteSize before) tokens).map (token (before ++ (Token.concat tokens ++ after))) =
      tokens := by
  induction tokens generalizing before with
  | nil => rfl
  | cons t ts ih =>
    have rest := ih (before ++ t.text)
    rw [List.append_assoc, ← List.append_assoc t.text] at rest
    rw [layOut, List.map_cons, ← byteSize_append]
    change (⟨t.kind, slice _ (byteSize before) (byteSize (before ++ t.text))⟩ : Token) :: _ = _
    rw [Token.concat, List.flatMap_cons, ← Token.concat, rest, List.append_assoc, slice_between]

theorem map_token_scan (source : Text) : (scan source).map (token source) = Token.scan source := by
  have spans := map_token_layOut [] (Token.scan source) []
  rwa [Token.concat_scan, List.append_nil, List.nil_append] at spans

theorem map_token_raw (source : Text) : (raw source).map (token source) = Token.split source := by
  have spans := map_token_layOut [] (Token.split source) []
  rwa [Token.concat_split, List.append_nil, List.nil_append] at spans

/-- A span moved on by a number of bytes. -/
def shift (n : Nat) (s : Span) : Span := ⟨s.kind, s.start + n, s.stop + n⟩

theorem map_shift_layOut (n start : Nat) (tokens : List Token) :
    (layOut start tokens).map (shift n) = layOut (start + n) tokens := by
  induction tokens generalizing start with
  | nil => rfl
  | cons t ts ih =>
    have next : start + byteSize t.text + n = start + n + byteSize t.text := by omega
    rw [layOut, List.map_cons, ih, next, layOut, ← next]
    rfl

theorem layOut_append (start : Nat) (ts us : List Token) :
    layOut start (ts ++ us) =
      layOut start ts ++ layOut (start + byteSize (Token.concat ts)) us := by
  induction ts generalizing start with
  | nil => rfl
  | cons t ts ih =>
    have size : start + byteSize (Token.concat (t :: ts)) =
        start + byteSize t.text + byteSize (Token.concat ts) := by
      rw [Token.concat, List.flatMap_cons, byteSize_append, ← Nat.add_assoc]
      rfl
    rw [List.cons_append, layOut, ih, size]
    rfl

/-- Every one of the spans is that of a token, where the tokens before it end. -/
theorem layOut_eq_append_cons {start : Nat} {tokens : List Token} {front back : List Span}
    {s : Span} (laid : layOut start tokens = front ++ s :: back) :
    ∃ ts t us, tokens = ts ++ t :: us ∧ s = ⟨t.kind, start + byteSize (Token.concat ts),
      start + byteSize (Token.concat ts) + byteSize t.text⟩ := by
  induction front generalizing start tokens with
  | nil =>
    cases tokens with
    | nil => cases laid
    | cons t us =>
      obtain ⟨rfl, -⟩ := List.cons.inj laid
      exact ⟨[], t, us, rfl, rfl⟩
  | cons u front ih =>
    cases tokens with
    | nil => cases laid
    | cons v tokens =>
      obtain ⟨ts, t, us, rfl, rfl⟩ := ih (List.cons.inj laid).2
      refine ⟨v :: ts, t, us, rfl, ?_⟩
      rw [Token.concat, Token.concat, List.flatMap_cons, byteSize_append, Nat.add_assoc start]

/-- The text between the tokens around it is the text of a token. -/
theorem text_of_split {source : Text} {front back : List Token} {t : Token}
    (divided : Token.split source = front ++ t :: back) :
    text source ⟨t.kind, byteSize (Token.concat front),
      byteSize (Token.concat front) + byteSize t.text⟩ = t.text := by
  have whole := Token.concat_split source
  rw [divided, Token.concat_append, Token.concat, Token.concat, List.flatMap_cons] at whole
  rw [text, ← byteSize_append, ← whole]
  exact slice_between _ _ _

/-- A span of a source and the tokens around it. -/
theorem exists_tokens {source : Text} {s : Span} (read : s ∈ raw source) :
    ∃ front back, Token.split source = front ++ s.token source :: back ∧
      source = Token.concat front ++ (s.text source ++ Token.concat back) ∧
      s.start = byteSize (Token.concat front) ∧ s.stop = s.start + byteSize (s.text source) := by
  obtain ⟨earlier, later, shape⟩ := List.append_of_mem read
  obtain ⟨front, t, back, divided, rfl⟩ := layOut_eq_append_cons shape
  simp only [Nat.zero_add]
  have text := text_of_split divided
  refine ⟨front, back, ?_, ?_, rfl, ?_⟩
  · rw [divided, token, text]
  · have whole := Token.concat_split source
    rw [divided, Token.concat_append, Token.concat, Token.concat, List.flatMap_cons] at whole
    rw [text]
    exact whole.symm
  · rw [text]

/-- The spans around a token, those behind it counted from its end. -/
theorem raw_around {source : Text} {front back : List Token} {t : Token}
    (divided : Token.split source = front ++ t :: back) {start stop : Nat}
    (begins : start = byteSize (Token.concat front)) (ends : stop = start + byteSize t.text) :
    raw source = layOut 0 front ++ ⟨t.kind, start, stop⟩ :: (layOut 0 back).map (shift stop) := by
  subst begins ends
  rw [raw, divided, layOut_append, map_shift_layOut, Nat.zero_add, Nat.zero_add]
  rfl

/-- A token of a source has a span, which begins where the tokens before it end. -/
theorem mem_raw_of_split {source : Text} {front back : List Token} {t : Token}
    (divided : Token.split source = front ++ t :: back) :
    ∃ s ∈ raw source, s.start = byteSize (Token.concat front) ∧ s.token source = t := by
  refine ⟨⟨t.kind, byteSize (Token.concat front), byteSize (Token.concat front) +
    byteSize t.text⟩, ?_, rfl, ?_⟩
  · rw [raw_around divided rfl rfl]
    exact List.mem_append_right _ List.mem_cons_self
  · rw [token, text_of_split divided]

theorem Tiles.within {start stop : Nat} {spans : List Span} (tiles : Tiles stop start spans) :
    start ≤ stop ∧ ∀ s ∈ spans, start ≤ s.start ∧ s.start < stop := by
  induction spans generalizing start with
  | nil => exact ⟨Nat.le_of_eq tiles, nofun⟩
  | cons s ss ih =>
    obtain ⟨rfl, forward, rest⟩ := tiles
    obtain ⟨ends, inside⟩ := ih rest
    refine ⟨by omega, fun u member => ?_⟩
    rcases List.mem_cons.1 member with rfl | member
    · exact ⟨Nat.le_refl _, by omega⟩
    · have := inside u member
      omega

/-- No two spans of a tiling share a byte. -/
theorem Tiles.apart {stop start : Nat} {front back : List Span} {s : Span}
    (tiles : Tiles stop start (front ++ s :: back)) :
    ∀ u ∈ front ++ s :: back, u = s ∨ u.stop ≤ s.start ∨ s.stop ≤ u.start := by
  induction front generalizing start with
  | nil =>
    intro u member
    rcases List.mem_cons.1 member with same | behind
    · exact .inl same
    · exact .inr (.inr (tiles.2.2.within.2 u behind).1)
  | cons v vs ih =>
    intro u member
    rcases List.mem_cons.1 member with rfl | member
    · exact .inr (.inl (tiles.2.2.within.2 s (by simp)).1)
    · exact ih tiles.2.2 u member

/-- The spans from an offset on that tokens end at are those of the tokens after it. -/
theorem filter_layOut {front back : List Token} (full : ∀ t ∈ front ++ back, t.text ≠ []) :
    (layOut 0 (front ++ back)).filter (byteSize (Token.concat front) ≤ ·.start) =
      layOut (byteSize (Token.concat front)) back := by
  have here := tiles_layOut (fun t member => full t (List.mem_append_left _ member)) 0
  have there := tiles_layOut (fun t member => full t (List.mem_append_right _ member))
    (byteSize (Token.concat front))
  rw [Nat.zero_add] at here
  have none : (layOut 0 front).filter (byteSize (Token.concat front) ≤ ·.start) = [] := by
    refine List.filter_eq_nil_iff.2 fun s member => ?_
    have := (here.within.2 s member).2
    simp only [decide_eq_true_eq]
    omega
  have all : (layOut (byteSize (Token.concat front)) back).filter
      (byteSize (Token.concat front) ≤ ·.start) = layOut (byteSize (Token.concat front)) back := by
    refine List.filter_eq_self.2 fun s member => ?_
    simpa using (there.within.2 s member).1
  rw [layOut_append, List.filter_append, Nat.zero_add, none, all, List.nil_append]

theorem obeys_layOut {before : Text} {tokens : List Token}
    (reads : Reads Phrase.all before tokens) :
    ∀ s ∈ layOut (byteSize before) tokens, s.Obeys (before ++ Token.concat tokens) := by
  induction tokens generalizing before with
  | nil => intro s member; cases member
  | cons t ts ih =>
    obtain ⟨obeys, reads⟩ := reads
    intro s member
    rcases List.mem_cons.1 member with rfl | member
    · exact ⟨before, t.text, Token.concat ts, rfl, rfl, (byteSize_append ..).symm, obeys⟩
    · rw [← byteSize_append] at member
      have rest := ih reads s member
      rwa [List.append_assoc] at rest

end Span

theorem Reads.ne_nil {phrases : List Phrase} (table : Phrase.Table phrases) {before : Text}
    {tokens : List Token} (reads : Reads phrases before tokens) : ∀ t ∈ tokens, t.text ≠ [] := by
  induction tokens generalizing before with
  | nil => intro t member; cases member
  | cons t ts ih =>
    intro u member
    rcases List.mem_cons.1 member with rfl | member
    · exact reads.1.ne_nil table
    · exact ih reads.2 u member

namespace Span

/-- From a place on, a tiling by spans that obey the rules is the tiling by the tokens there. -/
theorem eq_layOut_of_tiles {source before ahead : Text} (place : source = before ++ ahead)
    {spans : List Span} (tiles : Tiles (byteSize source) (byteSize before) spans)
    (obeys : ∀ s ∈ spans, s.Obeys source) :
    spans = layOut (byteSize before)
      (Token.splitAfter Phrase.all (endsWithWord before) ahead) := by
  induction spans generalizing before ahead with
  | nil =>
    have sizes : byteSize before = byteSize source := tiles
    rw [place, byteSize_append] at sizes
    rw [byteSize_eq_zero (by omega : byteSize ahead = 0), Token.splitAfter_nil]
    rfl
  | cons s ss ih =>
    obtain ⟨start, -, tiles⟩ := tiles
    obtain ⟨before', lexeme, after, shape, start', stop, here⟩ := obeys s (List.mem_cons_self ..)
    obtain ⟨rfl, rfl⟩ := prefix_unique (place.symm.trans shape) (start.symm.trans start')
    have found : Token.cut? Phrase.all (endsWithWord before) (lexeme ++ after) =
        some (⟨s.kind, lexeme⟩, after) := (obeys_iff_cut? Phrase.table_all).1 here
    have rest : ss = layOut (byteSize (before ++ lexeme))
        (Token.splitAfter Phrase.all (endsWithWord (before ++ lexeme)) after) :=
      ih (by rw [place, List.append_assoc]) (stop ▸ tiles)
        (fun u member => obeys u (List.mem_cons_of_mem s member))
    rw [endsWithWord_append (here.ne_nil Phrase.table_all)] at rest
    rw [Token.splitAfter_cut found, layOut, ← byteSize_append, ← rest, ← stop, ← start']

/-- The spans of a source are the one list that tiles it from its first byte to its last and in
which every span obeys the rules of tokens at its start. -/
theorem eq_raw_iff (source : Text) (spans : List Span) :
    spans = raw source ↔
      Tiles (byteSize source) 0 spans ∧ ∀ s ∈ spans, s.Obeys source := by
  constructor
  · rintro rfl
    have whole := Token.concat_splitAfter Phrase.all false source
    have reads : Reads Phrase.all [] (Token.split source) := (Token.split_eq_iff.1 rfl).2
    have tiles := tiles_layOut (reads.ne_nil Phrase.table_all) 0
    have obeys := obeys_layOut reads
    rw [Token.split, whole] at tiles
    rw [Token.split, whole] at obeys
    rw [Nat.zero_add] at tiles
    exact ⟨tiles, obeys⟩
  · rintro ⟨tiles, obeys⟩
    exact eq_layOut_of_tiles (List.nil_append source).symm tiles obeys

end Span

end QueryDesk.Sql
