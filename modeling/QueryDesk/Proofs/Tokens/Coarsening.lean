import QueryDesk.Proofs.Tokens.Wordwise

/-!
# Phrases as a coarser reading of words

A text can be read with phrases or word by word. Taken apart into its words and blanks, every phrase
is what stands there word by word, and all other tokens are the same (`Span.raw_takeApart`). The other
way round the tokens with phrases are put together from those word by word: from left to right,
wherever the words of an entry stand as keywords with nothing but gaps between them (`grouped_iff`).
-/

set_option autoImplicit false

namespace QueryDesk.Sql

open Text

/-- The words of a phrase as keywords in any case, with gaps between neighbours. -/
inductive SpelledOut : Phrase → List Token → Prop
  | last {word : Text} : SpelledOut [upper word] [⟨.keyword, word⟩]
  | more {words : Phrase} {word gap : Text} {rest : List Token} : gap ≠ [] → AllBlank gap →
      SpelledOut words rest →
      SpelledOut (upper word :: words) (⟨.keyword, word⟩ :: (gapTokens gap ++ rest))

theorem SpelledOut.spells {p : Phrase} {tokens : List Token} (spelled : SpelledOut p tokens) :
    Spells p (Token.concat tokens) := by
  induction spelled with
  | @last word =>
    rw [Token.concat, List.flatMap_singleton]
    exact .last
  | @more words word gap rest full blank tail ih =>
    rw [Token.concat, List.flatMap_cons, ← Token.concat, Token.concat_append,
      Spaced.concat_gapTokens]
    exact .more full blank ih

/-- A phrase of reserved words is spelled out by what is read of it word by word. -/
theorem Spells.spelledOut {p : Phrase} {lexeme : Text} (spelled : Spells p lexeme)
    (formed : p.WellFormed) (reserved : ∀ w ∈ p, isReserved w = true) :
    SpelledOut p (Token.wordwise lexeme) := by
  have keyword {word : Text} (known : isReserved (upper word) = true) :
      Token.wordKind word = .keyword := if_pos known
  induction spelled with
  | @last word =>
    have read := Token.wordwise_capital formed (rfl : startsWithWord [] = false)
    rw [List.append_nil] at read
    rw [read, keyword (reserved _ List.mem_cons_self), Token.wordwise_nil]
    exact .last
  | @more ws word gap rest full blank tail ih =>
    rw [Token.wordwise_capital formed (stops_word_of_gap full blank), Token.wordwise_gap blank,
      keyword (reserved _ List.mem_cons_self)]
    exact .more full blank
      (ih (formed.tail tail.ne_nil) fun w member => reserved w (List.mem_cons_of_mem _ member))

namespace Token

/-- The words of a text as keywords and its blanks as plain tokens. -/
def takeApart : Text → List Token
  | [] => []
  | c :: cs =>
    if isBlank c then ⟨.plain, [c]⟩ :: takeApart cs
    else ⟨.keyword, c :: cs.takeWhile (!isBlank ·)⟩ :: takeApart (cs.dropWhile (!isBlank ·))
  termination_by t => t.length
  decreasing_by
    · exact Nat.lt_succ_self _
    · exact Nat.lt_succ_of_le (List.dropWhile_suffix _).length_le

theorem takeApart_gap {gap : Text} (blank : AllBlank gap) (after : Text) :
    takeApart (gap ++ after) = gapTokens gap ++ takeApart after := by
  induction gap with
  | nil => rfl
  | cons c cs ih =>
    have tail := ih fun d member => blank d (List.mem_cons_of_mem c member)
    rw [List.cons_append, takeApart, if_pos (blank c List.mem_cons_self), tail]
    rfl

theorem takeApart_word {word after : Text} (full : word ≠ [])
    (visible : ∀ c ∈ word, isBlank c = false) (stops : ∀ c, after.head? = some c → isBlank c = true) :
    takeApart (word ++ after) = ⟨.keyword, word⟩ :: takeApart after := by
  obtain ⟨c, cs, rfl⟩ := List.exists_cons_of_ne_nil full
  have first : ¬ isBlank c = true := by simp [visible c List.mem_cons_self]
  have inside : ∀ d ∈ cs, (!isBlank d) = true := fun d member => by
    simp [visible d (List.mem_cons_of_mem c member)]
  have ends : after.head?.any (!isBlank ·) = false := by
    cases after with
    | nil => rfl
    | cons d ds => simp [stops d rfl]
  rw [List.cons_append, takeApart, if_neg first, takeWhile_run inside ends,
    dropWhile_run inside ends]

/-- The tokens that spell out a phrase are what its text is taken apart into. -/
theorem takeApart_spelledOut {p : Phrase} {tokens : List Token} (spelled : SpelledOut p tokens)
    (formed : p.WellFormed) : takeApart (concat tokens) = tokens := by
  have visible {word : Text} {ws : Phrase} (formed : Phrase.WellFormed (upper word :: ws)) :
      word ≠ [] ∧ ∀ c ∈ word, isBlank c = false := by
    refine ⟨fun empty => (formed.2 _ List.mem_cons_self).1 (by rw [empty]; rfl), ?_⟩
    exact fun c member => not_isBlank_of_isWordChar (formed.word c member)
  induction spelled with
  | @last word =>
    obtain ⟨full, seen⟩ := visible formed
    have alone := @takeApart_word word [] full seen nofun
    rw [List.append_nil, takeApart] at alone
    rw [concat, List.flatMap_singleton, alone]
  | @more ws word gap rest some blank tail ih =>
    obtain ⟨full, seen⟩ := visible formed
    have stops : ∀ c, (gap ++ concat rest).head? = Option.some c → isBlank c = true := by
      obtain ⟨d, ds, rfl⟩ := List.exists_cons_of_ne_nil some
      rintro c ⟨⟩
      exact blank d List.mem_cons_self
    rw [concat, List.flatMap_cons, ← concat, concat_append, Spaced.concat_gapTokens,
      takeApart_word full seen stops, takeApart_gap blank,
      ih (formed.tail tail.spells.ne_nil)]

theorem concat_takeApart (t : Text) : concat (takeApart t) = t := by
  fun_induction takeApart t with
  | case1 => rfl
  | case2 c cs blank ih => exact congrArg (c :: ·) ih
  | case3 c cs visible ih =>
    rw [concat, List.flatMap_cons, ← concat, ih, List.cons_append,
      List.takeWhile_append_dropWhile]

theorem keyword_or_gap {text : Text} {t : Token} (member : t ∈ takeApart text) :
    t.kind = .keyword ∨ t.isGap = true := by
  fun_induction takeApart text with
  | case1 => cases member
  | case2 c cs blank ih =>
    rcases List.mem_cons.1 member with rfl | member
    · exact .inr (isGap_iff.2 ⟨c, blank, rfl⟩)
    · exact ih member
  | case3 c cs visible ih =>
    rcases List.mem_cons.1 member with rfl | member
    · exact .inl rfl
    · exact ih member

/-- What a token is word by word is the same with its words read or taken apart. -/
theorem unphrase_eq {t : Token} {after : Text} (obeys : Obeys Phrase.all [] t after) :
    t.unphrase = if t.kind = .keywordPhrase then takeApart t.text else [t] := by
  unfold unphrase
  split
  case isTrue phrase =>
    obtain ⟨p, member, spelled, -⟩ := obeys.spells phrase
    have formed := Phrase.table_all.wellFormed p member
    have apart :=
      takeApart_spelledOut (spelled.spelledOut formed (Phrase.all_reserved p member)) formed
    rw [concat_wordwise] at apart
    exact apart.symm
  case isFalse => rfl

end Token

namespace Span

/-- The spans of a phrase of a source word by word, and any other span as it is. -/
def takeApart (source : Text) (s : Span) : List Span :=
  if s.kind = .keywordPhrase then layOut s.start (Token.takeApart (s.text source)) else [s]

/-- The spans of tokens read word by word are those of the tokens, with each phrase taken apart. -/
theorem layOut_unphrase (before : Text) {tokens : List Token} (stands : Stands Phrase.all tokens) :
    layOut (byteSize before) (tokens.flatMap Token.unphrase) =
      (layOut (byteSize before) tokens).flatMap
        (takeApart (before ++ Token.concat tokens)) := by
  induction tokens generalizing before with
  | nil => rfl
  | cons t ts ih =>
    obtain ⟨obeys, stands⟩ := stands
    have rest := ih (before ++ t.text) stands
    have text : slice (before ++ (t.text ++ Token.concat ts)) (byteSize before)
        (byteSize before + byteSize t.text) = t.text := by
      rw [← byteSize_append]
      exact slice_between _ _ _
    have size : Token.concat t.unphrase = t.text := by
      rw [Token.unphrase_eq obeys]
      split
      · exact Token.concat_takeApart t.text
      · exact List.append_nil _
    rw [List.append_assoc, byteSize_append] at rest
    rw [List.flatMap_cons, layOut_append, size, layOut, List.flatMap_cons, Token.concat,
      List.flatMap_cons, ← Token.concat, rest]
    congr 1
    rw [Token.unphrase_eq obeys, takeApart, Span.text, text]
    split <;> rfl

theorem raw_takeApart (source : Text) :
    layOut 0 (Token.wordwise source) = (raw source).flatMap (takeApart source) := by
  have apart := layOut_unphrase [] (stands_split source)
  rw [← Token.wordwise_eq_flatMap, List.nil_append, Token.concat_split] at apart
  exact apart

/-- What a phrase is taken apart into is keywords and gaps. -/
theorem keyword_or_gap {source : Text} {s u : Span} (read : s ∈ raw source)
    (phrase : s.kind = .keywordPhrase) (member : u ∈ s.takeApart source) :
    u.kind = .keyword ∨ (u.token source).isGap = true := by
  obtain ⟨front, back, -, shape, start, -⟩ := exists_tokens read
  have tokens := map_token_layOut (Token.concat front) (Token.takeApart (s.text source))
    (Token.concat back)
  rw [Token.concat_takeApart, ← shape, ← start] at tokens
  rw [takeApart, if_pos phrase] at member
  have here := List.mem_map_of_mem (f := token source) member
  rw [tokens] at here
  exact Token.keyword_or_gap here

end Span

/-- Whether a phrase of the table is spelled out at the front. -/
def BeginsPhrase (tokens : List Token) : Prop :=
  ∃ p ∈ Phrase.all, ∃ words rest, tokens = words ++ rest ∧ SpelledOut p words

/-- Tokens, and the same with the phrases that are met from left to right put together. -/
inductive Grouped : List Token → List Token → Prop
  | nil : Grouped [] []
  | phrase {p : Phrase} {words after grouped : List Token} : p ∈ Phrase.all →
      SpelledOut p words → Grouped after grouped →
      Grouped (words ++ after) (⟨.keywordPhrase, Token.concat words⟩ :: grouped)
  | single {t : Token} {after grouped : List Token} : ¬ BeginsPhrase (t :: after) →
      Grouped after grouped → Grouped (t :: after) (t :: grouped)

/-- Words of an entry that stand word by word are one token where phrases are read. -/
theorem SpelledOut.obeys {p : Phrase} {words after : List Token} (spelled : SpelledOut p words)
    (member : p ∈ Phrase.all) (stands : Stands [] (words ++ after)) :
    Obeys Phrase.all [] ⟨.keywordPhrase, Token.concat words⟩ (Token.concat after) := by
  have ends := spelled.spells.ends (Phrase.table_all.wellFormed p member)
  exact obeys_phrase member spelled.spells (stands.apart Phrase.table_nil ends)

/-- Where a phrase is read, its words stand word by word. -/
theorem Obeys.beginsPhrase {t : Token} {after : Text} (obeys : Obeys Phrase.all [] t after)
    (phrase : t.kind = .keywordPhrase) : BeginsPhrase (Token.wordwise (t.text ++ after)) := by
  obtain ⟨p, member, spelled, ends⟩ := obeys.spells phrase
  have formed := Phrase.table_all.wellFormed p member
  exact ⟨p, member, _, _, Token.wordwise_phrase spelled formed ends,
    spelled.spelledOut formed (Phrase.all_reserved p member)⟩

/-- Tokens with phrases are put together from the same text word by word. -/
theorem grouped_of_stands {tokens : List Token} (stands : Stands Phrase.all tokens) :
    Grouped (Token.wordwise (Token.concat tokens)) tokens := by
  induction tokens with
  | nil =>
    change Grouped (Token.wordwise []) []
    rw [Token.wordwise_nil]
    exact .nil
  | cons t ts ih =>
    obtain ⟨obeys, stands⟩ := stands
    have read := Token.wordwise_token obeys
    have whole : Token.concat (t :: ts) = t.text ++ Token.concat ts := rfl
    rw [whole, read]
    by_cases phrase : t.kind = .keywordPhrase
    case pos =>
      obtain ⟨p, member, spelled, -⟩ := obeys.spells phrase
      have shape : t = ⟨.keywordPhrase, Token.concat (Token.wordwise t.text)⟩ := by
        rw [Token.concat_wordwise, ← phrase]
      have out := spelled.spelledOut (Phrase.table_all.wellFormed p member)
        (Phrase.all_reserved p member)
      rw [Token.unphrase, if_pos phrase]
      nth_rewrite 2 [shape]
      exact .phrase member out (ih stands)
    case neg =>
      rw [Token.unphrase, if_neg phrase] at read ⊢
      refine .single ?_ (ih stands)
      -- Where the words of an entry began here, the token here would be a phrase.
      rintro ⟨p, member, words, rest, shape, spelled⟩
      have apart := Token.stands_wordwise (t.text ++ Token.concat ts)
      have text := congrArg Token.concat read
      change [t] ++ _ = words ++ rest at shape
      rw [read, shape] at apart
      rw [Token.concat_wordwise, shape, Token.concat_append] at text
      obtain ⟨same, -⟩ := obeys.unique Phrase.table_all (spelled.obeys member apart) text
      exact phrase (congrArg Token.kind same)

/-- Tokens put together from those of a text word by word are the tokens of the text. -/
theorem Grouped.stands {ts tokens : List Token} (grouped : Grouped ts tokens)
    (stands : Stands [] ts) :
    Token.concat tokens = Token.concat ts ∧ Stands Phrase.all tokens := by
  induction grouped with
  | nil => exact ⟨rfl, trivial⟩
  | @phrase p words after grouped member spelled _ ih =>
    obtain ⟨text, rest⟩ := ih stands.rest
    have whole : Token.concat (words ++ after) = Token.concat words ++ Token.concat after :=
      Token.concat_append words after
    refine ⟨?_, ?_, rest⟩
    · rw [whole, ← text]
      rfl
    · rw [text]
      exact spelled.obeys member stands
  | @single t after grouped apart _ ih =>
    obtain ⟨obeys, stands⟩ := stands
    obtain ⟨text, rest⟩ := ih stands
    refine ⟨congrArg (t.text ++ ·) text, ?_, rest⟩
    rw [text]
    have whole := Token.concat_split (t.text ++ Token.concat after)
    have first := stands_split (t.text ++ Token.concat after)
    cases shape : Token.split (t.text ++ Token.concat after) with
    | nil =>
      rw [shape] at whole
      have full := obeys.ne_nil Phrase.table_nil
      exact absurd (List.append_eq_nil_iff.1 whole.symm).1 full
    | cons u us =>
      rw [shape] at whole first
      obtain ⟨here, -⟩ := first
      by_cases phrase : u.kind = .keywordPhrase
      case pos =>
        have read : Token.wordwise (t.text ++ Token.concat after) = t :: after :=
          Token.wordwise_eq_iff.2 ⟨rfl, obeys, stands⟩
        have begins := here.beginsPhrase phrase
        rw [← read, ← whole] at apart
        exact absurd begins apart
      case neg =>
        obtain ⟨rfl, same⟩ :=
          obeys.unique Phrase.table_nil (here.without_phrases phrase) whole.symm
        rw [same]
        exact here

theorem grouped_iff (source : Text) (tokens : List Token) :
    Grouped (Token.wordwise source) tokens ↔ Token.split source = tokens := by
  constructor
  · intro grouped
    have read := grouped.stands (Token.stands_wordwise source)
    rw [Token.concat_wordwise] at read
    exact Token.split_eq_iff_stands.2 read
  · rintro rfl
    have grouped := grouped_of_stands (stands_split source)
    rwa [Token.concat_split] at grouped

/-- Phrases make nothing but a coarser reading of words. Taken apart, the spans of a source are its
spans without phrases; put together from left to right where the words of an entry stand with gaps
between them, its tokens without phrases are those with phrases. So no span but a phrase begins or
ends anywhere else for the phrases, and whatever is neither a keyword nor a gap stays on its own. -/
theorem phrases_coarsen (source : Text) :
    (Span.raw source).flatMap (Span.takeApart source) =
        Span.layOut 0 (Token.wordwise source) ∧
      (∀ tokens, Grouped (Token.wordwise source) tokens ↔ Token.split source = tokens) ∧
      (∀ s ∈ Span.raw source, s.kind ≠ .keywordPhrase →
        s ∈ Span.layOut 0 (Token.wordwise source)) ∧
      ∀ s ∈ Span.layOut 0 (Token.wordwise source), s.kind ≠ .keyword →
        (s.token source).isGap = false → s ∈ Span.raw source := by
  refine ⟨(Span.raw_takeApart source).symm, grouped_iff source, fun s read single => ?_,
    fun s member word solid => ?_⟩
  · rw [Span.raw_takeApart]
    refine List.mem_flatMap.2 ⟨s, read, ?_⟩
    rw [Span.takeApart, if_neg single]
    exact List.mem_singleton_self s
  · rw [Span.raw_takeApart] at member
    obtain ⟨u, read, inside⟩ := List.mem_flatMap.1 member
    by_cases phrase : u.kind = .keywordPhrase
    case pos =>
      rcases Span.keyword_or_gap read phrase inside with keyword | gap
      · exact absurd keyword word
      · rw [gap] at solid
        cases solid
    case neg =>
      rw [Span.takeApart, if_neg phrase, List.mem_singleton] at inside
      exact inside ▸ read

end QueryDesk.Sql
