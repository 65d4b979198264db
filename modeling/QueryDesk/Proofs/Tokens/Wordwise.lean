import QueryDesk.Proofs.Tokens.Completeness

/-!
# Tokens word by word

The tokens of a text when no phrases are read: every word is a token of its own. They are the
tokens of the text with each phrase taken apart (`wordwise_eq_flatMap`), so what is known of
tokens, phrases among them, carries over.
-/

set_option autoImplicit false

namespace QueryDesk.Sql

open Text

theorem Phrase.table_nil : Phrase.Table [] := ⟨nofun, nofun⟩

variable {t : Token} {before after : Text}

theorem Rule.Takes.without_phrases {rule : Rule} (taken : rule.Takes Phrase.all before t after)
    (single : t.kind ≠ .keywordPhrase) : rule.Takes [] before t after := by
  cases taken with
  | lineComment one => exact .lineComment one
  | lineCommentToEnd one => exact .lineCommentToEnd one
  | blockComment first => exact .blockComment first
  | blockCommentToEnd never => exact .blockCommentToEnd never
  | string quote closes => exact .string quote closes
  | stringToEnd quote never => exact .stringToEnd quote never
  | quotedIdentifier absent => exact .quotedIdentifier absent
  | quotedIdentifierToEnd absent => exact .quotedIdentifierToEnd absent
  | phrase => exact absurd rfl single
  | wholeNumber full inside ends bare => exact .wholeNumber full inside ends bare
  | fraction full inside full' inside' ends => exact .fraction full inside full' inside' ends
  | word full inside ends => exact .word full inside ends
  | single => exact .single

theorem Rule.no_phrase (t : Text) : ¬ Rule.phrase.Applies [] before t := by
  rintro ⟨token, after, -, taken⟩
  cases taken with
  | phrase member => cases member

/-- What applies without phrases applies with them. -/
theorem Rule.Applies.with_phrases {rule : Rule} {t : Text}
    (applies : rule.Applies [] before t) : rule.Applies Phrase.all before t := by
  cases rule with
  | phrase => exact absurd applies (Rule.no_phrase t)
  | _ =>
    rw [Rule.applies_iff Phrase.table_nil] at applies
    rw [Rule.applies_iff Phrase.table_all]
    exact applies

theorem Obeys.without_phrases (obeys : Obeys Phrase.all before t after)
    (single : t.kind ≠ .keywordPhrase) : Obeys [] before t after := by
  obtain ⟨rule, taken, idle⟩ := obeys
  exact ⟨rule, taken.without_phrases single,
    fun e earlier applies => idle e earlier applies.with_phrases⟩

/-- A word that begins with no digit is a token wherever no word character follows. -/
theorem obeys_word {c : Char} {cs : Text} (inside : ∀ d ∈ c :: cs, isWordChar d = true)
    (digit : c.isDigit = false) (ends : startsWithWord after = false) :
    Obeys [] [] ⟨Token.wordKind (c :: cs), c :: cs⟩ after := by
  have mark := not_opener_of_isWordChar (inside c List.mem_cons_self)
  refine ⟨.word, .word (List.cons_ne_nil c cs) inside ends, fun e earlier applies => ?_⟩
  rw [List.cons_append] at applies
  rcases Rule.earlier_word earlier with region | rfl | rfl
  · exact no_region Phrase.table_nil mark region _ applies
  · exact Rule.no_phrase _ applies
  · rw [Rule.applies_iff Phrase.table_nil, Rule.reader?, Token.number?, digit] at applies
    cases applies

/-- A character that opens nothing and belongs to no word is a token of its own. -/
theorem obeys_mark {c : Char} (mark : c ∉ openers) (wordless : isWordChar c = false) :
    Obeys [] [] ⟨if isPunctuation c then .punctuation else .plain, [c]⟩ after := by
  refine ⟨.single, .single, fun e earlier applies => ?_⟩
  rw [List.singleton_append] at applies
  have among : e ∈ Rule.phrase.earlier ∨ e = .phrase ∨ e = .number ∨ e = .word := by
    revert earlier
    cases e <;> simp [Rule.earlier, Rule.all]
  rcases among with region | wordy
  · exact no_region Phrase.table_nil mark region _ applies
  · exact Rule.not_applies_of_mark Phrase.table_nil wordless wordy applies

namespace Token

/-- The tokens of a text with every word on its own. -/
def wordwise (t : Text) : List Token := splitAfter [] false t

theorem wordwise_eq_iff {source : Text} {tokens : List Token} :
    wordwise source = tokens ↔ concat tokens = source ∧ Stands [] tokens := by
  change splitAfter [] (endsWithWord []) source = tokens ↔ _
  rw [splitAfter_eq_iff Phrase.table_nil, reads_iff_stands Phrase.table_nil]
  intro ends
  cases ends

theorem stands_wordwise (source : Text) : Stands [] (wordwise source) := (wordwise_eq_iff.1 rfl).2

theorem concat_wordwise (source : Text) : concat (wordwise source) = source :=
  concat_splitAfter [] false source

theorem wordwise_nil : wordwise [] = [] := splitAfter_nil [] false

theorem wordwise_cons (obeys : Obeys [] [] t after) :
    wordwise (t.text ++ after) = t :: wordwise after := by
  refine wordwise_eq_iff.2 ⟨?_, ?_, stands_wordwise after⟩
  · exact congrArg (t.text ++ ·) (concat_wordwise after)
  · rw [concat_wordwise]
    exact obeys

theorem wordwise_gap {gap : Text} (blank : AllBlank gap) (after : Text) :
    wordwise (gap ++ after) = gapTokens gap ++ wordwise after := by
  refine wordwise_eq_iff.2 ⟨?_, ?_⟩
  · rw [concat_append, Spaced.concat_gapTokens, concat_wordwise]
  · exact (stands_gapTokens Phrase.table_nil blank _).2 (stands_wordwise after)

/-- A word of a phrase in any case, with what follows it. -/
theorem wordwise_capital {word : Text} {p : Phrase} (formed : Phrase.WellFormed (upper word :: p))
    (ends : startsWithWord after = false) :
    wordwise (word ++ after) = ⟨wordKind word, word⟩ :: wordwise after := by
  obtain ⟨full, capitals⟩ := formed.2 _ List.mem_cons_self
  have letters := letters_of_upper capitals
  cases word with
  | nil => exact absurd rfl full
  | cons c cs =>
    have digit : c.isDigit = false := by
      cases digit : c.isDigit with
      | false => rfl
      | true => 
        have letter := letters c List.mem_cons_self
        rw [not_isAlpha_of_isDigit digit] at letter
        cases letter
    exact wordwise_cons (obeys_word formed.word digit ends)

theorem wordwise_phrase {p : Phrase} {lexeme : Text} (spelled : Spells p lexeme)
    (formed : p.WellFormed) (ends : startsWithWord after = false) :
    wordwise (lexeme ++ after) = wordwise lexeme ++ wordwise after := by
  induction spelled with
  | @last word =>
    have alone := wordwise_capital formed (rfl : startsWithWord [] = false)
    rw [List.append_nil, wordwise_nil] at alone
    rw [wordwise_capital formed ends, alone]
    rfl
  | @more ws word gap rest full blank tail ih =>
    have stops (behind : Text) : startsWithWord (gap ++ behind) = false :=
      stops_word_of_gap full blank
    rw [List.append_assoc, List.append_assoc, wordwise_capital formed (stops _),
      wordwise_gap blank, ih (formed.tail tail.ne_nil), wordwise_capital formed (stops _),
      wordwise_gap blank, List.cons_append, List.append_assoc]

/-- A phrase as its words and the blanks between them, and any other token as it is. -/
def unphrase (t : Token) : List Token :=
  if t.kind = .keywordPhrase then wordwise t.text else [t]

theorem wordwise_token (obeys : Obeys Phrase.all [] t after) :
    wordwise (t.text ++ after) = unphrase t ++ wordwise after := by
  rw [unphrase]
  split
  case isTrue phrase =>
    obtain ⟨p, member, spelled, ends⟩ := obeys.spells phrase
    exact wordwise_phrase spelled (Phrase.table_all.wellFormed p member) ends
  case isFalse single => exact wordwise_cons (obeys.without_phrases single)

theorem wordwise_eq_flatMap (source : Text) :
    wordwise source = (split source).flatMap unphrase := by
  have whole := concat_split source
  have stands := stands_split source
  generalize split source = tokens at whole stands
  subst whole
  induction tokens with
  | nil => exact wordwise_nil
  | cons t ts ih =>
    obtain ⟨obeys, rest⟩ := stands
    rw [concat, List.flatMap_cons, ← concat, wordwise_token obeys, ih rest, List.flatMap_cons]

end Token

end QueryDesk.Sql
