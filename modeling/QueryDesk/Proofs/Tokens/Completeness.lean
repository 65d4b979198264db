import QueryDesk.Proofs.Text.Cutting
import QueryDesk.Proofs.Tokens.Semicolons
import QueryDesk.Proofs.Tokens.Spaced

/-!
# When a statement is complete

A text is silent if no token of it counts: there are blanks and comments in it and nothing else, and
the last comment may be open. A statement is complete if it is a semicolon that the text before
leaves to itself, and silent text (`isComplete_iff`). Blanks around a text change neither
(`silent_append`, `isComplete_trim`), though one at the end can belong to a comment.
-/

set_option autoImplicit false

namespace QueryDesk.Sql

open Text

theorem stands_split (t : Text) : Stands Phrase.all (Token.split t) :=
  (Token.split_eq_iff_stands.1 rfl).2

theorem split_cons {t : Token} {after : Text} (obeys : Obeys Phrase.all [] t after) :
    Token.split (t.text ++ after) = t :: Token.split after := by
  refine Token.split_eq_iff_stands.2 ⟨?_, ?_, stands_split after⟩
  · rw [Token.concat, List.flatMap_cons, ← Token.concat, Token.concat_split]
  · rw [Token.concat_split]
    exact obeys

theorem split_gap {gap : Text} (blank : AllBlank gap) (after : Text) :
    Token.split (gap ++ after) = gapTokens gap ++ Token.split after := by
  refine Token.split_eq_iff_stands.2 ⟨?_, ?_⟩
  · rw [Token.concat_append, Spaced.concat_gapTokens, Token.concat_split]
  · exact (stands_gapTokens Phrase.table_all blank _).2 (stands_split after)

theorem obeys_lineComment {body : Text} (one : '\n' ∉ body) (after : Text) :
    Obeys Phrase.all [] ⟨.comment, '-' :: '-' :: (body ++ ['\n'])⟩ after :=
  ⟨.lineComment, .lineComment one, nofun⟩

theorem obeys_lineCommentToEnd {body : Text} (one : '\n' ∉ body) :
    Obeys Phrase.all [] ⟨.comment, '-' :: '-' :: body⟩ [] :=
  ⟨.lineComment, .lineCommentToEnd one, nofun⟩

/-- Nothing is tried before a bracketed comment that begins with a slash. -/
theorem idle_slash {cs : Text} : ∀ e ∈ Rule.blockComment.earlier,
    ¬ e.Applies Phrase.all [] ('/' :: cs) := by
  intro e member applies
  obtain rfl : e = .lineComment := by simpa [Rule.earlier, Rule.all] using member
  exact absurd ((Rule.lineComment_applies_iff Phrase.table_all).1 applies).1 (by decide)

theorem obeys_blockComment {body : Text} (first : ¬ ['*', '/'] <:+: body ++ ['*']) (after : Text) :
    Obeys Phrase.all [] ⟨.comment, '/' :: '*' :: (body ++ ['*', '/'])⟩ after :=
  ⟨.blockComment, .blockComment first, idle_slash⟩

theorem obeys_blockCommentToEnd {body : Text} (never : ¬ ['*', '/'] <:+: body) :
    Obeys Phrase.all [] ⟨.comment, '/' :: '*' :: body⟩ [] :=
  ⟨.blockComment, .blockCommentToEnd never, idle_slash⟩

theorem obeys_semicolon (after : Text) : Obeys Phrase.all [] semicolon after := by
  rw [obeys_iff_cut? Phrase.table_all]
  rfl

/-- A phrase of the table is one token where no word character follows. -/
theorem obeys_phrase {p : Phrase} (member : p ∈ Phrase.all) {lexeme after : Text}
    (spelled : Spells p lexeme) (stops : startsWithWord after = false) :
    Obeys Phrase.all [] ⟨.keywordPhrase, lexeme⟩ after := by
  refine ⟨.phrase, .phrase member spelled rfl stops, fun e earlier => ?_⟩
  obtain ⟨c, cs, rfl, letter⟩ := spelled.head (Phrase.table_all.wellFormed p member)
  have mark := not_opener_of_isWordChar (isWordChar_of_isAlpha letter)
  exact no_region Phrase.table_all mark earlier _

/-- How a comment ends: with what closes it, or with the text. -/
inductive CommentForm (after : Text) : Text → Prop
  | line {body : Text} : '\n' ∉ body → CommentForm after ('-' :: '-' :: (body ++ ['\n']))
  | openLine {body : Text} : '\n' ∉ body → after = [] → CommentForm after ('-' :: '-' :: body)
  | block {body : Text} : ¬ ['*', '/'] <:+: body ++ ['*'] →
      CommentForm after ('/' :: '*' :: (body ++ ['*', '/']))
  | openBlock {body : Text} : ¬ ['*', '/'] <:+: body → after = [] →
      CommentForm after ('/' :: '*' :: body)

theorem Obeys.comment {t : Token} {after : Text} (obeys : Obeys Phrase.all [] t after)
    (comment : t.kind = .comment) : CommentForm after t.text := by
  obtain ⟨rule, taken, -⟩ := obeys
  cases taken with
  | lineComment one => exact .line one
  | lineCommentToEnd one => exact .openLine one rfl
  | blockComment first => exact .block first
  | blockCommentToEnd never => exact .openBlock never rfl
  | @word _ lexeme =>
    change Token.wordKind lexeme = .comment at comment
    unfold Token.wordKind at comment
    split at comment <;> cases comment
  | @single _ _ c =>
    change (if isPunctuation c then TokenKind.punctuation else .plain) = .comment at comment
    split at comment <;> cases comment
  | string => cases comment
  | stringToEnd => cases comment
  | quotedIdentifier => cases comment
  | quotedIdentifierToEnd => cases comment
  | phrase => cases comment
  | wholeNumber => cases comment
  | fraction => cases comment

theorem Obeys.spells {phrases : List Phrase} {t : Token} {before after : Text}
    (obeys : Obeys phrases before t after) (phrase : t.kind = .keywordPhrase) :
    ∃ p ∈ phrases, Spells p t.text ∧ startsWithWord after = false := by
  obtain ⟨rule, taken, -⟩ := obeys
  cases taken with
  | @phrase _ _ _ p member spelled _ ends => exact ⟨p, member, spelled, ends⟩
  | @word _ lexeme =>
    change Token.wordKind lexeme = .keywordPhrase at phrase
    unfold Token.wordKind at phrase
    split at phrase <;> cases phrase
  | @single _ _ c =>
    change (if isPunctuation c then TokenKind.punctuation else .plain) = _ at phrase
    split at phrase <;> cases phrase
  | _ => cases phrase

theorem CommentForm.start {after text : Text} (form : CommentForm after text) :
    (∃ cs, text = '-' :: '-' :: cs) ∨ ∃ cs, text = '/' :: '*' :: cs := by
  cases form with
  | line => exact .inl ⟨_, rfl⟩
  | openLine => exact .inl ⟨_, rfl⟩
  | block => exact .inr ⟨_, rfl⟩
  | openBlock => exact .inr ⟨_, rfl⟩

def Silent (t : Text) : Prop := ∀ u ∈ Token.split t, u.isSignificant = false

theorem silent_nil : Silent [] := by
  intro u member
  rw [Token.split, Token.splitAfter_nil] at member
  cases member

theorem silent_token {t : Token} {after : Text} (obeys : Obeys Phrase.all [] t after)
    (idle : t.isSignificant = false) : Silent (t.text ++ after) ↔ Silent after := by
  rw [Silent, split_cons obeys, List.forall_mem_cons]
  exact and_iff_right idle

theorem silent_gap {gap : Text} (blank : AllBlank gap) (after : Text) :
    Silent (gap ++ after) ↔ Silent after := by
  have gaps : ∀ u ∈ gapTokens gap, u.isSignificant = false := fun u member =>
    Token.isSignificant_of_isGap (isGap_of_mem_gapTokens blank member)
  rw [Silent, split_gap blank, List.forall_mem_append]
  exact and_iff_right gaps

theorem silent_line {body : Text} (one : '\n' ∉ body) (after : Text) :
    Silent ('-' :: '-' :: (body ++ '\n' :: after)) ↔ Silent after := by
  have whole := silent_token (obeys_lineComment one after) rfl
  simpa using whole

theorem silent_openLine {body : Text} (one : '\n' ∉ body) : Silent ('-' :: '-' :: body) := by
  have whole := silent_token (obeys_lineCommentToEnd one) rfl
  rw [List.append_nil] at whole
  exact whole.2 silent_nil

theorem silent_block {body : Text} (first : ¬ ['*', '/'] <:+: body ++ ['*']) (after : Text) :
    Silent ('/' :: '*' :: (body ++ '*' :: '/' :: after)) ↔ Silent after := by
  have whole := silent_token (obeys_blockComment first after) rfl
  simpa using whole

theorem silent_openBlock {body : Text} (never : ¬ ['*', '/'] <:+: body) :
    Silent ('/' :: '*' :: body) := by
  have whole := silent_token (obeys_blockCommentToEnd never) rfl
  rw [List.append_nil] at whole
  exact whole.2 silent_nil

/-- What begins with neither a blank nor a comment is not silent. -/
theorem not_silent {c : Char} {cs : Text} (visible : isBlank c = false)
    (line : ¬ (c = '-' ∧ cs.head? = some '-')) (block : ¬ (c = '/' ∧ cs.head? = some '*')) :
    ¬ Silent (c :: cs) := by
  intro silent
  have whole := Token.concat_split (c :: cs)
  have stands := stands_split (c :: cs)
  cases shape : Token.split (c :: cs) with
  | nil =>
    rw [shape] at whole
    cases whole
  | cons t ts =>
    have idle := silent t (shape ▸ List.mem_cons_self)
    rw [shape] at whole stands
    change t.text ++ Token.concat ts = c :: cs at whole
    obtain ⟨d, ds, text⟩ := List.exists_cons_of_ne_nil (stands.1.ne_nil Phrase.table_all)
    rw [text] at whole
    obtain ⟨rfl, rest⟩ := List.cons.inj whole
    rw [Token.isSignificant] at idle
    split at idle
    · rename_i comment
      rcases (stands.1.comment comment).start with ⟨es, text'⟩ | ⟨es, text'⟩
      · rw [text] at text'
        cases text'
        exact line ⟨rfl, by rw [← rest]; rfl⟩
      · rw [text] at text'
        cases text'
        exact block ⟨rfl, by rw [← rest]; rfl⟩
    · rw [text, allBlank, List.all_cons, visible] at idle
      cases idle
    · cases idle

/-- How a text begins, as far as it matters to whether it is silent. -/
inductive Start : Text → Prop
  | nil : Start []
  | blank {c : Char} {cs : Text} : isBlank c = true → Start (c :: cs)
  | line {body after : Text} : '\n' ∉ body → Start ('-' :: '-' :: (body ++ '\n' :: after))
  | openLine {body : Text} : '\n' ∉ body → Start ('-' :: '-' :: body)
  | block {body after : Text} : ¬ ['*', '/'] <:+: body ++ ['*'] →
      Start ('/' :: '*' :: (body ++ '*' :: '/' :: after))
  | openBlock {body : Text} : ¬ ['*', '/'] <:+: body → Start ('/' :: '*' :: body)
  | other {c : Char} {cs : Text} : isBlank c = false → ¬ (c = '-' ∧ cs.head? = some '-') →
      ¬ (c = '/' ∧ cs.head? = some '*') → Start (c :: cs)

theorem start (t : Text) : Start t := by
  cases t with
  | nil => exact .nil
  | cons c cs =>
    cases visible : isBlank c with
    | true => exact .blank visible
    | false =>
      by_cases line : c = '-' ∧ cs.head? = some '-'
      · obtain ⟨rfl, next⟩ := line
        obtain ⟨ds, rfl⟩ := List.head?_eq_some_iff.1 next
        rcases first_or_none '\n' ds with ⟨body, after, rfl, one⟩ | one
        · exact .line one
        · exact .openLine one
      · by_cases block : c = '/' ∧ cs.head? = some '*'
        · obtain ⟨rfl, next⟩ := block
          obtain ⟨ds, rfl⟩ := List.head?_eq_some_iff.1 next
          rcases Token.close_or_none ds with ⟨body, after, rfl, first⟩ | never
          · exact .block first
          · exact .openBlock never
        · exact .other visible line block

theorem silent_of_allBlank {gap : Text} (blank : AllBlank gap) : Silent gap := by
  have whole := (silent_gap blank []).2 silent_nil
  rwa [List.append_nil] at whole

/-- Blanks after an open line comment go on with it, through the first line feed. -/
theorem silent_openLine_append {body gap : Text} (one : '\n' ∉ body) (blank : AllBlank gap) :
    Silent ('-' :: '-' :: (body ++ gap)) := by
  rcases first_or_none '\n' gap with ⟨front, after, rfl, one'⟩ | one'
  · have last : AllBlank after := fun c member => blank c (by simp [member])
    have ended := (silent_line (List.not_mem_append one one') after).2 (silent_of_allBlank last)
    rwa [List.append_assoc] at ended
  · exact silent_openLine (List.not_mem_append one one')

/-- Blanks after an open bracketed comment go on with it. -/
theorem silent_openBlock_append {body gap : Text} (never : ¬ ['*', '/'] <:+: body)
    (blank : AllBlank gap) : Silent ('/' :: '*' :: (body ++ gap)) := by
  have slash : '/' ∉ gap := fun member => absurd (blank _ member) (by decide)
  refine silent_openBlock fun found => ?_
  rcases pair_of_append found with here | there | ⟨-, first⟩
  · exact never here
  · exact slash (there.mem (by simp))
  · exact slash (List.mem_of_head? first)

/-- A blank after a text is no second character of what begins a comment. -/
theorem head?_append_gap {gap : Text} (blank : AllBlank gap) {d : Char} (solid : isBlank d = false)
    {cs : Text} (other : cs.head? ≠ some d) : (cs ++ gap).head? ≠ some d := by
  intro first
  cases cs with
  | cons e es => exact other first
  | nil =>
    rw [blank d (List.mem_of_head? first)] at solid
    cases solid

/-- Blanks after a text change nothing, even where they go on with an open comment. -/
theorem silent_append {gap : Text} (blank : AllBlank gap) (t : Text) :
    Silent (t ++ gap) ↔ Silent t := by
  induction size : t.length using Nat.strongRecOn generalizing t with
  | ind n ih =>
    subst size
    cases start t with
    | nil => exact iff_of_true (silent_of_allBlank blank) silent_nil
    | @blank c cs visible =>
      have one : AllBlank [c] := by simpa [AllBlank] using visible
      exact (silent_gap one _).trans ((ih _ (by simp) cs rfl).trans (silent_gap one cs).symm)
    | @line body after one =>
      have ended := silent_line one (after ++ gap)
      rw [List.cons_append, List.cons_append, List.append_assoc]
      exact ended.trans ((ih _ (by simp; omega) after rfl).trans (silent_line one after).symm)
    | openLine one => exact iff_of_true (silent_openLine_append one blank) (silent_openLine one)
    | @block body after first =>
      have ended := silent_block first (after ++ gap)
      rw [List.cons_append, List.cons_append, List.append_assoc]
      exact ended.trans ((ih _ (by simp; omega) after rfl).trans (silent_block first after).symm)
    | openBlock never =>
      exact iff_of_true (silent_openBlock_append never blank) (silent_openBlock never)
    | other visible line block =>
      refine iff_of_false (not_silent visible ?_ ?_) (not_silent visible line block)
      · exact fun both =>
          head?_append_gap blank (by decide) (fun first => line ⟨both.1, first⟩) both.2
      · exact fun both =>
          head?_append_gap blank (by decide) (fun first => block ⟨both.1, first⟩) both.2

theorem glance_semicolon (after : Text) : glance (';' :: after) = [';'] :=
  glance_mark (by decide) (by decide) (fun point => absurd point (by decide))

/-- No token sees past a semicolon that stands alone. -/
theorem stands_semicolon_iff (front back : List Token) :
    Stands Phrase.all (front ++ semicolon :: back) ↔
      Stands Phrase.all (front ++ [semicolon]) ∧ Stands Phrase.all back := by
  have look (ts us : List Token) : glance (Token.concat (semicolon :: ts)) =
      glance (Token.concat (semicolon :: us)) :=
    (glance_semicolon _).trans (glance_semicolon _).symm
  constructor
  · intro stands
    exact ⟨stands.carry_front Phrase.table_all (look _ _) ⟨obeys_semicolon _, trivial⟩,
      stands.rest.2⟩
  · rintro ⟨stands, rest⟩
    exact stands.carry_front Phrase.table_all (look _ _) ⟨obeys_semicolon _, rest⟩

/-- The tokens, together with a semicolon, read the text that they come from. -/
def Barred (front : List Token) : Prop := Stands Phrase.all (front ++ [semicolon])

theorem split_barred {front : List Token} (barred : Barred front) (after : Text) :
    Token.split (Token.concat front ++ ';' :: after) =
      front ++ semicolon :: Token.split after := by
  refine Token.split_eq_iff_stands.2 ⟨?_, ?_⟩
  · rw [Token.concat_append]
    exact congrArg (Token.concat front ++ ';' :: ·) (Token.concat_split after)
  · exact (stands_semicolon_iff front _).2 ⟨barred, stands_split after⟩

/-- A statement is complete if a semicolon that stands alone is followed by silent text only. -/
theorem isComplete_iff (t : Text) : isComplete t = true ↔
    ∃ front after, Barred front ∧ Silent after ∧ t = Token.concat front ++ ';' :: after := by
  rw [isComplete_eq, endsInSemicolon_iff]
  constructor
  · rintro ⟨front, back, shape, idle⟩
    have stands := (stands_semicolon_iff front back).1 (shape ▸ stands_split t)
    have rest : Token.split (Token.concat back) = back :=
      Token.split_eq_iff_stands.2 ⟨rfl, stands.2⟩
    refine ⟨front, Token.concat back, stands.1, ?_, ?_⟩
    · rw [Silent, rest]
      exact idle
    · rw [← Token.concat_split t, shape, Token.concat_append]
      rfl
  · rintro ⟨front, after, barred, silent, rfl⟩
    exact ⟨front, Token.split after, split_barred barred after, silent⟩

theorem isComplete_gap_append {gap : Text} (blank : AllBlank gap) (t : Text) :
    isComplete (gap ++ t) = isComplete t := by
  have gaps : (gapTokens gap).filter Token.isSignificant = [] :=
    filter_gapTokens_eq_nil (fun _ => Token.isSignificant_of_isGap) blank
  rw [isComplete_eq, isComplete_eq, split_gap blank, endsInSemicolon, List.filter_append, gaps]
  rfl

theorem isComplete_append_gap {gap : Text} (blank : AllBlank gap) (t : Text) :
    isComplete (t ++ gap) = isComplete t := by
  rw [Bool.eq_iff_iff, isComplete_iff, isComplete_iff]
  constructor
  · rintro ⟨front, after, barred, silent, shape⟩
    rcases List.append_eq_append_iff.1 shape with ⟨cs, -, rest⟩ | ⟨cs, rfl, rest⟩
    · -- The semicolon would lie among the blanks.
      have member : ';' ∈ gap := rest ▸ List.mem_append_right cs List.mem_cons_self
      exact absurd (blank _ member) (by decide)
    · cases cs with
      | nil =>
        have member : ';' ∈ gap := by
          rw [List.nil_append] at rest
          exact rest ▸ List.mem_cons_self
        exact absurd (blank _ member) (by decide)
      | cons c cs =>
        obtain ⟨rfl, rfl⟩ := List.cons.inj rest
        exact ⟨front, cs, barred, (silent_append blank cs).1 silent, rfl⟩
  · rintro ⟨front, after, barred, silent, rfl⟩
    exact ⟨front, after ++ gap, barred, (silent_append blank after).2 silent, by simp⟩

/-- Blanks around a text have no say in whether it is complete. -/
theorem isComplete_trim (t : Text) : isComplete (trim t) = isComplete t := by
  obtain ⟨front, back, blank, blank', whole⟩ := (trims_trim t).cut
  have around := (isComplete_gap_append blank _).trans (isComplete_append_gap blank' (trim t))
  rw [← whole] at around
  exact around.symm

end QueryDesk.Sql
