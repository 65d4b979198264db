import QueryDesk.Proofs.Tokens.Completeness

/-!
# Complete statements as barriers

Tokens look ahead, so the tokens of two texts put together are in general not those of the one and
then those of the other. After a complete statement they are. No token sees past its semicolon, and
blanks and closed comments end where they end, whatever follows (`Obeys.before_all`). Only a comment
that is left open goes on with the text that follows.

* `silent_iff`: a text in which no token counts consists of blanks and comments.
* `split_append`: the tokens after a complete statement are those of the text after it.
* `complete_is_barrier`: the spans, and whether both texts together are complete.
-/

set_option autoImplicit false

namespace QueryDesk.Sql

open Text

/-- Blanks and comments, the last of which may be open. -/
inductive Idle : Text → Prop
  | nil : Idle []
  | blank {c : Char} {after : Text} : isBlank c = true → Idle after → Idle (c :: after)
  | line {body after : Text} : '\n' ∉ body → Idle after →
      Idle ('-' :: '-' :: (body ++ '\n' :: after))
  | openLine {body : Text} : '\n' ∉ body → Idle ('-' :: '-' :: body)
  | block {body after : Text} : ¬ ['*', '/'] <:+: body ++ ['*'] → Idle after →
      Idle ('/' :: '*' :: (body ++ '*' :: '/' :: after))
  | openBlock {body : Text} : ¬ ['*', '/'] <:+: body → Idle ('/' :: '*' :: body)

theorem silent_blank {c : Char} (blank : isBlank c = true) (after : Text) :
    Silent (c :: after) ↔ Silent after := by
  have one : AllBlank [c] := by simpa [AllBlank] using blank
  exact silent_gap one after

theorem silent_iff (t : Text) : Silent t ↔ Idle t := by
  constructor
  · intro silent
    induction size : t.length using Nat.strongRecOn generalizing t with
    | ind n ih =>
      subst size
      cases start t with
      | nil => exact .nil
      | @blank c cs blank =>
        exact .blank blank (ih _ (by simp) cs ((silent_blank blank cs).1 silent) rfl)
      | @line body after one =>
        exact .line one (ih _ (by simp; omega) after ((silent_line one after).1 silent) rfl)
      | openLine one => exact .openLine one
      | @block body after first =>
        exact .block first (ih _ (by simp; omega) after ((silent_block first after).1 silent) rfl)
      | openBlock never => exact .openBlock never
      | other visible line block => exact absurd silent (not_silent visible line block)
  · intro idle
    induction idle with
    | nil => exact silent_nil
    | blank blank _ ih => exact (silent_blank blank _).2 ih
    | line one _ ih => exact (silent_line one _).2 ih
    | openLine one => exact silent_openLine one
    | block first _ ih => exact (silent_block first _).2 ih
    | openBlock never => exact silent_openBlock never

/-- A comment that is opened and not closed. -/
def OpenComment (t : Text) : Prop :=
  (∃ body, t = '-' :: '-' :: body ∧ '\n' ∉ body) ∨
    ∃ body, t = '/' :: '*' :: body ∧ ¬ ['*', '/'] <:+: body

theorem CommentForm.closed_or_last {after text : Text} (form : CommentForm after text) :
    (∀ after', Obeys Phrase.all [] ⟨.comment, text⟩ after') ∨ after = [] ∧ OpenComment text := by
  cases form with
  | line one => exact .inl (obeys_lineComment one)
  | openLine one ends => exact .inr ⟨ends, .inl ⟨_, rfl, one⟩⟩
  | block first => exact .inl (obeys_blockComment first)
  | openBlock never ends => exact .inr ⟨ends, .inr ⟨_, rfl, never⟩⟩

/-- A token that does not count ends where it ends, unless it is an open comment at the end. -/
theorem Obeys.before_all {t : Token} {after : Text} (obeys : Obeys Phrase.all [] t after)
    (idle : t.isSignificant = false) :
    (∀ after', Obeys Phrase.all [] t after') ∨
      after = [] ∧ t.kind = .comment ∧ OpenComment t.text := by
  obtain ⟨kind, text⟩ := t
  cases kind with
  | comment =>
    rcases (obeys.comment rfl).closed_or_last with all | ⟨ends, never⟩
    · exact .inl all
    · exact .inr ⟨ends, rfl, never⟩
  | plain =>
    cases gap : (⟨.plain, text⟩ : Token).isGap with
    | true =>
      obtain ⟨c, blank, same⟩ := Token.isGap_iff.1 gap
      rw [same]
      exact .inl fun _ => obeys_blank Phrase.table_all blank
    | false =>
      -- It begins with a character that can be seen, so it would count.
      obtain ⟨c, cs, rfl⟩ := List.exists_cons_of_ne_nil (obeys.ne_nil Phrase.table_all)
      have visible : isBlank c = false := obeys.visible Phrase.table_all gap rfl
      have blank : allBlank (c :: cs) = true := by simpa [Token.isSignificant] using idle
      rw [allBlank, List.all_cons, visible] at blank
      cases blank
  | string => cases idle
  | quotedIdentifier => cases idle
  | keywordPhrase => cases idle
  | keyword => cases idle
  | number => cases idle
  | punctuation => cases idle

/-- The last token, if it is a comment, is closed. -/
def EndsClosed (tokens : List Token) : Prop :=
  ∀ t, tokens.getLast? = some t → t.kind = .comment → ¬ OpenComment t.text

theorem EndsClosed.suffix {tokens back : List Token} (closed : EndsClosed tokens)
    (suffix : back <:+ tokens) : EndsClosed back := by
  obtain ⟨front, rfl⟩ := suffix
  intro t last
  refine closed t ?_
  rw [List.getLast?_append, last]
  rfl

/-- Blanks and comments that are closed end where they end, whatever follows. -/
theorem split_idle_append {tokens : List Token} (stands : Stands Phrase.all tokens)
    (idle : ∀ t ∈ tokens, t.isSignificant = false) (closed : EndsClosed tokens) (b : Text) :
    Token.split (Token.concat tokens ++ b) = tokens ++ Token.split b := by
  induction tokens with
  | nil => rfl
  | cons t ts ih =>
    obtain ⟨obeys, stands⟩ := stands
    have rest := ih stands (fun u member => idle u (List.mem_cons_of_mem t member))
      (closed.suffix (List.suffix_cons t ts))
    rw [Token.concat, List.flatMap_cons, ← Token.concat, List.append_assoc]
    rcases obeys.before_all (idle t List.mem_cons_self) with all | ⟨ends, comment, never⟩
    · rw [split_cons (all _), rest, List.cons_append]
    · cases ts with
      | nil => exact absurd never (closed t rfl comment)
      | cons u us =>
        rw [Token.concat, List.flatMap_cons, List.append_eq_nil_iff] at ends
        exact absurd ends.1 (stands.1.ne_nil Phrase.table_all)

/-- The tokens after a complete statement are those of the text after it. -/
theorem split_append {a : Text} (complete : isComplete a = true)
    (closed : EndsClosed (Token.split a)) (b : Text) :
    Token.split (a ++ b) = Token.split a ++ Token.split b := by
  rw [isComplete_eq, endsInSemicolon_iff] at complete
  obtain ⟨front, back, shape, idle⟩ := complete
  have whole := Token.concat_split a
  rw [shape] at closed whole
  obtain ⟨barred, stands⟩ := (stands_semicolon_iff front back).1 (shape ▸ stands_split a)
  have behind : back <:+ front ++ semicolon :: back :=
    (List.suffix_cons semicolon back).trans (List.suffix_append front _)
  have rest := split_idle_append stands idle (closed.suffix behind) b
  have barrier := split_barred barred (Token.concat back ++ b)
  have text : a ++ b = Token.concat front ++ ';' :: (Token.concat back ++ b) := by
    rw [← whole, Token.concat_append, List.append_assoc]
    rfl
  rw [text, barrier, rest, shape, List.append_assoc, List.cons_append]

/-- Which of the tokens that count comes last is decided by those behind, if there is one there. -/
theorem endsInSemicolon_append (ts us : List Token) : endsInSemicolon (ts ++ us) =
    if us.any Token.isSignificant then endsInSemicolon us else endsInSemicolon ts := by
  rw [endsInSemicolon, endsInSemicolon, endsInSemicolon, List.filter_append]
  cases counts : us.any Token.isSignificant with
  | true =>
    obtain ⟨u, member, significant⟩ := List.any_eq_true.1 counts
    have full : us.filter Token.isSignificant ≠ [] :=
      List.ne_nil_of_mem (List.mem_filter.2 ⟨member, significant⟩)
    rw [if_pos rfl, List.getLast?_append, List.getLast?_eq_some_getLast full]
    rfl
  | false =>
    have empty : us.filter Token.isSignificant = [] := by simpa using counts
    rw [if_neg Bool.false_ne_true, empty, List.append_nil]

theorem idle_iff_any (t : Text) : Idle t ↔ (Token.split t).any Token.isSignificant = false := by
  rw [← silent_iff, Silent, List.any_eq_false]
  simp

/-- After a complete statement that leaves no comment open, a text is read as if nothing stood
before it, and it decides whether both together are complete. Blanks and comments have no say. -/
theorem complete_is_barrier (a b : Text) (complete : isComplete a = true)
    (closed : ∀ s, (Span.raw a).getLast? = some s → s.kind = .comment → ¬ OpenComment (s.text a)) :
    Span.raw (a ++ b) = Span.raw a ++ (Span.raw b).map (Span.shift (byteSize a)) ∧
      (Idle b → isComplete (a ++ b) = true) ∧
      (¬ Idle b → isComplete (a ++ b) = isComplete b) := by
  have ends : EndsClosed (Token.split a) := by
    intro t last
    rw [← Span.map_token_raw, List.getLast?_map, Option.map_eq_some_iff] at last
    obtain ⟨s, last, rfl⟩ := last
    exact closed s last
  have tokens := split_append complete ends b
  refine ⟨?_, ?_, ?_⟩
  · rw [Span.raw, tokens, Span.layOut_append, Token.concat_split, Span.raw, Span.raw,
      Span.map_shift_layOut]
  · intro idle
    rw [isComplete_eq, tokens, endsInSemicolon_append, (idle_iff_any b).1 idle,
      if_neg Bool.false_ne_true, ← isComplete_eq, complete]
  · intro counts
    rw [idle_iff_any, Bool.not_eq_false] at counts
    rw [isComplete_eq, tokens, endsInSemicolon_append, if_pos counts, ← isComplete_eq]

/-- A comment that its line ends is no bar to the next statement, and none is complete without a
semicolon of its own. -/
theorem complete_is_barrier_line :
    isComplete "SELECT 1; -- one\n".toList = true ∧
      (∀ s, (Span.raw "SELECT 1; -- one\n".toList).getLast? = some s → s.kind = .comment →
        ¬ OpenComment (s.text "SELECT 1; -- one\n".toList)) ∧
      ¬ Idle "SELECT 'a".toList ∧
      Span.raw ("SELECT 1; -- one\n".toList ++ "SELECT 'a".toList) =
        Span.raw "SELECT 1; -- one\n".toList ++
          (Span.raw "SELECT 'a".toList).map (Span.shift 17) ∧
      isComplete ("SELECT 1; -- one\n".toList ++ "SELECT 'a".toList) = false := by
  have complete : isComplete "SELECT 1; -- one\n".toList = true := by decide +kernel
  have last : (Span.raw "SELECT 1; -- one\n".toList).getLast? = some ⟨.comment, 10, 17⟩ := by
    decide +kernel
  have closed : ∀ s, (Span.raw "SELECT 1; -- one\n".toList).getLast? = some s →
      s.kind = .comment → ¬ OpenComment (s.text "SELECT 1; -- one\n".toList) := by
    intro s here _
    rw [last] at here
    obtain rfl := Option.some.inj here
    have text : Span.text "SELECT 1; -- one\n".toList ⟨.comment, 10, 17⟩ =
        '-' :: '-' :: [' ', 'o', 'n', 'e', '\n'] := by decide +kernel
    rw [text]
    rintro (⟨body, shape, one⟩ | ⟨body, shape, -⟩)
    · cases shape
      exact one (by decide)
    · exact absurd (List.cons.inj shape).1 (by decide)
  have counts : ¬ Idle "SELECT 'a".toList := by
    rw [idle_iff_any]
    decide +kernel
  have barrier := complete_is_barrier _ "SELECT 'a".toList complete closed
  exact ⟨complete, closed, counts, barrier.1, (barrier.2.2 counts).trans (by decide +kernel)⟩

end QueryDesk.Sql
