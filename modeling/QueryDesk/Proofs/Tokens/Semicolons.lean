import QueryDesk.Sql.Completeness
import QueryDesk.Proofs.Tokens.Adjacent
import QueryDesk.Proofs.Tokens.Merging
import QueryDesk.Proofs.Tokens.Tiling

/-!
# Semicolons

Where semicolons of a text come out as tokens. Merging neither makes nor loses one, and it keeps
what the last token is that counts (`isComplete_eq`). A text is flat if nothing in it opens a
comment, a string or a quoted identifier: there every semicolon is a token (`countP_scan`), and a
semicolon at the end ends a statement (`isComplete_of_flat`).
-/

set_option autoImplicit false

namespace QueryDesk.Sql

open Text

namespace Token

theorem isSignificant_of_isSemicolon {t : Token} (semicolon : t.isSemicolon = true) :
    t.isSignificant = true := by
  rw [isSemicolon, Bool.and_eq_true, beq_iff_eq] at semicolon
  rw [isSignificant, semicolon.1]

theorem not_isSemicolon_of_kind {t : Token} (other : t.kind ≠ .punctuation) :
    t.isSemicolon = false := by
  rw [isSemicolon, beq_eq_false_iff_ne.2 other]
  rfl

end Token

theorem endsInSemicolon_cons (t : Token) (ts : List Token) : endsInSemicolon (t :: ts) =
    if ts.any Token.isSignificant then endsInSemicolon ts else t.isSemicolon := by
  cases some : ts.any Token.isSignificant with
  | true =>
    obtain ⟨u, member, significant⟩ := List.any_eq_true.1 some
    have full : ts.filter Token.isSignificant ≠ [] :=
      List.ne_nil_of_mem (List.mem_filter.2 ⟨member, significant⟩)
    rw [if_pos rfl, endsInSemicolon, endsInSemicolon, List.filter_cons]
    split
    · rw [List.getLast?_cons_of_ne_nil full]
    · rfl
  | false =>
    have empty : ts.filter Token.isSignificant = [] := by
      rw [List.filter_eq_nil_iff]
      exact fun u member => by simpa using List.any_eq_false.1 some u member
    rw [if_neg Bool.false_ne_true, endsInSemicolon, List.filter_cons, empty]
    cases semicolon : t.isSemicolon with
    | true => simp [Token.isSignificant_of_isSemicolon semicolon, semicolon]
    | false => split <;> simp [semicolon]

/-- The token of a semicolon that stands alone. -/
def semicolon : Token := ⟨.punctuation, [';']⟩

theorem eq_semicolon {t : Token} (isSemicolon : t.isSemicolon = true) : t = semicolon := by
  obtain ⟨kind, text⟩ := t
  rw [Token.isSemicolon, Bool.and_eq_true, beq_iff_eq, beq_iff_eq] at isSemicolon
  obtain ⟨rfl, rfl⟩ := isSemicolon
  rfl

theorem endsInSemicolon_iff (ts : List Token) : endsInSemicolon ts = true ↔
    ∃ front back, ts = front ++ semicolon :: back ∧ ∀ u ∈ back, u.isSignificant = false := by
  constructor
  · intro ends
    induction ts with
    | nil => cases ends
    | cons t ts ih =>
      rw [endsInSemicolon_cons] at ends
      split at ends
      · obtain ⟨front, back, rfl, idle⟩ := ih ends
        exact ⟨t :: front, back, rfl, idle⟩
      · rename_i none
        refine ⟨[], ts, by rw [eq_semicolon ends]; rfl, ?_⟩
        simpa using none
  · rintro ⟨front, back, rfl, idle⟩
    have empty : back.filter Token.isSignificant = [] := by simpa using idle
    rw [endsInSemicolon, List.filter_append, List.filter_cons_of_pos rfl, empty,
      List.getLast?_concat]
    rfl

namespace Token

/-- What cannot tell two plain tokens from their join cannot see that they are joined. -/
theorem joinPlain_congr {α : Type} (f : List Token → α)
    (same : ∀ a b us, f (⟨.plain, a ++ b⟩ :: us) = f (⟨.plain, a⟩ :: ⟨.plain, b⟩ :: us))
    (t : Token) (ts : List Token) : f (joinPlain t ts) = f (t :: ts) := by
  cases ts with
  | nil => rfl
  | cons u us =>
    rw [joinPlain]
    split
    · rename_i both
      obtain ⟨kind, a⟩ := t
      obtain ⟨kind', b⟩ := u
      obtain ⟨rfl, rfl⟩ : kind = .plain ∧ kind' = .plain := both
      exact same a b us
    · rfl

theorem any_isSignificant_joinPlain (t : Token) (ts : List Token) :
    (joinPlain t ts).any isSignificant = (t :: ts).any isSignificant :=
  joinPlain_congr (·.any isSignificant)
    (fun a b us => by simp [isSignificant, allBlank, Bool.or_assoc]) t ts

theorem endsInSemicolon_joinPlain (t : Token) (ts : List Token) :
    endsInSemicolon (joinPlain t ts) = endsInSemicolon (t :: ts) := by
  refine joinPlain_congr endsInSemicolon (fun a b us => ?_) t ts
  have plain (text : Text) : (⟨.plain, text⟩ : Token).isSemicolon = false :=
    not_isSemicolon_of_kind nofun
  rw [endsInSemicolon_cons, endsInSemicolon_cons ⟨.plain, a⟩, endsInSemicolon_cons ⟨.plain, b⟩,
    plain, plain, plain]
  cases some : us.any isSignificant <;> simp [-List.any_eq_true, List.any_cons, some]

theorem countP_joinPlain (t : Token) (ts : List Token) :
    (joinPlain t ts).countP isSemicolon = (t :: ts).countP isSemicolon :=
  joinPlain_congr (·.countP isSemicolon) (fun a b us => by simp [isSemicolon]) t ts

theorem any_isSignificant_merge (ts : List Token) :
    (merge ts).any isSignificant = ts.any isSignificant := by
  induction ts with
  | nil => rfl
  | cons t ts ih => rw [merge, any_isSignificant_joinPlain, List.any_cons, List.any_cons, ih]

theorem endsInSemicolon_merge (ts : List Token) :
    endsInSemicolon (merge ts) = endsInSemicolon ts := by
  induction ts with
  | nil => rfl
  | cons t ts ih =>
    rw [merge, endsInSemicolon_joinPlain, endsInSemicolon_cons, endsInSemicolon_cons, ih,
      any_isSignificant_merge]

theorem countP_merge (ts : List Token) : (merge ts).countP isSemicolon = ts.countP isSemicolon := by
  induction ts with
  | nil => rfl
  | cons t ts ih => rw [merge, countP_joinPlain, List.countP_cons, List.countP_cons, ih]

end Token

/-- Whether a statement is complete can be read off the tokens before they are merged. -/
theorem isComplete_eq (t : Text) : isComplete t = endsInSemicolon (Token.split t) :=
  Token.endsInSemicolon_merge _

/-- Nothing in the text opens a comment, a string or a quoted identifier. -/
structure Flat (t : Text) : Prop where
  single : '\'' ∉ t
  double : '"' ∉ t
  backquote : Token.backquote ∉ t
  dashes : ¬ ['-', '-'] <:+: t
  slash : ¬ ['/', '*'] <:+: t

theorem Flat.part {t u : Text} (flat : Flat t) (inside : u <:+: t) : Flat u where
  single member := flat.single (inside.mem member)
  double member := flat.double (inside.mem member)
  backquote member := flat.backquote (inside.mem member)
  dashes found := flat.dashes (found.trans inside)
  slash found := flat.slash (found.trans inside)

/-- Two neighbours in a text put together are neighbours in a part or stand at its seam. -/
theorem pair_of_append {x y : Char} {a b : Text} (found : [x, y] <:+: a ++ b) :
    [x, y] <:+: a ∨ [x, y] <:+: b ∨ a.getLast? = some x ∧ b.head? = some y := by
  induction a with
  | nil => exact .inr (.inl found)
  | cons c cs ih =>
    rw [List.cons_append, List.infix_cons_iff, List.cons_prefix_cons] at found
    rcases found with ⟨rfl, begins⟩ | found
    · cases cs with
      | nil =>
        obtain ⟨after, rfl⟩ := begins
        exact .inr (.inr ⟨rfl, rfl⟩)
      | cons d ds =>
        obtain rfl := (List.cons_prefix_cons.1 begins).1
        exact .inl ⟨[], ds, rfl⟩
    · rcases ih found with here | there | ⟨last, first⟩
      · exact .inl (here.trans (List.suffix_cons c cs).isInfix)
      · exact .inr (.inl there)
      · have some : cs ≠ [] := by rintro rfl; cases last
        exact .inr (.inr ⟨by rw [List.getLast?_cons_of_ne_nil some, last], first⟩)

theorem Flat.append {a b : Text} (flat : Flat a) (flat' : Flat b)
    (apart : (∀ c, a.getLast? = some c → c ∉ openers) ∨ b.head? ≠ some '-' ∧ b.head? ≠ some '*') :
    Flat (a ++ b) where
  single member := (List.mem_append.1 member).elim flat.single flat'.single
  double member := (List.mem_append.1 member).elim flat.double flat'.double
  backquote member := (List.mem_append.1 member).elim flat.backquote flat'.backquote
  dashes found := by
    rcases pair_of_append found with found | found | ⟨last, first⟩
    · exact flat.dashes found
    · exact flat'.dashes found
    · exact apart.elim (fun calm => calm _ last (by decide)) fun calm => calm.1 first
  slash found := by
    rcases pair_of_append found with found | found | ⟨last, first⟩
    · exact flat.slash found
    · exact flat'.slash found
    · exact apart.elim (fun calm => calm _ last (by decide)) fun calm => calm.2 first

theorem flat_of_no_opener {t : Text} (calm : ∀ c ∈ t, c ∉ openers) : Flat t where
  single member := calm _ member (by decide)
  double member := calm _ member (by decide)
  backquote member := calm _ member (by decide)
  dashes found := calm '-' (found.mem List.mem_cons_self) (by decide)
  slash found := calm '/' (found.mem List.mem_cons_self) (by decide)

theorem Spells.mem {p : Phrase} {t : Text} (spelled : Spells p t) (formed : p.WellFormed) {c : Char}
    (member : c ∈ t) : isBlank c = true ∨ isWordChar c = true := by
  induction spelled with
  | last => exact .inr (formed.word c member)
  | @more ws word gap rest full blank tail ih =>
    rcases List.mem_append.1 member with member | member
    · exact .inr (formed.word c member)
    · rcases List.mem_append.1 member with member | member
      · exact .inl (blank c member)
      · exact ih (formed.tail tail.ne_nil) member

variable {phrases : List Phrase} {before after t : Text}

/-- A token of a flat text has a semicolon in it only if it is one. -/
theorem Rule.Takes.count_semicolon (table : Phrase.Table phrases) {rule : Rule} {token : Token}
    (taken : rule.Takes phrases before token after) (flat : Flat token.text) :
    token.text.count ';' = if token.isSemicolon then 1 else 0 := by
  have without {kind : TokenKind} {text : Text} (other : kind ≠ .punctuation) (bare : ';' ∉ text) :
      text.count ';' = if (⟨kind, text⟩ : Token).isSemicolon then 1 else 0 := by
    rw [Token.not_isSemicolon_of_kind other, List.count_eq_zero_of_not_mem bare]
    rfl
  have word {text : Text} (inside : ∀ c ∈ text, isWordChar c = true) : ';' ∉ text :=
    fun member => absurd (inside _ member) (by decide)
  have digits {text : Text} (inside : ∀ c ∈ text, c.isDigit = true) : ';' ∉ text :=
    fun member => absurd (inside _ member) (by decide)
  cases taken with
  | lineComment => exact absurd ⟨[], _, rfl⟩ flat.dashes
  | lineCommentToEnd => exact absurd ⟨[], _, rfl⟩ flat.dashes
  | blockComment => exact absurd ⟨[], _, rfl⟩ flat.slash
  | blockCommentToEnd => exact absurd ⟨[], _, rfl⟩ flat.slash
  | string quoted =>
    rcases quoted with rfl | rfl
    · exact absurd List.mem_cons_self flat.single
    · exact absurd List.mem_cons_self flat.double
  | stringToEnd quoted =>
    rcases quoted with rfl | rfl
    · exact absurd List.mem_cons_self flat.single
    · exact absurd List.mem_cons_self flat.double
  | quotedIdentifier => exact absurd List.mem_cons_self flat.backquote
  | quotedIdentifierToEnd => exact absurd List.mem_cons_self flat.backquote
  | phrase entry spelled =>
    refine without nofun fun member => ?_
    exact absurd (spelled.mem (table.wellFormed _ entry) member) (by decide)
  | wholeNumber full inside => exact without nofun (digits inside)
  | fraction full inside full' inside' =>
    refine without nofun fun member => ?_
    rcases List.mem_append.1 member with member | member
    · exact digits inside member
    · exact digits inside' (List.mem_of_ne_of_mem (by decide) member)
  | @word _ lexeme _ full inside =>
    refine without ?_ (word inside)
    unfold Token.wordKind
    split <;> nofun
  | @single _ _ c =>
    by_cases semicolon : c = ';'
    · subst semicolon
      rfl
    · simp [Token.isSemicolon, semicolon]

namespace Token

theorem count_semicolon_of_reads (table : Phrase.Table phrases) {tokens : List Token}
    (reads : Reads phrases before tokens) (flat : Flat (concat tokens)) :
    ∀ t ∈ tokens, t.text.count ';' = if t.isSemicolon then 1 else 0 := by
  induction tokens generalizing before with
  | nil => nofun
  | cons t ts ih =>
    obtain ⟨⟨rule, taken, -⟩, reads⟩ := reads
    have shape : concat (t :: ts) = t.text ++ concat ts := List.flatMap_cons
    rw [shape] at flat
    intro u member
    rcases List.mem_cons.1 member with rfl | member
    · exact taken.count_semicolon table (flat.part (List.prefix_append ..).isInfix)
    · exact ih reads (flat.part (List.suffix_append ..).isInfix) u member

theorem countP_eq_count {tokens : List Token}
    (counts : ∀ t ∈ tokens, t.text.count ';' = if t.isSemicolon then 1 else 0) :
    tokens.countP isSemicolon = (concat tokens).count ';' := by
  induction tokens with
  | nil => rfl
  | cons t ts ih =>
    have tail := ih fun u member => counts u (List.mem_cons_of_mem t member)
    rw [concat, List.flatMap_cons, ← concat, List.countP_cons, List.count_append, tail,
      counts t List.mem_cons_self, Nat.add_comm]

theorem count_semicolon_split (flat : Flat t) :
    ∀ u ∈ split t, u.text.count ';' = if u.isSemicolon then 1 else 0 :=
  count_semicolon_of_reads Phrase.table_all (split_eq_iff.1 rfl).2 ((concat_split t).symm ▸ flat)

/-- Every semicolon of a flat text is a token. -/
theorem countP_scan (flat : Flat t) : (scan t).countP isSemicolon = t.count ';' := by
  rw [scan, countP_merge, countP_eq_count (count_semicolon_split flat), concat_split]

end Token

theorem isComplete_of_flat (flat : Flat (t ++ [';'])) : isComplete (t ++ [';']) = true := by
  have counts := Token.count_semicolon_split flat
  have full := Reads.ne_nil Phrase.table_all (Token.split_eq_iff (t := t ++ [';']).1 rfl).2
  have whole := Token.concat_split (t ++ [';'])
  rw [isComplete_eq]
  rcases List.eq_nil_or_concat (Token.split (t ++ [';'])) with none | ⟨front, last, shape⟩
  · rw [none] at whole
    exact absurd whole.symm (by simp [Token.concat])
  · rw [List.concat_eq_append] at shape
    rw [shape] at counts full whole ⊢
    rw [Token.concat_append] at whole
    have member : last ∈ front ++ [last] := List.mem_concat_self
    have ending : last.text.getLast? = some ';' := by
      have := congrArg List.getLast? whole
      simpa [Token.concat, List.getLast?_append, List.getLast?_eq_some_getLast (full last member)]
        using this
    have count := counts last member
    cases here : last.isSemicolon with
    | true =>
      rw [eq_semicolon here]
      exact (endsInSemicolon_iff _).2 ⟨front, [], rfl, List.forall_mem_nil _⟩
    | false =>
      rw [here] at count
      exact absurd (List.mem_of_getLast? ending) (List.count_eq_zero.1 count)

/-- Scanned, the text has one semicolon, and it is the last token that counts. -/
def SingleStatement (t : Text) : Prop :=
  (Token.scan t).countP Token.isSemicolon = 1 ∧ isComplete t = true

theorem singleStatement_iff (flat : Flat (t ++ [';'])) :
    SingleStatement (t ++ [';']) ↔ ';' ∉ t := by
  rw [SingleStatement, Token.countP_scan flat, isComplete_of_flat flat, List.count_append,
    List.count_singleton_self, Nat.add_eq_right, List.count_eq_zero]
  exact and_iff_left rfl

end QueryDesk.Sql
