import QueryDesk.Proofs.Tokens.Adjacent

/-!
# Tokens and the blanks between them

The tokens of a text as those that are no gap, each with the blanks before it. Other blanks can be
put between them: `Respaced` says where blanks may come and go so that every token is read again
(`stands_of_respaced`).
-/

set_option autoImplicit false

namespace QueryDesk.Sql

open Text

/-- A token with the blanks before it. -/
structure Spaced where
  gap : Text
  token : Token
  deriving DecidableEq, Repr

namespace Spaced

/-- The tokens that are no gap, each with the gaps before it. The first is also after `gap`. -/
def of (gap : Text) : List Token → List Spaced
  | [] => []
  | t :: ts => if t.isGap then of (gap ++ t.text) ts else ⟨gap, t⟩ :: of [] ts

/-- The tokens with their gaps, each blank a token of its own. -/
def tokens (spaced : List Spaced) : List Token :=
  spaced.flatMap fun s => gapTokens s.gap ++ [s.token]

def text (spaced : List Spaced) : Text := spaced.flatMap fun s => s.gap ++ s.token.text

/-- Tokens that are no gap, with nothing but blanks between them. -/
def Solid (spaced : List Spaced) : Prop :=
  ∀ s ∈ spaced, (∀ c ∈ s.gap, isBlank c = true) ∧ s.token.isGap = false

theorem tokens_cons (s : Spaced) (ss : List Spaced) :
    tokens (s :: ss) = gapTokens s.gap ++ s.token :: tokens ss := by
  rw [tokens, List.flatMap_cons, List.append_assoc]
  rfl

theorem text_cons (s : Spaced) (ss : List Spaced) :
    text (s :: ss) = s.gap ++ (s.token.text ++ text ss) := by
  rw [text, List.flatMap_cons, List.append_assoc]
  rfl

theorem concat_gapTokens (gap : Text) : Token.concat (gapTokens gap) = gap := by
  induction gap with
  | nil => rfl
  | cons c cs ih => exact congrArg (c :: ·) ih

theorem concat_tokens (spaced : List Spaced) : Token.concat (tokens spaced) = text spaced := by
  induction spaced with
  | nil => rfl
  | cons s ss ih =>
    rw [tokens_cons, Token.concat_append, concat_gapTokens, text_cons, ← ih]
    rfl

theorem filter_gapTokens {gap : Text} (blank : ∀ c ∈ gap, isBlank c = true) :
    (gapTokens gap).filter (fun t => !t.isGap) = [] :=
  filter_gapTokens_eq_nil (fun t gap => by rw [gap]; rfl) blank

/-- The gaps left out, the tokens are left. -/
theorem filter_tokens {spaced : List Spaced} (solid : Solid spaced) :
    (tokens spaced).filter (fun t => !t.isGap) = spaced.map Spaced.token := by
  induction spaced with
  | nil => rfl
  | cons s ss ih =>
    obtain ⟨blank, seen⟩ := solid s (List.mem_cons_self ..)
    have tail := ih fun u member => solid u (List.mem_cons_of_mem s member)
    rw [tokens_cons, List.filter_append, filter_gapTokens blank, List.nil_append,
      List.filter_cons_of_pos (by simp [seen]), tail, List.map_cons]

theorem solid_of {gap : Text} (blank : ∀ c ∈ gap, isBlank c = true) (ts : List Token) :
    Solid (of gap ts) := by
  induction ts generalizing gap with
  | nil => intro s member; cases member
  | cons t ts ih =>
    rw [of]
    split
    · rename_i isGap
      obtain ⟨c, here, rfl⟩ := Token.isGap_iff.1 isGap
      refine ih fun d member => ?_
      rcases List.mem_append.1 member with member | member
      · exact blank d member
      · rw [List.mem_singleton] at member
        exact member ▸ here
    · rename_i seen
      intro s member
      rcases List.mem_cons.1 member with rfl | member
      · exact ⟨blank, by simpa using seen⟩
      · exact ih (by simp) s member

/-- Nothing is lost unless gaps are left at the end. -/
theorem tokens_of {gap : Text} {ts : List Token} (some_token : ts = [] → gap = [])
    (last : ∀ t, ts.getLast? = some t → t.isGap = false) :
    tokens (of gap ts) = gapTokens gap ++ ts := by
  induction ts generalizing gap with
  | nil =>
    rw [some_token rfl]
    rfl
  | cons t ts ih =>
    have rest (more : ts ≠ []) : ∀ u, ts.getLast? = some u → u.isGap = false := by
      intro u ends
      refine last u ?_
      obtain ⟨v, vs, rfl⟩ := List.exists_cons_of_ne_nil more
      rw [List.getLast?_cons_cons, ends]
    rw [of]
    split
    · rename_i isGap
      have more : ts ≠ [] := by
        rintro rfl
        rw [last t rfl] at isGap
        cases isGap
      obtain ⟨c, here, rfl⟩ := Token.isGap_iff.1 isGap
      rw [ih (fun none => absurd none more) (rest more), gapTokens, List.map_append,
        List.append_assoc]
      rfl
    · rw [tokens_cons]
      cases ts with
      | nil => rfl
      | cons u us => rw [ih (fun none => rfl) (rest (List.cons_ne_nil u us))]; rfl

end Spaced

/-- Where blanks between two tokens may give way to others: blanks for blanks, some where there were
none after a token that ends in no word, and none after a token that ends its line itself. -/
inductive Link (prev : Token) (gap gap' : Text) (next : Token) : Prop
  | kept : (gap = [] ↔ gap' = []) → Link prev gap gap' next
  | opened : gap = [] → gap' ≠ [] → endsWithWord prev.text = false →
      (prev.text = ['.'] → next.text.head?.any Char.isDigit = false) → Link prev gap gap' next
  | dropped : gap ≠ [] → gap' = [] → prev.text.getLast? = some '\n' → Link prev gap gap' next

/-- The same tokens after `prev`, with other blanks between them. -/
inductive Respaced : Token → List Spaced → List Spaced → Prop
  | nil {prev : Token} : Respaced prev [] []
  | cons {prev t : Token} {gap gap' : Text} {ss ss' : List Spaced} :
      (∀ c ∈ gap', isBlank c = true) → Link prev gap gap' t → Respaced t ss ss' →
      Respaced prev (⟨gap, t⟩ :: ss) (⟨gap', t⟩ :: ss')

variable {phrases : List Phrase} {prev : Token} {ss ss' : List Spaced}

theorem Respaced.solid (respaced : Respaced prev ss ss') (solids : Spaced.Solid ss) :
    Spaced.Solid ss' := by
  induction respaced with
  | nil => exact solids
  | cons blank' link respaced ih =>
    intro s member
    rcases List.mem_cons.1 member with rfl | member
    · exact ⟨blank', (solids _ (List.mem_cons_self ..)).2⟩
    · exact ih (fun u member => solids u (List.mem_cons_of_mem _ member)) s member

theorem stands_gapTokens (table : Phrase.Table phrases) {gap : Text}
    (blank : ∀ c ∈ gap, isBlank c = true) (ts : List Token) :
    Stands phrases (gapTokens gap ++ ts) ↔ Stands phrases ts := by
  induction gap with
  | nil => exact Iff.rfl
  | cons c cs ih =>
    have tail := ih fun d member => blank d (List.mem_cons_of_mem c member)
    rw [← tail]
    exact and_iff_right (obeys_blank table (blank c (List.mem_cons_self ..)))

/-- A token that can be read before a gap and what it stands before can be read before the other
gap, and nothing to the left of it sees the difference. -/
theorem Link.carry (table : Phrase.Table phrases) {next : Token} {gap gap' rest rest' : Text}
    (link : Link prev gap gap' next) (solid : prev.isGap = false)
    (blank : ∀ c ∈ gap, isBlank c = true) (blank' : ∀ c ∈ gap', isBlank c = true)
    (full : next.text ≠ [])
    (visible : ∀ c, next.text.head? = some c → isBlank c = false)
    (same : glance (next.text ++ rest) = glance (next.text ++ rest'))
    (obeys : Obeys phrases [] prev (gap ++ (next.text ++ rest))) :
    Obeys phrases [] prev (gap' ++ (next.text ++ rest')) ∧
      glance (prev.text ++ (gap ++ (next.text ++ rest))) =
        glance (prev.text ++ (gap' ++ (next.text ++ rest'))) := by
  obtain ⟨c, cs, shape⟩ := List.exists_cons_of_ne_nil full
  have stops (behind : Text) : (next.text ++ behind).head?.any isBlank = false := by
    rw [shape] at visible ⊢
    exact visible c rfl
  have more : gap ++ (next.text ++ rest) ≠ [] := by simp [full]
  cases link with
  | kept both =>
    have alike : glance (gap ++ (next.text ++ rest)) = glance (gap' ++ (next.text ++ rest')) := by
      by_cases none : gap = []
      · rw [none, both.1 none]
        exact same
      · rw [glance_gap none blank (stops rest), same,
          glance_gap (fun none' => none (both.2 none')) blank' (stops rest')]
    exact ⟨obeys.alike table alike, glance_congr alike prev.text⟩
  | opened none full' closed bare =>
    obtain ⟨d, look⟩ := obeys.glance_closed table solid closed
    obtain ⟨e, es, shape'⟩ := List.exists_cons_of_ne_nil full'
    have begins := blank' e (shape' ▸ List.mem_cons_self ..)
    refine ⟨obeys.before_any table closed more (.inr fun f first => ?_), ?_⟩
    · rw [shape'] at first
      cases first
      exact begins
    · rw [look _ fun point => ?_, look _ fun point => ?_]
      · rw [shape']
        exact not_isDigit_of_not_isWordChar (not_isWordChar_of_isBlank begins)
      · rw [none, List.nil_append, shape]
        rw [shape] at bare
        exact bare point
  | dropped full' none line =>
    have closed : endsWithWord prev.text = false := by
      rw [endsWithWord, line]
      rfl
    have other : prev.text ≠ ['.'] := by
      intro point
      rw [point] at line
      cases line
    obtain ⟨d, look⟩ := obeys.glance_closed table solid closed
    refine ⟨obeys.before_any table closed more (.inl line), ?_⟩
    rw [look _ fun point => absurd point other, look _ fun point => absurd point other]

/-- Every token is read again where only the blanks between them are others. -/
theorem stands_of_respaced (table : Phrase.Table phrases) (respaced : Respaced prev ss ss')
    (solid : prev.isGap = false) (solids : Spaced.Solid ss)
    (stands : Stands phrases (prev :: Spaced.tokens ss)) :
    Stands phrases (prev :: Spaced.tokens ss') ∧
      glance (prev.text ++ Spaced.text ss) = glance (prev.text ++ Spaced.text ss') := by
  induction respaced with
  | nil => exact ⟨stands, rfl⟩
  | @cons prev t gap gap' ss ss' blank' link respaced ih =>
    obtain ⟨blank, solid'⟩ := solids _ (List.mem_cons_self ..)
    obtain ⟨obeys, rest⟩ := stands
    rw [Spaced.concat_tokens, Spaced.text_cons] at obeys
    rw [Spaced.tokens_cons, stands_gapTokens table blank] at rest
    have here := rest.1
    obtain ⟨rest', same⟩ :=
      ih solid' (fun s member => solids s (List.mem_cons_of_mem _ member)) rest
    obtain ⟨obeys', look⟩ := link.carry table solid blank blank' (here.ne_nil table)
      (fun c first => here.visible table solid' first) same obeys
    refine ⟨⟨?_, ?_⟩, ?_⟩
    · rw [Spaced.concat_tokens, Spaced.text_cons]
      exact obeys'
    · rw [Spaced.tokens_cons, stands_gapTokens table blank']
      exact rest'
    · rw [Spaced.text_cons, Spaced.text_cons]
      exact look

end QueryDesk.Sql
