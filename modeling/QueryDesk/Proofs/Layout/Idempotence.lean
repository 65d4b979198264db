import QueryDesk.Proofs.Layout.ClauseBreaks
import QueryDesk.Proofs.Text.Cutting
import QueryDesk.Proofs.Tokens.Completeness

/-!
# Clause breaks are laid out once

A text that is laid out with clause breaks has its lines where the layout wants them
(`LaidOut`): what `between` puts between two tokens it leaves there (`between_between`). So the
second layout changes nothing (`clauseBreaks_idempotent`). It reads the same tokens, and every gap
it comes to is one that the first layout has written.
-/

set_option autoImplicit false

namespace QueryDesk.Sql

open Text

namespace Spaced

/-- Tokens with the blanks between them are read again as what they are. -/
theorem of_gapTokens {gap gap' : Text} (blank : AllBlank gap') (ts : List Token) :
    of gap (gapTokens gap' ++ ts) = of (gap ++ gap') ts := by
  induction gap' generalizing gap with
  | nil => simp [gapTokens]
  | cons c cs ih =>
    have here : (⟨.plain, [c]⟩ : Token).isGap = true :=
      Token.isGap_iff.2 ⟨c, blank c List.mem_cons_self, rfl⟩
    have tail := @ih (gap ++ [c]) fun d member => blank d (List.mem_cons_of_mem c member)
    rw [gapTokens, List.map_cons, List.cons_append, of, if_pos here, ← gapTokens, tail,
      List.append_assoc]
    rfl

theorem of_tokens {spaced : List Spaced} (solid : Solid spaced) : of [] (tokens spaced) = spaced := by
  induction spaced with
  | nil => rfl
  | cons s ss ih =>
    obtain ⟨blank, seen⟩ := solid s List.mem_cons_self
    have tail := ih fun u member => solid u (List.mem_cons_of_mem s member)
    rw [tokens_cons, of_gapTokens blank, List.nil_append, of, if_neg (by simp [seen]), tail]

/-- A token that is no gap comes with the blanks before it. -/
theorem tokens_eq_append_cons {spaced : List Spaced} {front back : List Token} {t : Token}
    (solid : Solid spaced) (seen : t.isGap = false) (shape : tokens spaced = front ++ t :: back) :
    ∃ before gap after, spaced = before ++ ⟨gap, t⟩ :: after ∧
      Token.concat front = text before ++ gap ∧ back = tokens after := by
  induction spaced generalizing front with
  | nil => simp [tokens] at shape
  | cons s ss ih =>
    obtain ⟨blank, -⟩ := solid s List.mem_cons_self
    rw [tokens_cons] at shape
    rcases List.append_eq_append_iff.1 shape with ⟨more, rfl, rest⟩ | ⟨more, gaps, rest⟩
    · cases more with
      | nil =>
        obtain ⟨rfl, rfl⟩ := List.cons.inj rest
        exact ⟨[], s.gap, ss, rfl, by rw [List.append_nil, concat_gapTokens]; rfl, rfl⟩
      | cons u more =>
        obtain ⟨rfl, behind⟩ := List.cons.inj rest
        obtain ⟨before, gap, after, rfl, front, rfl⟩ :=
          ih (fun v member => solid v (List.mem_cons_of_mem s member)) behind
        refine ⟨s :: before, gap, after, rfl, ?_, rfl⟩
        rw [Token.concat_append, concat_gapTokens, text_cons, List.append_assoc, List.append_assoc,
          ← front]
        rfl
    · cases more with
      | nil =>
        obtain ⟨rfl, rfl⟩ := List.cons.inj rest
        rw [List.append_nil] at gaps
        exact ⟨[], s.gap, ss, rfl, by rw [← gaps, concat_gapTokens]; rfl, rfl⟩
      | cons u more =>
        -- The token would be one of the blanks.
        obtain ⟨rfl, -⟩ := List.cons.inj rest
        have member : t ∈ gapTokens s.gap := gaps ▸ List.mem_append_right front List.mem_cons_self
        obtain ⟨c, inside, rfl⟩ := List.mem_map.1 member
        rw [Token.isGap_iff.2 ⟨c, blank c inside, rfl⟩] at seen
        cases seen

theorem getLast?_text {front : List Spaced} {s : Spaced} (full : s.token.text ≠ []) :
    (text (front ++ [s])).getLast? = s.token.text.getLast? := by
  have whole : text (front ++ [s]) = text front ++ s.gap ++ s.token.text := by simp [text]
  rw [whole, List.getLast?_append, List.getLast?_eq_some_getLast full]
  rfl

/-- Every token can be seen. -/
theorem visible {spaced : List Spaced} (solid : Solid spaced)
    (stands : Stands Phrase.all (tokens spaced)) {s : Spaced} (member : s ∈ spaced) :
    ∃ c cs, s.token.text = c :: cs ∧ isBlank c = false := by
  have inside : s.token ∈ tokens spaced :=
    List.mem_flatMap.2 ⟨s, member, List.mem_append_right _ List.mem_cons_self⟩
  obtain ⟨front, back, shape⟩ := List.append_of_mem inside
  rw [shape] at stands
  have obeys := stands.rest.1
  obtain ⟨c, cs, text⟩ := List.exists_cons_of_ne_nil (obeys.ne_nil Phrase.table_all)
  exact ⟨c, cs, text, obeys.visible Phrase.table_all (solid s member).2 (by rw [text]; rfl)⟩

/-- A text ends as its last token does, whatever the blanks are. -/
theorem getLast?_text_congr {xs ys : List Spaced} (same : xs.map token = ys.map token)
    (full : ∀ s ∈ xs, s.token.text ≠ []) : (text xs).getLast? = (text ys).getLast? := by
  rcases List.eq_nil_or_concat xs with rfl | ⟨front, s, rfl⟩
  · rw [List.map_nil, eq_comm, List.map_eq_nil_iff] at same
    rw [same]
  · rcases List.eq_nil_or_concat ys with rfl | ⟨front', s', rfl⟩
    · simp at same
    · rw [List.concat_eq_append] at same full ⊢
      rw [List.concat_eq_append] at same ⊢
      rw [List.map_append, List.map_append] at same
      have last : s.token = s'.token := by simpa using (List.append_inj' same rfl).2
      have some_text := full s (List.mem_append_right _ List.mem_cons_self)
      rw [getLast?_text some_text, getLast?_text (last ▸ some_text), last]

end Spaced

namespace Layout

/-- No space or tab ends what is left of a gap. -/
theorem dropTrailing_dropTrailing (gap : Text) :
    ((gap.reverse.dropWhile isTrailing).reverse.reverse.dropWhile isTrailing).reverse =
      (gap.reverse.dropWhile isTrailing).reverse := by
  have none_inside : ∀ c ∈ ([] : Text), isTrailing c = true := nofun
  have again := dropWhile_run none_inside (stops_dropWhile isTrailing gap.reverse)
  rw [List.nil_append] at again
  rw [List.reverse_reverse, again]

/-- A line that is ended ends in a line feed. -/
theorem getLast?_lineEnd (sofar gap : Text) :
    (sofar ++ lineEnd sofar gap).getLast? = some '\n' := by
  simp only [lineEnd]
  split
  · assumption
  · rw [← List.append_assoc]
    exact List.getLast?_concat

theorem lineEnd_lineEnd (sofar gap : Text) :
    lineEnd sofar (lineEnd sofar gap) = lineEnd sofar gap := by
  have feed := getLast?_lineEnd sofar gap
  have kept : ((lineEnd sofar gap).reverse.dropWhile isTrailing).reverse = lineEnd sofar gap := by
    simp only [lineEnd]
    split
    · exact dropTrailing_dropTrailing gap
    · rw [List.reverse_append]
      simp [isTrailing]
  generalize lineEnd sofar gap = ended at feed kept
  rw [lineEnd, kept]
  exact if_pos feed

theorem between_between (sofar : Text) (prev : Token) (gap : Text) (next : Token) :
    between sofar prev (between sofar prev gap next) next = between sofar prev gap next := by
  unfold between
  split
  · rfl
  · split
    · exact lineEnd_lineEnd sofar gap
    · rfl

theorem respace_respace (sofar : Text) (prev : Token) (ss : List Spaced) :
    respace sofar prev (respace sofar prev ss) = respace sofar prev ss := by
  induction ss generalizing sofar prev with
  | nil => rfl
  | cons s ss ih =>
    obtain ⟨gap, t⟩ := s
    rw [respace, respace, between_between, ih]

/-- Where a token stands in a layout: after the blanks that `between` has put there, and before
others. -/
theorem respace_eq_append_cons {sofar gap : Text} {prev t : Token} {ss before after : List Spaced}
    (shape : respace sofar prev ss = before ++ ⟨gap, t⟩ :: after) :
    (∃ prev' gap', gap = between (sofar ++ Spaced.text before) prev' gap' t) ∧
      ∃ sofar' rest, after = respace sofar' t rest := by
  induction ss generalizing sofar prev before with
  | nil => simp [respace] at shape
  | cons s ss ih =>
    obtain ⟨gap', u⟩ := s
    rw [respace] at shape
    cases before with
    | nil =>
      obtain ⟨same, rfl⟩ := List.cons.inj shape
      cases same
      refine ⟨⟨prev, gap', ?_⟩, _, ss, rfl⟩
      rw [Spaced.text, List.flatMap_nil, List.append_nil]
    | cons v before =>
      obtain ⟨rfl, rest⟩ := List.cons.inj shape
      obtain ⟨⟨prev', gap'', here⟩, later⟩ := ih rest
      refine ⟨⟨prev', gap'', ?_⟩, later⟩
      rw [Spaced.text_cons, here]
      simp only [List.append_assoc]

theorem getLast?_between {sofar gap : Text} {prev t : Token}
    (clause : startsClause t.kind t.text = true) :
    (sofar ++ between sofar prev gap t).getLast? = some '\n' := by
  rw [between, if_pos clause]
  split
  · rw [List.getLast?_append]
    rfl
  · exact getLast?_lineEnd sofar gap

theorem relaid_relaid (spaced : List Spaced) : relaid (relaid spaced) = relaid spaced := by
  cases spaced with
  | nil => rfl
  | cons s ss => exact congrArg (s :: ·) (respace_respace _ s.token ss)

/-- No blanks at the ends, a line feed right before each word or phrase that starts a clause, and
an empty line between each semicolon and the next token. -/
structure LaidOut (t : Text) : Prop where
  trimmed : Trimmed t
  clauses : ∀ front u back, Token.split t = front ++ u :: back → front ≠ [] →
    startsClause u.kind u.text = true → (Token.concat front).getLast? = some '\n'
  semicolons : ∀ front u back, Token.split t = front ++ u :: back → u.isSemicolon = true →
    back = [] ∨ ∃ c rest, Token.concat back = '\n' :: '\n' :: c :: rest ∧ isBlank c = false

section Relaid

variable {sql : Text} {s : Spaced} {ss : List Spaced}

theorem text_of_trim (spaced : Spaced.of [] (Token.split (trim sql)) = s :: ss) :
    Spaced.text (s :: ss) = trim sql := by
  rw [← spaced, ← Spaced.concat_tokens, tokens_of_trim, Token.concat_split]

theorem stands_relaid (spaced : Spaced.of [] (Token.split (trim sql)) = s :: ss) :
    Stands Phrase.all (Spaced.tokens (relaid (s :: ss))) := by
  rw [← split_relaid spaced]
  exact stands_split _

theorem map_token_relaid (spaced : List Spaced) :
    (relaid spaced).map Spaced.token = spaced.map Spaced.token := by
  cases spaced with
  | nil => rfl
  | cons s ss => exact congrArg (s.token :: ·) (map_token_respace _ s.token ss)

theorem trimmed_relaid (spaced : Spaced.of [] (Token.split (trim sql)) = s :: ss) :
    Trimmed (Spaced.text (relaid (s :: ss))) := by
  have visible {u : Spaced} (member : u ∈ relaid (s :: ss)) :=
    Spaced.visible (solid_relaid spaced) (stands_relaid spaced) member
  constructor
  · obtain ⟨c, cs, text, seen⟩ := visible List.mem_cons_self
    rw [relaid, Spaced.text_cons, gap_of_trim spaced, text]
    exact seen
  · have back := (trimmed_trim sql).back
    rw [← text_of_trim spaced] at back
    rwa [Spaced.getLast?_text_congr (map_token_relaid (s :: ss)) fun u member => ?_]
    obtain ⟨c, cs, text, -⟩ := visible member
    rw [text]
    exact List.cons_ne_nil c cs

theorem clauses_relaid (spaced : Spaced.of [] (Token.split (trim sql)) = s :: ss)
    {front back : List Token} {u : Token}
    (shape : Spaced.tokens (relaid (s :: ss)) = front ++ u :: back) (more : front ≠ [])
    (clause : startsClause u.kind u.text = true) : (Token.concat front).getLast? = some '\n' := by
  have seen : u.isGap = false := by
    cases isGap : u.isGap with
    | false => rfl
    | true =>
      obtain ⟨d, -, rfl⟩ := Token.isGap_iff.1 isGap
      cases clause
  obtain ⟨before, gap, after, laid, written, -⟩ :=
    Spaced.tokens_eq_append_cons (solid_relaid spaced) seen shape
  cases before with
  | nil =>
    -- Only the first token of all has nothing before it.
    obtain ⟨same, -⟩ := List.cons.inj laid
    have none := gap_of_trim spaced
    rw [same] at none
    dsimp only at none
    obtain ⟨t, ts, rfl⟩ := List.exists_cons_of_ne_nil more
    have standing := stands_relaid spaced
    rw [shape] at standing
    rw [none] at written
    exact absurd (List.append_eq_nil_iff.1 written).1 (standing.1.ne_nil Phrase.table_all)
  | cons v before =>
    obtain ⟨rfl, rest⟩ := List.cons.inj laid
    obtain ⟨⟨prev, gap', rfl⟩, -⟩ := respace_eq_append_cons rest
    rw [written, Spaced.text_cons, ← List.append_assoc s.gap]
    exact getLast?_between clause

theorem semicolons_relaid (spaced : Spaced.of [] (Token.split (trim sql)) = s :: ss)
    {front back : List Token} {u : Token}
    (shape : Spaced.tokens (relaid (s :: ss)) = front ++ u :: back)
    (semicolon : u.isSemicolon = true) :
    back = [] ∨ ∃ c rest, Token.concat back = '\n' :: '\n' :: c :: rest ∧ isBlank c = false := by
  have seen : u.isGap = false := by
    rw [eq_semicolon semicolon]
    decide
  obtain ⟨before, gap, after, laid, -, rfl⟩ :=
    Spaced.tokens_eq_append_cons (solid_relaid spaced) seen shape
  obtain ⟨sofar, more, later⟩ : ∃ sofar more, after = respace sofar u more := by
    cases before with
    | nil =>
      obtain ⟨rfl, rest⟩ := List.cons.inj laid
      exact ⟨_, ss, rest.symm⟩
    | cons v before => exact (respace_eq_append_cons (List.cons.inj laid).2).2
  subst later
  cases more with
  | nil => exact .inl rfl
  | cons v more =>
    obtain ⟨gap', t⟩ := v
    rw [respace, between, if_pos semicolon] at laid ⊢
    obtain ⟨c, cs, text, visible⟩ :=
      Spaced.visible (solid_relaid spaced) (stands_relaid spaced) (s := ⟨['\n', '\n'], t⟩)
        (by simp [laid])
    rw [Spaced.concat_tokens, Spaced.text_cons, text]
    exact .inr ⟨c, _, rfl, visible⟩

end Relaid

theorem breakClauses_nil : breakClauses [] = [] := by
  decide +kernel

theorem laidOut_nil : LaidOut [] := by
  have unread : Token.split [] = [] := Token.splitAfter_nil Phrase.all false
  refine ⟨⟨rfl, rfl⟩, ?_, ?_⟩
  · intro front u back shape
    simp [unread] at shape
  · intro front u back shape
    simp [unread] at shape

/-- A text with clause breaks is laid out, and laying it out again changes nothing. -/
theorem clauseBreaks_idempotent (sql : Text) :
    Sql.layOut .clauseBreaks (Sql.layOut .clauseBreaks sql) = Sql.layOut .clauseBreaks sql ∧
      LaidOut (Sql.layOut .clauseBreaks sql) := by
  change breakClauses (trim (breakClauses (trim sql))) = breakClauses (trim sql) ∧
    LaidOut (breakClauses (trim sql))
  cases spaced : Spaced.of [] (Token.split (trim sql)) with
  | nil =>
    have none : trim sql = [] := by
      rw [← Token.concat_split (trim sql), ← tokens_of_trim, spaced]
      rfl
    rw [none, breakClauses_nil]
    exact ⟨breakClauses_nil, laidOut_nil⟩
  | cons s ss =>
    have trimmed := trimmed_relaid spaced
    have read := split_relaid spaced
    have kept : trim (Spaced.text (relaid (s :: ss))) = Spaced.text (relaid (s :: ss)) :=
      (trim_eq_iff _ _).2 ⟨⟨[], [], by simp [AllBlank], by simp [AllBlank], by simp⟩, trimmed⟩
    have again : Spaced.of [] (Token.split (trim (Spaced.text (relaid (s :: ss))))) =
        relaid (s :: ss) := by
      rw [kept, read, Spaced.of_tokens (solid_relaid spaced)]
    rw [breakClauses_eq spaced]
    refine ⟨?_, trimmed, fun front u back shape => ?_, fun front u back shape => ?_⟩
    · rw [breakClauses_eq again]
      exact congrArg Spaced.text (relaid_relaid (s :: ss))
    · exact clauses_relaid spaced (read ▸ shape)
    · exact semicolons_relaid spaced (read ▸ shape)

end Layout

end QueryDesk.Sql
