import QueryDesk.Proofs.Layout.Between

/-!
# Clause breaks change blanks only

The layout with clause breaks is the trimmed text with other blanks between its tokens, and its
tokens are those of the text again (`clauseBreaks_respaced`). Blanks come where there were none only
after a semicolon and before a reserved word that nothing runs into, and none are left only after a
comment that ends its line itself (`link_between`).
-/

set_option autoImplicit false

namespace QueryDesk.Sql.Layout

open Text

variable {phrases : List Phrase} {before after : Text} {t prev : Token}

/-- What starts a clause starts with a letter. -/
theorem startsClause_letter (table : Phrase.Table phrases) (obeys : Obeys phrases before t after)
    (clause : startsClause t.kind t.text = true) :
    ∃ c cs, t.text = c :: cs ∧ c.isAlpha = true := by
  have reserved : t.kind = .keyword ∨ t.kind = .keywordPhrase := by
    simp only [startsClause, Bool.and_eq_true, Bool.or_eq_true, beq_iff_eq] at clause
    exact clause.1
  obtain ⟨rule, taken, -⟩ := obeys
  cases taken with
  | phrase member spelled => exact spelled.head (table.wellFormed _ member)
  | @word _ lexeme _ full inside =>
    have spelled : isReserved (upper lexeme) = true := by
      change Token.wordKind lexeme = .keyword ∨ Token.wordKind lexeme = .keywordPhrase at reserved
      unfold Token.wordKind at reserved
      split at reserved
      · assumption
      · rcases reserved with same | same <;> cases same
    obtain ⟨c, cs, rfl⟩ := List.exists_cons_of_ne_nil full
    exact ⟨c, cs, rfl, letters_of_isReserved spelled c (List.mem_cons_self ..)⟩
  | @single _ _ c =>
    rcases reserved with same | same <;> (dsimp only at same; split at same <;> cases same)
  | _ => rcases reserved with same | same <;> cases same

theorem lineEnd_blank {gap : Text} (blank : ∀ c ∈ gap, isBlank c = true) (sofar : Text) :
    ∀ c ∈ lineEnd sofar gap, isBlank c = true := by
  have kept : ∀ c ∈ (gap.reverse.dropWhile isTrailing).reverse, isBlank c = true := by
    intro c member
    rw [List.mem_reverse] at member
    exact blank c (List.mem_reverse.1 ((List.dropWhile_sublist isTrailing).mem member))
  intro c member
  simp only [lineEnd] at member
  split at member
  · exact kept c member
  · rcases List.mem_append.1 member with member | member
    · exact kept c member
    · rw [List.mem_singleton] at member
      subst member
      decide

/-- What the layout puts between tokens is blank. -/
theorem between_blank {gap : Text} (blank : ∀ c ∈ gap, isBlank c = true) (sofar : Text)
    (next : Token) : ∀ c ∈ between sofar prev gap next, isBlank c = true := by
  have lines : ∀ c ∈ ['\n', '\n'], isBlank c = true := by simp; decide
  rw [between]
  split
  · exact lines
  · split
    · exact lineEnd_blank blank sofar
    · exact blank

/-- A line that is ended has no blanks after it only where the last token ends it itself. -/
theorem lineEnd_eq_nil {sofar gap : Text} (none : lineEnd sofar gap = []) :
    sofar.getLast? = some '\n' := by
  simp only [lineEnd] at none
  split at none
  · rename_i line
    rwa [none, List.append_nil] at line
  · exact absurd none (by simp)

theorem isSemicolon_text (semicolon : prev.isSemicolon = true) : prev.text = [';'] := by
  simp only [Token.isSemicolon, Bool.and_eq_true, beq_iff_eq] at semicolon
  exact semicolon.2

/-- A token that a word follows at once does not end in a word. -/
theorem closed_before_letter (table : Phrase.Table phrases) {c : Char}
    (obeys : Obeys phrases before prev (c :: after)) (letter : c.isAlpha = true) :
    endsWithWord prev.text = false := by
  cases ends : endsWithWord prev.text with
  | false => rfl
  | true =>
    have stops : isWordChar c = false := obeys.apart table ends
    rw [isWordChar_of_isAlpha letter] at stops
    cases stops

theorem link_lineEnd (table : Phrase.Table phrases) {front gap rest : Text} {next : Token}
    {c : Char} {cs : Text} (shape : next.text = c :: cs) (letter : c.isAlpha = true)
    (obeys : Obeys phrases before prev (gap ++ (next.text ++ rest))) :
    Link prev gap (lineEnd (front ++ prev.text) gap) next := by
  by_cases none : gap = []
  · by_cases none' : lineEnd (front ++ prev.text) gap = []
    · exact .kept ⟨fun _ => none', fun _ => none⟩
    · refine .opened none none' ?_ fun _ => ?_
      · rw [none, List.nil_append, shape, List.cons_append] at obeys
        exact closed_before_letter table obeys letter
      · rw [shape]
        cases digit : c.isDigit with
        | false => exact digit
        | true =>
          rw [not_isAlpha_of_isDigit digit] at letter
          cases letter
  · by_cases none' : lineEnd (front ++ prev.text) gap = []
    · have line := lineEnd_eq_nil none'
      have last := List.getLast?_eq_some_getLast (obeys.ne_nil table)
      rw [List.getLast?_append, last] at line
      exact .dropped none none' (last.trans line)
    · exact .kept ⟨fun gone => absurd gone none, fun gone => absurd gone none'⟩

/-- Where the layout puts blanks or leaves none, no token is read in another way. -/
theorem link_between (table : Phrase.Table phrases) {front gap rest : Text} {next : Token}
    (obeys : Obeys phrases [] prev (gap ++ (next.text ++ rest)))
    (obeys' : Obeys phrases [] next rest) :
    Link prev gap (between (front ++ prev.text) prev gap next) next := by
  rw [between]
  split
  · rename_i semicolon
    have text := isSemicolon_text semicolon
    by_cases none : gap = []
    · refine .opened none (by simp) (text ▸ by decide) fun point => ?_
      rw [text] at point
      cases point
    · exact .kept (by simp [none])
  · split
    · rename_i clause
      obtain ⟨c, cs, shape, letter⟩ := startsClause_letter table obeys' clause
      exact link_lineEnd table shape letter obeys
    · exact .kept Iff.rfl

theorem respaced_respace (table : Phrase.Table phrases) (front : Text) {ss : List Spaced}
    (solids : Spaced.Solid ss) (stands : Stands phrases (prev :: Spaced.tokens ss)) :
    Respaced prev ss (respace (front ++ prev.text) prev ss) := by
  induction ss generalizing front prev with
  | nil => exact .nil
  | cons s ss ih =>
    obtain ⟨gap, t⟩ := s
    obtain ⟨blank, -⟩ := solids _ (List.mem_cons_self ..)
    obtain ⟨obeys, rest⟩ := stands
    rw [Spaced.concat_tokens, Spaced.text_cons] at obeys
    rw [Spaced.tokens_cons, stands_gapTokens table blank] at rest
    have here := rest.1
    rw [Spaced.concat_tokens] at here
    have tail := ih (front ++ prev.text ++ between (front ++ prev.text) prev gap t)
      (fun s member => solids s (List.mem_cons_of_mem _ member)) rest
    exact .cons (between_blank blank _ t) (link_between table obeys here) tail

theorem map_token_respace (sofar : Text) (prev : Token) (ss : List Spaced) :
    (respace sofar prev ss).map Spaced.token = ss.map Spaced.token := by
  induction ss generalizing sofar prev with
  | nil => rfl
  | cons s ss ih => exact congrArg (s.token :: ·) (ih _ s.token)

/-- All tokens with the blanks that the layout puts between them. -/
def relaid : List Spaced → List Spaced
  | [] => []
  | s :: ss => s :: respace (s.gap ++ s.token.text) s.token ss

/-- The tokens of a trimmed text are those that are no gap with the blanks between them. -/
theorem tokens_of_trim (sql : Text) :
    Spaced.tokens (Spaced.of [] (Token.split (trim sql))) = Token.split (trim sql) := by
  refine Spaced.tokens_of (fun _ => rfl) fun t ends => ?_
  cases gap : t.isGap with
  | false => rfl
  | true =>
    obtain ⟨c, blank, rfl⟩ := Token.isGap_iff.1 gap
    obtain ⟨ts, shape⟩ := List.getLast?_eq_some_iff.1 ends
    have whole : Token.concat ts ++ [c] = trim sql := by
      rw [← Token.concat_split (trim sql), shape, Token.concat_append]
      rfl
    have last := (trim_stops sql).2
    rw [← whole, List.getLast?_concat] at last
    exact absurd blank (by simpa using last)

/-- A trimmed text begins with its first token that is no gap. -/
theorem gap_of_trim {sql : Text} {s : Spaced} {ss : List Spaced}
    (spaced : Spaced.of [] (Token.split (trim sql)) = s :: ss) : s.gap = [] := by
  have first := (trim_stops sql).1
  have blank := (Spaced.solid_of (by simp) _ s (spaced ▸ List.mem_cons_self ..)).1
  rw [← Token.concat_split (trim sql), ← tokens_of_trim, spaced, Spaced.concat_tokens,
    Spaced.text_cons] at first
  cases gap : s.gap with
  | nil => rfl
  | cons c cs =>
    rw [gap] at first blank
    exact absurd (blank c (List.mem_cons_self ..)) (by simpa using first)

section Relaid

variable {sql : Text} {s : Spaced} {ss : List Spaced}

theorem solid_of_trim (sql : Text) : Spaced.Solid (Spaced.of [] (Token.split (trim sql))) :=
  Spaced.solid_of (by simp) _

theorem stands_of_trim (spaced : Spaced.of [] (Token.split (trim sql)) = s :: ss) :
    Stands Phrase.all (s.token :: Spaced.tokens ss) := by
  have split := tokens_of_trim sql
  rw [spaced, Spaced.tokens_cons, gap_of_trim spaced] at split
  have stands := (Token.split_eq_iff_stands.1 (rfl : Token.split (trim sql) = _)).2
  rw [← split] at stands
  exact stands

theorem breakClauses_eq (spaced : Spaced.of [] (Token.split (trim sql)) = s :: ss) :
    breakClauses (trim sql) = Spaced.text (relaid (s :: ss)) := by
  have split := tokens_of_trim sql
  have solids := solid_of_trim sql
  have gap := gap_of_trim spaced
  rw [spaced, Spaced.tokens_cons, gap] at split
  rw [spaced] at solids
  have rest := foldl_tokens Phrase.table_all [] (solids s (List.mem_cons_self ..)).2
    (fun u member => solids u (List.mem_cons_of_mem s member)) (stands_of_trim spaced)
  have first : Draft.write ⟨[], false⟩ s.token =
      ⟨([] ++ s.token.text).reverse, s.token.isSemicolon⟩ := by
    rw [write_onwards]
    simp [breakLine]
  have written : (gapTokens [] ++ s.token :: Spaced.tokens ss).foldl Draft.write ⟨[], false⟩ =
      (Spaced.tokens ss).foldl Draft.write (Draft.write ⟨[], false⟩ s.token) := rfl
  rw [breakClauses, Token.scan, foldl_merge, ← split, written, first, rest, List.reverse_reverse,
    relaid, Spaced.text_cons, gap]
  simp

/-- What is laid out anew is read as the tokens that were laid out. -/
theorem split_relaid (spaced : Spaced.of [] (Token.split (trim sql)) = s :: ss) :
    Token.split (Spaced.text (relaid (s :: ss))) = Spaced.tokens (relaid (s :: ss)) := by
  have solids := solid_of_trim sql
  rw [spaced] at solids
  have tail : Spaced.Solid ss := fun u member => solids u (List.mem_cons_of_mem s member)
  have stands := stands_of_trim spaced
  have respaced := respaced_respace Phrase.table_all [] tail stands
  have again := (stands_of_respaced Phrase.table_all respaced
    (solids s (List.mem_cons_self ..)).2 tail stands).1
  rw [Token.split_eq_iff_stands, Spaced.concat_tokens, relaid, Spaced.tokens_cons,
    gap_of_trim spaced]
  exact ⟨rfl, again⟩

theorem solid_relaid (spaced : Spaced.of [] (Token.split (trim sql)) = s :: ss) :
    Spaced.Solid (relaid (s :: ss)) := by
  have solids := solid_of_trim sql
  rw [spaced] at solids
  have tail : Spaced.Solid ss := fun u member => solids u (List.mem_cons_of_mem s member)
  have respaced := respaced_respace Phrase.table_all s.gap tail (stands_of_trim spaced)
  intro u member
  rcases List.mem_cons.1 member with rfl | member
  · exact solids u (List.mem_cons_self ..)
  · exact respaced.solid tail u member

end Relaid

/-- The layout with clause breaks is the trimmed text with the blanks of `relaid` between its
tokens, and it is read again as the same tokens. -/
theorem clauseBreaks_respaced (sql : Text) :
    let spaced := Spaced.of [] (Token.split (trim sql))
    let output := Sql.layOut .clauseBreaks sql
    (Spaced.text spaced = trim sql ∧
      (∀ s ∈ spaced, ∀ c ∈ s.gap, isBlank c = true) ∧
      (∀ s, spaced.head? = some s → s.gap = []) ∧
      spaced.map Spaced.token = (Token.split (trim sql)).filter fun t => !t.isGap) ∧
    (output = Spaced.text (relaid spaced) ∧
      (relaid spaced).map Spaced.token = spaced.map Spaced.token) ∧
    (Token.split output).filter (fun t => !t.isGap) =
      (Token.split (trim sql)).filter fun t => !t.isGap := by
  intro spaced output
  have solids : Spaced.Solid spaced := solid_of_trim sql
  have split : Spaced.tokens spaced = Token.split (trim sql) := tokens_of_trim sql
  have kept : (Token.split (trim sql)).filter (fun t => !t.isGap) = spaced.map Spaced.token := by
    rw [← split, Spaced.filter_tokens solids]
  have whole : Spaced.text spaced = trim sql := by
    rw [← Spaced.concat_tokens, split, Token.concat_split]
  have laid : output = Spaced.text (relaid spaced) ∧
      Token.split output = Spaced.tokens (relaid spaced) ∧ Spaced.Solid (relaid spaced) ∧
      (relaid spaced).map Spaced.token = spaced.map Spaced.token ∧
      ∀ s, spaced.head? = some s → s.gap = [] := by
    change breakClauses (trim sql) = _ ∧ Token.split (breakClauses (trim sql)) = _ ∧ _
    cases shape : spaced with
    | nil =>
      rw [shape] at whole
      have unread : Token.split [] = [] := Token.splitAfter_nil Phrase.all false
      have unwritten : breakClauses [] = [] := by
        rw [breakClauses, Token.scan, foldl_merge, unread]
        rfl
      rw [← whole]
      change breakClauses [] = [] ∧ Token.split (breakClauses []) = [] ∧ Spaced.Solid [] ∧ _
      rw [unwritten, unread]
      exact ⟨rfl, rfl, by simp [Spaced.Solid], rfl, by simp⟩
    | cons s ss =>
      rw [breakClauses_eq shape]
      refine ⟨rfl, split_relaid shape, solid_relaid shape, ?_, ?_⟩
      · exact congrArg (s.token :: ·) (map_token_respace _ s.token ss)
      · rintro u same
        cases same
        exact gap_of_trim shape
  obtain ⟨written, read, solids', same, first⟩ := laid
  refine ⟨⟨whole, fun s member => (solids s member).1, first, kept.symm⟩, ⟨written, same⟩, ?_⟩
  rw [read, Spaced.filter_tokens solids', same, kept]

end QueryDesk.Sql.Layout
