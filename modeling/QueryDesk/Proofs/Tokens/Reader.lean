import QueryDesk.Proofs.Tokens.Rule

/-!
# The readers follow the rules

For every rule its reader succeeds exactly where the rule takes something, with that token
(`lineComment?_eq_some_iff` and its companions).

* `cut?_eq_some_iff`: the first token of a text is the one that obeys the rules, and no other.
* `splitAfter_eq_iff`: the tokens of a text are the one list that makes up the text and reads it.
-/

set_option autoImplicit false

namespace QueryDesk.Sql

open Text

theorem through_closed {p : Char → Bool} {body after : Text} {c : Char}
    (inside : ∀ x ∈ body, p x = false) (closes : p c = true) :
    through p (body ++ c :: after) = (body ++ [c], after) := by
  induction body with
  | nil => simp [through, closes]
  | cons x xs ih =>
    have head : p x = false := inside x (List.mem_cons_self ..)
    have tail := ih fun y member => inside y (List.mem_cons_of_mem x member)
    simp [through, head, tail, extend]

theorem through_open {p : Char → Bool} {t : Text} (inside : ∀ x ∈ t, p x = false) :
    through p t = (t, []) := by
  induction t with
  | nil => rfl
  | cons x xs ih =>
    have head : p x = false := inside x (List.mem_cons_self ..)
    have tail := ih fun y member => inside y (List.mem_cons_of_mem x member)
    simp [through, head, tail, extend]

/-- A character that ends a text through it occurs, or it does not. -/
theorem first_or_none (d : Char) (t : Text) :
    (∃ body after, t = body ++ d :: after ∧ d ∉ body) ∨ d ∉ t := by
  by_cases member : d ∈ t
  · obtain ⟨body, after, rfl, first⟩ := List.eq_append_cons_of_mem member
    exact .inl ⟨body, after, rfl, first⟩
  · exact .inr member

theorem beq_false_of_not_mem {d : Char} {t : Text} (absent : d ∉ t) :
    ∀ x ∈ t, (x == d) = false := by
  intro x member
  rw [beq_eq_false_iff_ne]
  exact fun same => absent (same ▸ member)

theorem through_char_closed {d : Char} {body after : Text} (absent : d ∉ body) :
    through (· == d) (body ++ d :: after) = (body ++ [d], after) :=
  through_closed (beq_false_of_not_mem absent) (beq_self_eq_true d)

theorem through_char_open {d : Char} {t : Text} (absent : d ∉ t) :
    through (· == d) t = (t, []) :=
  through_open (beq_false_of_not_mem absent)

namespace Token

theorem throughClose_closed {body after : Text} (first : ¬ ['*', '/'] <:+: body ++ ['*']) :
    throughClose (body ++ '*' :: '/' :: after) = (body ++ ['*', '/'], after) := by
  induction body with
  | nil => rfl
  | cons c cs ih =>
    have tail : ¬ ['*', '/'] <:+: cs ++ ['*'] := fun found =>
      first (found.trans (List.suffix_cons c _).isInfix)
    rw [List.cons_append, throughClose, ih tail]
    · rfl
    · intro rest star slash
      cases cs with
      | nil => simp at slash
      | cons d ds =>
        obtain ⟨rfl, -⟩ := List.cons.inj slash
        subst star
        exact first ⟨[], ds ++ ['*'], by simp⟩

theorem throughClose_open {t : Text} (never : ¬ ['*', '/'] <:+: t) :
    throughClose t = (t, []) := by
  fun_induction throughClose t with
  | case1 cs => exact absurd ⟨[], cs, by simp⟩ never
  | case2 c cs _ ih =>
    have tail : ¬ ['*', '/'] <:+: cs := fun found =>
      never (found.trans (List.suffix_cons c _).isInfix)
    rw [ih tail]
    rfl
  | case3 => rfl

theorem throughQuote_closed {quote : Char} {body after : Text} (closes : Closes quote body after) :
    throughQuote quote (body ++ quote :: after) = (body ++ [quote], after) := by
  obtain ⟨inside, alone⟩ := closes
  induction inside with
  | nil =>
    cases after with
    | nil => rfl
    | cons d ds =>
      have other : d ≠ quote := by simpa using alone
      simp [throughQuote, other]
  | @other c body different inside ih =>
    obtain ⟨d, ds, shape⟩ : ∃ d ds, body ++ quote :: after = d :: ds := by
      cases body <;> simp
    rw [shape] at ih
    simp [shape, throughQuote, different, ih, extend]
  | doubled inside ih => simp [throughQuote, ih, extend]

theorem throughQuote_open {quote : Char} {t : Text}
    (never : ∀ inner after, t = inner ++ quote :: after → ¬ Closes quote inner after) :
    throughQuote quote t = (t, []) := by
  fun_induction throughQuote quote t with
  | case1 => rfl
  | case2 c => rfl
  | case3 cs ih =>
    rw [ih]
    · rfl
    · rintro inner after rfl closes
      exact never (quote :: quote :: inner) after rfl ⟨.doubled closes.1, closes.2⟩
  | case4 d cs different =>
    exact absurd ⟨.nil, by simpa using different⟩ (never [] (d :: cs) rfl)
  | case5 c d cs different ih =>
    rw [ih]
    · rfl
    · intro inner after shape closes
      exact never (c :: inner) after (by rw [shape]; rfl) ⟨.other different closes.1, closes.2⟩

theorem close_or_none (t : Text) :
    (∃ body after, t = body ++ '*' :: '/' :: after ∧ ¬ ['*', '/'] <:+: body ++ ['*']) ∨
      ¬ ['*', '/'] <:+: t := by
  fun_induction throughClose t with
  | case1 cs =>
    refine .inl ⟨[], cs, rfl, fun found => ?_⟩
    have := found.length_le
    simp at this
  | case2 c cs apart ih =>
    -- No close begins at `c`, whatever follows it.
    have here {rest : Text} (begins : ['*', '/'] <+: c :: rest) :
        ∃ ds, c = '*' ∧ rest = '/' :: ds := by
      obtain ⟨ds, shape⟩ := begins
      obtain ⟨star, slash⟩ := List.cons.inj shape
      exact ⟨ds, star.symm, slash.symm⟩
    rcases ih with ⟨body, after, rfl, first⟩ | never
    · refine .inl ⟨c :: body, after, rfl, fun found => ?_⟩
      rcases List.infix_cons_iff.1 found with begins | found
      · obtain ⟨ds, star, slash⟩ := here begins
        cases body with
        | nil => simp at slash
        | cons d body =>
          obtain ⟨rfl, -⟩ := List.cons.inj slash
          exact apart _ star rfl
      · exact first found
    · refine .inr fun found => ?_
      rcases List.infix_cons_iff.1 found with begins | found
      · obtain ⟨ds, star, slash⟩ := here begins
        exact apart ds star slash
      · exact never found
  | case3 => exact .inr (by simp)

theorem lineComment?_cons (c : Char) (cs : Text) : lineComment? (c :: cs) =
    if c = '-' ∧ cs.head? = some '-' then
      some (ofParts .comment (extend ['-', '-'] (through (· == '\n') (cs.drop 1))))
    else none := by
  unfold lineComment?
  split
  · rename_i ds shape
    cases shape
    rfl
  · rename_i other
    rw [if_neg]
    rintro ⟨rfl, second⟩
    obtain ⟨ds, rfl⟩ := List.head?_eq_some_iff.1 second
    exact other ds rfl

theorem blockComment?_cons (c : Char) (cs : Text) : blockComment? (c :: cs) =
    if c = '/' ∧ cs.head? = some '*' then
      some (ofParts .comment (extend ['/', '*'] (throughClose (cs.drop 1))))
    else none := by
  unfold blockComment?
  split
  · rename_i ds shape
    cases shape
    rfl
  · rename_i other
    rw [if_neg]
    rintro ⟨rfl, second⟩
    obtain ⟨ds, rfl⟩ := List.head?_eq_some_iff.1 second
    exact other ds rfl

variable {phrases : List Phrase} {before : Text} {t : Text} {r : Token × Text}

theorem lineComment?_eq_some_iff : lineComment? t = some r ↔
    t = r.1.text ++ r.2 ∧ Rule.lineComment.Takes phrases before r.1 r.2 := by
  constructor
  · intro found
    refine ⟨(lineComment?_covers found).2.symm, ?_⟩
    unfold lineComment? at found
    split at found
    · rename_i cs
      cases found
      rcases first_or_none '\n' cs with ⟨body, after, rfl, absent⟩ | absent
      · rw [through_char_closed absent]
        exact .lineComment absent
      · rw [through_char_open absent]
        exact .lineCommentToEnd absent
    · cases found
  · obtain ⟨token, after⟩ := r
    rintro ⟨rfl, taken⟩
    cases taken with
    | lineComment absent => simp [lineComment?, through_char_closed absent, extend, ofParts]
    | lineCommentToEnd absent => simp [lineComment?, through_char_open absent, extend, ofParts]

theorem blockComment?_eq_some_iff : blockComment? t = some r ↔
    t = r.1.text ++ r.2 ∧ Rule.blockComment.Takes phrases before r.1 r.2 := by
  constructor
  · intro found
    refine ⟨(blockComment?_covers found).2.symm, ?_⟩
    unfold blockComment? at found
    split at found
    · rename_i cs
      cases found
      rcases close_or_none cs with ⟨body, after, rfl, first⟩ | never
      · rw [throughClose_closed first]
        exact .blockComment first
      · rw [throughClose_open never]
        exact .blockCommentToEnd never
    · cases found
  · obtain ⟨token, after⟩ := r
    rintro ⟨rfl, taken⟩
    cases taken with
    | blockComment first => simp [blockComment?, throughClose_closed first, extend, ofParts]
    | blockCommentToEnd never => simp [blockComment?, throughClose_open never, extend, ofParts]

theorem string?_eq_some_iff : string? t = some r ↔
    t = r.1.text ++ r.2 ∧ Rule.string.Takes phrases before r.1 r.2 := by
  constructor
  · intro found
    refine ⟨(string?_covers found).2.symm, ?_⟩
    cases t with
    | nil => cases found
    | cons c cs =>
      rw [string?] at found
      split at found
      · rename_i quote
        cases found
        by_cases closed : ∃ body after, cs = body ++ c :: after ∧ Closes c body after
        · obtain ⟨body, after, rfl, closes⟩ := closed
          rw [throughQuote_closed closes]
          exact .string quote closes
        · have never : ∀ inner after, cs = inner ++ c :: after → ¬ Closes c inner after :=
            fun inner after shape closes => closed ⟨inner, after, shape, closes⟩
          rw [throughQuote_open never]
          exact .stringToEnd quote never
      · cases found
  · obtain ⟨token, after⟩ := r
    rintro ⟨rfl, taken⟩
    cases taken with
    | string quote closes =>
      simp [string?, quote, throughQuote_closed closes, extend, ofParts]
    | stringToEnd quote never =>
      simp [string?, quote, throughQuote_open never, extend, ofParts]

theorem quotedIdentifier?_eq_some_iff : quotedIdentifier? t = some r ↔
    t = r.1.text ++ r.2 ∧ Rule.quotedIdentifier.Takes phrases before r.1 r.2 := by
  constructor
  · intro found
    refine ⟨(quotedIdentifier?_covers found).2.symm, ?_⟩
    cases t with
    | nil => cases found
    | cons c cs =>
      rw [quotedIdentifier?] at found
      split at found
      · rename_i opened
        subst opened
        cases found
        rcases first_or_none backquote cs with ⟨body, after, rfl, absent⟩ | absent
        · rw [through_char_closed absent]
          exact .quotedIdentifier absent
        · rw [through_char_open absent]
          exact .quotedIdentifierToEnd absent
      · cases found
  · obtain ⟨token, after⟩ := r
    rintro ⟨rfl, taken⟩
    cases taken with
    | quotedIdentifier absent =>
      simp [quotedIdentifier?, through_char_closed absent, extend, ofParts]
    | quotedIdentifierToEnd absent =>
      simp [quotedIdentifier?, through_char_open absent, extend, ofParts]

theorem phrase?_eq_some_iff (table : Phrase.Table phrases) :
    phrase? phrases (endsWithWord before) t = some r ↔
      t = r.1.text ++ r.2 ∧ Rule.phrase.Takes phrases before r.1 r.2 := by
  constructor
  · intro found
    refine ⟨(phrase?_covers found).2.symm, ?_⟩
    cases t with
    | nil => cases found
    | cons c cs =>
      rw [phrase?] at found
      split at found
      · rename_i start
        obtain ⟨parts, taken, rfl⟩ := Option.map_eq_some_iff.1 found
        obtain ⟨p, member, spelled, ends, -⟩ := (findPhrase_eq_some_iff table).1 taken
        exact .phrase member spelled (by simp_all) ends
      · cases found
  · obtain ⟨token, after⟩ := r
    rintro ⟨rfl, taken⟩
    cases taken with
    | @phrase _ lexeme _ p member spelled apart ends =>
      have taken : (phrases.findSome? fun p => takePhrase? p (lexeme ++ after)) =
          some (lexeme, after) := (findPhrase_eq_some_iff table).2 ⟨p, member, spelled, ends, rfl⟩
      obtain ⟨c, cs, rfl, letter⟩ := spelled.head (table.wellFormed p member)
      rw [List.cons_append] at taken
      simp [phrase?, letter, apart, taken, ofParts]

theorem takeFraction_none {t : Text} (bare : ∀ d rest, t = '.' :: d :: rest → d.isDigit = false) :
    takeFraction t = ([], t) := by
  unfold takeFraction
  split
  · rename_i cs
    cases cs with
    | nil => rfl
    | cons d rest => simp [bare d rest rfl]
  · rfl

theorem takeFraction_some {digits after : Text} (full : digits ≠ [])
    (inside : ∀ c ∈ digits, c.isDigit = true) (stops : after.head?.any Char.isDigit = false) :
    takeFraction ('.' :: (digits ++ after)) = ('.' :: digits, after) := by
  simp [takeFraction, takeWhile_run inside stops, dropWhile_run inside stops, full]

theorem stops_digits {after : Text} (ends : startsWithWord after = false) :
    after.head?.any Char.isDigit = false := by
  cases after with
  | nil => rfl
  | cons c cs =>
    have other : isWordChar c = false := ends
    cases digit : c.isDigit with
    | false => exact digit
    | true =>
      rw [isWordChar_of_isDigit digit] at other
      cases other

theorem number?_eq_some_iff : number? t = some r ↔
    t = r.1.text ++ r.2 ∧ Rule.number.Takes phrases before r.1 r.2 := by
  constructor
  · intro found
    refine ⟨(number?_covers found).2.symm, ?_⟩
    cases t with
    | nil => cases found
    | cons c cs =>
      rw [number?] at found
      split at found
      · rename_i digits
        cases found
        obtain ⟨digit, ends⟩ : c.isDigit = true ∧
            startsWithWord (takeNumber (c :: cs)).2 = false := by simpa using digits
        have full : (c :: cs).takeWhile Char.isDigit ≠ [] := by simp [digit]
        revert ends
        rw [takeNumber]
        generalize (c :: cs).dropWhile Char.isDigit = rest
        unfold takeFraction
        split
        · rename_i ds
          split
          · rename_i none
            intro ends
            simp only [extend, List.append_nil]
            refine .wholeNumber full inside_takeWhile ends ?_
            intro d rest shape
            cases shape
            simpa [List.takeWhile_cons] using none
          · rename_i some
            intro ends
            exact .fraction full inside_takeWhile (by simpa using some) inside_takeWhile ends
        · rename_i bare
          intro ends
          simp only [extend, List.append_nil]
          exact .wholeNumber full inside_takeWhile ends fun d rest shape =>
            absurd shape (bare (d :: rest))
      · cases found
  · obtain ⟨token, after⟩ := r
    rintro ⟨rfl, taken⟩
    cases taken with
    | @wholeNumber _ whole _ full inside ends bare =>
      have read : takeNumber (whole ++ after) = (whole, after) := by
        simp [takeNumber, takeWhile_run inside (stops_digits ends),
          dropWhile_run inside (stops_digits ends), takeFraction_none bare, extend]
      obtain ⟨c, cs, rfl⟩ := List.exists_cons_of_ne_nil full
      rw [List.cons_append] at read
      simp [number?, inside c (List.mem_cons_self ..), read, ends, ofParts]
    | @fraction _ whole digits _ full inside full' inside' ends =>
      have read : takeNumber (whole ++ '.' :: (digits ++ after)) =
          (whole ++ '.' :: digits, after) := by
        rw [takeNumber, takeWhile_run inside rfl, dropWhile_run inside rfl,
          takeFraction_some full' inside' (stops_digits ends)]
        rfl
      obtain ⟨c, cs, rfl⟩ := List.exists_cons_of_ne_nil full
      rw [List.cons_append] at read
      simp [number?, inside c (List.mem_cons_self ..), read, ends, ofParts]

theorem word?_eq_some_iff : word? t = some r ↔
    t = r.1.text ++ r.2 ∧ Rule.word.Takes phrases before r.1 r.2 := by
  constructor
  · intro found
    refine ⟨(word?_covers found).2.symm, ?_⟩
    cases t with
    | nil => cases found
    | cons c cs =>
      rw [word?] at found
      split at found
      · rename_i letter
        cases found
        refine .word (by simp) ?_ (stops_dropWhile isWordChar cs)
        intro d member
        rcases List.mem_cons.1 member with rfl | member
        · exact letter
        · exact inside_takeWhile d member
      · cases found
  · obtain ⟨token, after⟩ := r
    rintro ⟨rfl, taken⟩
    cases taken with
    | @word _ lexeme _ full inside ends =>
      obtain ⟨c, cs, rfl⟩ := List.exists_cons_of_ne_nil full
      have tail : ∀ d ∈ cs, isWordChar d = true := fun d member =>
        inside d (List.mem_cons_of_mem c member)
      simp [word?, inside c (List.mem_cons_self ..), takeWhile_run tail ends,
        dropWhile_run tail ends]

theorem single?_eq_some_iff : single? t = some r ↔
    t = r.1.text ++ r.2 ∧ Rule.single.Takes phrases before r.1 r.2 := by
  constructor
  · intro found
    refine ⟨(single?_covers found).2.symm, ?_⟩
    cases t with
    | nil => cases found
    | cons c cs =>
      cases found
      exact .single
  · obtain ⟨token, after⟩ := r
    rintro ⟨rfl, taken⟩
    cases taken with
    | single => rfl

end Token

namespace Rule

/-- The reader that follows a rule. -/
def reader? (phrases : List Phrase) (afterWord : Bool) (t : Text) : Rule → Option (Token × Text)
  | lineComment => Token.lineComment? t
  | blockComment => Token.blockComment? t
  | string => Token.string? t
  | quotedIdentifier => Token.quotedIdentifier? t
  | phrase => Token.phrase? phrases afterWord t
  | number => Token.number? t
  | word => Token.word? t
  | single => Token.single? t

variable {phrases : List Phrase} {before : Text} {t : Text}

theorem reader?_eq_some_iff (table : Phrase.Table phrases) (rule : Rule) {r : Token × Text} :
    rule.reader? phrases (endsWithWord before) t = some r ↔
      t = r.1.text ++ r.2 ∧ rule.Takes phrases before r.1 r.2 := by
  cases rule with
  | lineComment => exact Token.lineComment?_eq_some_iff
  | blockComment => exact Token.blockComment?_eq_some_iff
  | string => exact Token.string?_eq_some_iff
  | quotedIdentifier => exact Token.quotedIdentifier?_eq_some_iff
  | phrase => exact Token.phrase?_eq_some_iff table
  | number => exact Token.number?_eq_some_iff
  | word => exact Token.word?_eq_some_iff
  | single => exact Token.single?_eq_some_iff

theorem reader?_eq_none_iff (table : Phrase.Table phrases) (rule : Rule) :
    rule.reader? phrases (endsWithWord before) t = none ↔ ¬ rule.Applies phrases before t := by
  rw [Option.eq_none_iff_forall_ne_some]
  constructor
  · rintro none ⟨token, after, shape, taken⟩
    exact none (token, after) ((rule.reader?_eq_some_iff table).2 ⟨shape, taken⟩)
  · intro idle r found
    obtain ⟨shape, taken⟩ := (rule.reader?_eq_some_iff table).1 found
    exact idle ⟨r.1, r.2, shape, taken⟩

theorem all_eq (r : Rule) : ∃ later, all = r.earlier ++ r :: later := by
  cases r <;> exact ⟨_, rfl⟩

/-- The first rule of the list with an answer gives it. -/
theorem findSome?_all {α : Type} {f : Rule → Option α} {a : α} :
    all.findSome? f = some a ↔ ∃ r, f r = some a ∧ ∀ e ∈ r.earlier, f e = none := by
  rw [List.findSome?_eq_some_iff]
  constructor
  · rintro ⟨front, r, later, shape, answer, idle⟩
    refine ⟨r, answer, ?_⟩
    have fresh : ∀ e ∈ front, (e != r) = true := by
      intro e member
      rw [bne_iff_ne]
      rintro rfl
      rw [idle e member] at answer
      cases answer
    have whole : r.earlier = front := by
      rw [earlier, shape, List.takeWhile_append_of_pos fresh]
      simp
    exact whole ▸ idle
  · rintro ⟨r, answer, idle⟩
    obtain ⟨later, shape⟩ := r.all_eq
    exact ⟨r.earlier, r, later, shape, answer, idle⟩

end Rule

section Applies

variable {phrases : List Phrase} {before after : Text} {c : Char}

theorem Rule.applies_iff (table : Phrase.Table phrases) (rule : Rule) (t : Text) :
    rule.Applies phrases before t ↔
      (rule.reader? phrases (endsWithWord before) t).isSome = true := by
  have none : rule.reader? phrases (endsWithWord before) t = none ↔
      ¬ rule.Applies phrases before t := rule.reader?_eq_none_iff table
  rw [← Option.ne_none_iff_isSome, ne_eq, none, Classical.not_not]

theorem Rule.lineComment_applies_iff (table : Phrase.Table phrases) :
    Rule.lineComment.Applies phrases before (c :: after) ↔ c = '-' ∧ after.head? = some '-' := by
  rw [applies_iff table, reader?, Token.lineComment?_cons]
  split <;> simp_all

theorem Rule.blockComment_applies_iff (table : Phrase.Table phrases) :
    Rule.blockComment.Applies phrases before (c :: after) ↔ c = '/' ∧ after.head? = some '*' := by
  rw [applies_iff table, reader?, Token.blockComment?_cons]
  split <;> simp_all

theorem Rule.string_applies_iff (table : Phrase.Table phrases) :
    Rule.string.Applies phrases before (c :: after) ↔ c = '\'' ∨ c = '"' := by
  rw [applies_iff table, reader?, Token.string?]
  split <;> simp_all

theorem Rule.quotedIdentifier_applies_iff (table : Phrase.Table phrases) :
    Rule.quotedIdentifier.Applies phrases before (c :: after) ↔ c = Token.backquote := by
  rw [applies_iff table, reader?, Token.quotedIdentifier?]
  split <;> simp_all

theorem Rule.word_applies_iff (table : Phrase.Table phrases) :
    Rule.word.Applies phrases before (c :: after) ↔ isWordChar c = true := by
  rw [applies_iff table, reader?, Token.word?]
  split <;> simp_all

/-- Three of the rules take words only. -/
theorem Rule.not_applies_of_mark (table : Phrase.Table phrases) (mark : isWordChar c = false)
    {rule : Rule} (wordy : rule = .phrase ∨ rule = .number ∨ rule = .word) :
    ¬ rule.Applies phrases before (c :: after) := by
  rw [applies_iff table]
  rcases wordy with rfl | rfl | rfl
  · simp [reader?, Token.phrase?, not_isAlpha_of_not_isWordChar mark]
  · simp [reader?, Token.number?, not_isDigit_of_not_isWordChar mark]
  · simp [reader?, Token.word?, mark]

end Applies

namespace Token

theorem cut?_eq_findSome? (phrases : List Phrase) (afterWord : Bool) (t : Text) :
    cut? phrases afterWord t = Rule.all.findSome? (Rule.reader? phrases afterWord t) := by
  have tryFirst (r : Rule) (later : List Rule) :
      (r :: later).findSome? (Rule.reader? phrases afterWord t) =
        (r.reader? phrases afterWord t).or
          (later.findSome? (Rule.reader? phrases afterWord t)) := by
    rw [List.findSome?_cons]
    cases r.reader? phrases afterWord t <;> rfl
  simp only [cut?, Option.orElse_eq_orElse, Option.orElse_eq_or, Rule.all, tryFirst,
    List.findSome?_nil, Option.or_none, Rule.reader?]

/-- The first token of a text is the one that obeys the rules at its place. -/
theorem cut?_eq_some_iff {phrases : List Phrase} (table : Phrase.Table phrases) {before t : Text}
    {r : Token × Text} : cut? phrases (endsWithWord before) t = some r ↔
      t = r.1.text ++ r.2 ∧ Obeys phrases before r.1 r.2 := by
  rw [cut?_eq_findSome?, Rule.findSome?_all]
  constructor
  · rintro ⟨rule, found, idle⟩
    obtain ⟨shape, taken⟩ := (rule.reader?_eq_some_iff table).1 found
    refine ⟨shape, rule, taken, fun e member => ?_⟩
    exact shape ▸ (e.reader?_eq_none_iff table).1 (idle e member)
  · rintro ⟨shape, rule, taken, idle⟩
    refine ⟨rule, (rule.reader?_eq_some_iff table).2 ⟨shape, taken⟩, fun e member => ?_⟩
    exact (e.reader?_eq_none_iff table).2 (shape ▸ idle e member)

theorem concat_append (ts us : List Token) : concat (ts ++ us) = concat ts ++ concat us :=
  List.flatMap_append

theorem concat_split (t : Text) : concat (split t) = t := concat_splitAfter Phrase.all false t

theorem splitAfter_nil (phrases : List Phrase) (afterWord : Bool) :
    splitAfter phrases afterWord [] = [] := by
  rw [splitAfter]
  rfl

theorem splitAfter_cut {phrases : List Phrase} {afterWord : Bool} {t rest : Text} {token : Token}
    (found : cut? phrases afterWord t = some (token, rest)) :
    splitAfter phrases afterWord t =
      token :: splitAfter phrases (endsWithWord token.text) rest := by
  rw [splitAfter]
  split
  · rename_i none
    rw [none] at found
    cases found
  · rename_i same
    rw [same] at found
    cases found
    rfl

end Token

theorem obeys_iff_cut? {phrases : List Phrase} (table : Phrase.Table phrases)
    {before after : Text} {token : Token} : Obeys phrases before token after ↔
      Token.cut? phrases (endsWithWord before) (token.text ++ after) = some (token, after) := by
  rw [Token.cut?_eq_some_iff table]
  exact ⟨fun obeys => ⟨rfl, obeys⟩, And.right⟩

/-- A token and what is left of a text are determined by the text. -/
theorem Obeys.unique {phrases : List Phrase} (table : Phrase.Table phrases) {t t' : Token}
    {before after after' : Text} (obeys : Obeys phrases before t after)
    (obeys' : Obeys phrases before t' after') (same : t.text ++ after = t'.text ++ after') :
    t = t' ∧ after = after' := by
  rw [obeys_iff_cut? table] at obeys obeys'
  rw [same, obeys', Option.some.injEq, Prod.mk.injEq] at obeys
  exact ⟨obeys.1.symm, obeys.2.symm⟩

theorem Obeys.ne_nil {phrases : List Phrase} (table : Phrase.Table phrases) {before after : Text}
    {token : Token} (obeys : Obeys phrases before token after) : token.text ≠ [] :=
  (Token.cut_covers ((obeys_iff_cut? table).1 obeys)).1

theorem endsWithWord_append {front back : Text} (full : back ≠ []) :
    endsWithWord (front ++ back) = endsWithWord back := by
  rw [endsWithWord, List.getLast?_append, List.getLast?_eq_some_getLast full]
  simp [endsWithWord, List.getLast?_eq_some_getLast full]

namespace Token

variable {phrases : List Phrase} {before t : Text} {tokens : List Token}

theorem splitAfter_of_reads (table : Phrase.Table phrases) (reads : Reads phrases before tokens) :
    splitAfter phrases (endsWithWord before) (concat tokens) = tokens := by
  induction tokens generalizing before with
  | nil => exact splitAfter_nil phrases _
  | cons token tokens ih =>
    obtain ⟨obeys, rest⟩ := reads
    have found : cut? phrases (endsWithWord before) (concat (token :: tokens)) =
        some (token, concat tokens) := (obeys_iff_cut? table).1 obeys
    rw [splitAfter_cut found, ← endsWithWord_append (obeys.ne_nil table), ih rest]

theorem reads_splitAfter (table : Phrase.Table phrases) :
    Reads phrases before (splitAfter phrases (endsWithWord before) t) := by
  generalize past : endsWithWord before = afterWord
  fun_induction splitAfter phrases afterWord t generalizing before with
  | case1 => trivial
  | case2 afterWord t token rest found ih =>
    subst past
    obtain ⟨-, obeys⟩ := (cut?_eq_some_iff table).1 found
    refine ⟨?_, ih (endsWithWord_append (obeys.ne_nil table))⟩
    rwa [concat_splitAfter]

/-- The tokens of a text are the one list that makes up the text and reads it. -/
theorem splitAfter_eq_iff (table : Phrase.Table phrases) :
    splitAfter phrases (endsWithWord before) t = tokens ↔
      concat tokens = t ∧ Reads phrases before tokens := by
  constructor
  · rintro rfl
    exact ⟨concat_splitAfter phrases _ t, reads_splitAfter table⟩
  · rintro ⟨rfl, reads⟩
    exact splitAfter_of_reads table reads

theorem split_eq_iff : split t = tokens ↔ concat tokens = t ∧ Reads Phrase.all [] tokens := by
  change splitAfter Phrase.all (endsWithWord []) t = tokens ↔ _
  exact splitAfter_eq_iff Phrase.table_all

end Token

end QueryDesk.Sql
