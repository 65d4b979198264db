import QueryDesk.Proofs.Tokens.Reader

/-!
# What a token can see of the text after it

A reader looks past its own token: for the blanks and words of a phrase, for the digits of a
fraction, for one more character. `glance` keeps exactly that of a text. It keeps words, makes one
space of every run of blanks, and stops at the first other character. Two texts that look alike in
this sense have the same rules apply to them.

* `Spells.alike`: a phrase stands on a text if it stands on one that looks alike.
* `Obeys.alike`: a token obeys the rules before a text if it does before one that looks alike.
-/

set_option autoImplicit false

namespace QueryDesk.Sql

open Text

/-- The words of a text with single spaces between them, up to the first other character. A point
is followed by the rest of the number that it may be a part of. -/
def glance : Text → Text
  | [] => []
  | c :: cs =>
    if isBlank c then if (glance cs).head? = some ' ' then glance cs else ' ' :: glance cs
    else if isWordChar c then c :: glance cs
    else if c = '.' ∧ (glance cs).head?.any Char.isDigit then
      c :: (glance cs).takeWhile isWordChar
    else [c]

theorem glance_congr {y y' : Text} (same : glance y = glance y') (x : Text) :
    glance (x ++ y) = glance (x ++ y') := by
  induction x with
  | nil => exact same
  | cons c cs ih => rw [List.cons_append, List.cons_append, glance, glance, ih]

theorem glance_word {word : Text} (inside : ∀ c ∈ word, isWordChar c = true) (after : Text) :
    glance (word ++ after) = word ++ glance after := by
  induction word with
  | nil => rfl
  | cons c cs ih =>
    have letter := inside c (List.mem_cons_self ..)
    have tail := ih fun d member => inside d (List.mem_cons_of_mem c member)
    have visible : ¬ isBlank c = true := by simp [not_isBlank_of_isWordChar letter]
    rw [List.cons_append, glance, if_neg visible, if_pos letter, tail]
    rfl

theorem head?_glance (t : Text) :
    (glance t).head? = t.head?.map fun c => if isBlank c then ' ' else c := by
  cases t with
  | nil => rfl
  | cons c cs =>
    rw [glance, List.head?_cons, Option.map_some]
    by_cases blank : isBlank c = true
    · rw [if_pos blank, if_pos blank]
      split
      · assumption
      · rfl
    · rw [if_neg blank, if_neg blank]
      split
      · rfl
      · split <;> rfl

theorem glance_eq_nil {t : Text} (none : glance t = []) : t = [] := by
  have first := head?_glance t
  rw [none] at first
  cases t with
  | nil => rfl
  | cons c cs => cases first

theorem head?_glance_iff {t : Text} {c : Char} (visible : isBlank c = false) :
    (glance t).head? = some c ↔ t.head? = some c := by
  rw [head?_glance, Option.map_eq_some_iff]
  constructor
  · rintro ⟨d, first, equal⟩
    split at equal
    · subst equal
      cases visible
    · rw [first, equal]
  · intro first
    exact ⟨c, first, if_neg (by simp [visible])⟩

theorem startsWithWord_glance (t : Text) : startsWithWord (glance t) = startsWithWord t := by
  rw [startsWithWord, head?_glance, startsWithWord]
  cases t with
  | nil => rfl
  | cons c cs =>
    change isWordChar (if isBlank c then ' ' else c) = isWordChar c
    split
    · rename_i blank
      rw [not_isWordChar_of_isBlank blank]
      rfl
    · rfl

theorem startsWithWord_eq_of_glance {y y' : Text} (same : glance y = glance y') :
    startsWithWord y = startsWithWord y' := by
  rw [← startsWithWord_glance y, same, startsWithWord_glance]

theorem takeWhile_glance (t : Text) :
    (glance t).takeWhile isWordChar = t.takeWhile isWordChar := by
  induction t with
  | nil => rfl
  | cons c cs ih =>
    cases letter : isWordChar c with
    | true =>
      have run : glance ([c] ++ cs) = [c] ++ glance cs := glance_word (by simpa using letter) cs
      rw [List.singleton_append, List.singleton_append] at run
      rw [run, List.takeWhile_cons_of_pos letter, List.takeWhile_cons_of_pos letter, ih]
    | false =>
      have stops : (glance (c :: cs)).head?.any isWordChar = false := by
        have := startsWithWord_glance (c :: cs)
        rw [startsWithWord] at this
        rw [this]
        exact letter
      have none : ([] ++ glance (c :: cs)).takeWhile isWordChar = [] :=
        takeWhile_run (by simp) stops
      rw [List.nil_append] at none
      rw [none, List.takeWhile_cons_of_neg (by simp [letter])]

/-- A run of blanks looks like one space, also where more of them follow. -/
theorem glance_gap_append {gap : Text} (full : gap ≠ []) (blank : ∀ c ∈ gap, isBlank c = true)
    (after : Text) :
    glance (gap ++ after) =
      if (glance after).head? = some ' ' then glance after else ' ' :: glance after := by
  induction gap with
  | nil => exact absurd rfl full
  | cons c cs ih =>
    rw [List.cons_append, glance, if_pos (blank c List.mem_cons_self)]
    cases cs with
    | nil => rfl
    | cons d ds =>
      have tail := ih (List.cons_ne_nil d ds) fun e member =>
        blank e (List.mem_cons_of_mem c member)
      have space : (glance (d :: ds ++ after)).head? = some ' ' := by
        rw [tail]
        split
        · assumption
        · rfl
      rw [if_pos space, tail]

theorem glance_gap {gap : Text} (full : gap ≠ []) (blank : ∀ c ∈ gap, isBlank c = true)
    {after : Text} (stops : after.head?.any isBlank = false) :
    glance (gap ++ after) = ' ' :: glance after := by
  rw [glance_gap_append full blank, if_neg]
  rw [head?_glance]
  intro space
  obtain ⟨d, first, equal⟩ := Option.map_eq_some_iff.1 space
  rw [first] at stops
  rw [if_neg (by simpa using stops)] at equal
  subst equal
  cases stops

theorem of_glance_word {word : Text} (inside : ∀ c ∈ word, isWordChar c = true) {t look : Text}
    (same : glance t = word ++ look) : ∃ rest, t = word ++ rest ∧ glance rest = look := by
  induction word generalizing t with
  | nil => exact ⟨t, rfl, same⟩
  | cons c cs ih =>
    have letter := inside c (List.mem_cons_self ..)
    have tail : ∀ d ∈ cs, isWordChar d = true := fun d member =>
      inside d (List.mem_cons_of_mem c member)
    have first : t.head? = some c :=
      (head?_glance_iff (not_isBlank_of_isWordChar letter)).1 (by rw [same]; rfl)
    obtain ⟨ds, rfl⟩ := List.head?_eq_some_iff.1 first
    have run : glance ([c] ++ ds) = [c] ++ glance ds := glance_word (by simpa using letter) ds
    rw [List.singleton_append, same] at run
    obtain ⟨rest, rfl, look'⟩ := ih tail (List.cons.inj run).2.symm
    exact ⟨rest, rfl, look'⟩

theorem of_glance_gap {t look : Text} (same : glance t = ' ' :: look) :
    ∃ gap rest, t = gap ++ rest ∧ gap ≠ [] ∧ (∀ c ∈ gap, isBlank c = true) ∧
      glance rest = look := by
  have first := head?_glance t
  rw [same] at first
  obtain ⟨c, first, equal⟩ := Option.map_eq_some_iff.1 first.symm
  have blank : isBlank c = true := by
    cases blank : isBlank c with
    | true => rfl
    | false =>
      rw [blank, if_neg (by decide)] at equal
      subst equal
      cases blank
  obtain ⟨cs, rfl⟩ := List.head?_eq_some_iff.1 first
  have full : (c :: cs).takeWhile isBlank ≠ [] := by simp [blank]
  have look' := glance_gap full inside_takeWhile (stops_dropWhile isBlank (c :: cs))
  rw [List.takeWhile_append_dropWhile, same] at look'
  exact ⟨_, _, List.takeWhile_append_dropWhile.symm, full, inside_takeWhile,
    (List.cons.inj look').2.symm⟩

/-- A phrase that stands on a text is spelled on every text that looks alike. -/
theorem Spells.alike {p : Phrase} {lexeme : Text} (spelled : Spells p lexeme)
    (formed : p.WellFormed) {after t : Text} (same : glance (lexeme ++ after) = glance t) :
    ∃ lexeme' after', t = lexeme' ++ after' ∧ Spells p lexeme' ∧
      glance after = glance after' := by
  induction spelled generalizing t with
  | @last word =>
    rw [glance_word formed.word] at same
    obtain ⟨rest, rfl, look⟩ := of_glance_word formed.word same.symm
    exact ⟨word, rest, rfl, .last, look.symm⟩
  | @more ws word gap rest full blank tail ih =>
    have formedTail := formed.tail tail.ne_nil
    rw [List.append_assoc, List.append_assoc, glance_word formed.word,
      glance_gap full blank (tail.stops_gap formedTail after)] at same
    obtain ⟨past, rfl, look⟩ := of_glance_word formed.word same.symm
    obtain ⟨gap', behind, rfl, full', blank', look'⟩ := of_glance_gap look
    obtain ⟨rest', after', rfl, spelled', look''⟩ := ih formedTail look'.symm
    exact ⟨word ++ (gap' ++ rest'), after', by simp, .more full' blank' spelled', look''⟩

theorem digit_glance (t : Text) : (glance t).head?.any Char.isDigit = t.head?.any Char.isDigit := by
  rw [head?_glance]
  cases t with
  | nil => rfl
  | cons c cs =>
    change (if isBlank c then ' ' else c).isDigit = c.isDigit
    split
    · rename_i blank
      rw [not_isDigit_of_not_isWordChar (not_isWordChar_of_isBlank blank)]
      rfl
    · rfl

theorem glance_point (cs : Text) : glance ('.' :: cs) =
    if cs.head?.any Char.isDigit then '.' :: cs.takeWhile isWordChar else ['.'] := by
  have visible : ¬ isBlank '.' = true := by decide
  have mark : ¬ isWordChar '.' = true := by decide
  rw [glance, if_neg visible, if_neg mark, digit_glance, takeWhile_glance]
  simp only [true_and]

theorem digits_word {digits : Text} (inside : ∀ c ∈ digits, c.isDigit = true) :
    ∀ c ∈ digits, isWordChar c = true :=
  fun c member => isWordChar_of_isDigit (inside c member)

/-- Whether a fraction follows can be seen. -/
theorem bare_of_glance {after after' : Text} (same : glance after = glance after')
    (bare : ∀ d rest, after = '.' :: d :: rest → d.isDigit = false) :
    ∀ d rest, after' = '.' :: d :: rest → d.isDigit = false := by
  rintro d rest rfl
  have first : after.head? = some '.' := by
    rw [← head?_glance_iff (by decide), same, head?_glance_iff (by decide)]
    rfl
  obtain ⟨cs, rfl⟩ := List.head?_eq_some_iff.1 first
  rw [glance_point, glance_point] at same
  cases digit : d.isDigit with
  | false => rfl
  | true =>
    have follows : (d :: rest).head?.any Char.isDigit = true := digit
    have letter : isWordChar d = true := isWordChar_of_isDigit digit
    rw [if_pos follows, List.takeWhile_cons_of_pos letter] at same
    cases cs with
    | nil => cases same
    | cons e es =>
      have other : ¬ (e :: es).head?.any Char.isDigit = true := by
        simpa using bare e es rfl
      rw [if_neg other] at same
      cases same

/-- A number that stands on a text stands on every text that looks alike. -/
theorem Rule.number_alike {phrases : List Phrase} {before t after : Text} {token : Token}
    (taken : Rule.number.Takes phrases before token after)
    (same : glance (token.text ++ after) = glance t) : Rule.number.Applies phrases before t := by
  cases taken with
  | @wholeNumber _ whole _ full inside ends bare =>
    change glance (whole ++ after) = glance t at same
    rw [glance_word (digits_word inside)] at same
    obtain ⟨after', rfl, look⟩ := of_glance_word (digits_word inside) same.symm
    exact ⟨_, after', rfl, .wholeNumber full inside
      ((startsWithWord_eq_of_glance look).trans ends) (bare_of_glance look.symm bare)⟩
  | @fraction _ whole digits _ full inside full' inside' ends =>
    have run := takeWhile_run (digits_word inside') ends
    have follows : (digits ++ after).head?.any Char.isDigit = true := by
      obtain ⟨d, ds, rfl⟩ := List.exists_cons_of_ne_nil full'
      exact inside' d (List.mem_cons_self ..)
    change glance (whole ++ '.' :: digits ++ after) = glance t at same
    rw [List.append_assoc, List.cons_append, glance_word (digits_word inside), glance_point,
      if_pos follows, run] at same
    obtain ⟨past, rfl, look⟩ := of_glance_word (digits_word inside) same.symm
    have first : past.head? = some '.' := by
      rw [← head?_glance_iff (by decide), look]
      rfl
    obtain ⟨cs, rfl⟩ := List.head?_eq_some_iff.1 first
    rw [glance_point] at look
    split at look
    · have shape : cs.takeWhile isWordChar = digits := (List.cons.inj look).2
      refine ⟨⟨.number, whole ++ '.' :: digits⟩, cs.dropWhile isWordChar, ?_,
        .fraction full inside full' inside' (stops_dropWhile isWordChar cs)⟩
      rw [← shape, List.append_assoc, List.cons_append, List.takeWhile_append_dropWhile]
    · exact absurd (List.cons.inj look).2.symm full'

/-- Nothing is seen behind a character that is neither a blank nor part of a word or number. -/
theorem glance_mark {c : Char} {y : Text} (visible : isBlank c = false)
    (mark : isWordChar c = false) (bare : c = '.' → y.head?.any Char.isDigit = false) :
    glance (c :: y) = [c] := by
  rw [glance, if_neg (by simp [visible]), if_neg (by simp [mark]), if_neg]
  rintro ⟨point, digit⟩
  rw [digit_glance, bare point] at digit
  cases digit

variable {phrases : List Phrase} {before after after' : Text}

/-- A rule that applies still applies where the next character is the same after a dash or a slash,
and where what follows looks alike after a word character. -/
theorem Rule.Applies.carry (table : Phrase.Table phrases) {rule : Rule} {c : Char} {y y' : Text}
    (next : ∀ d, isBlank d = false → c = '-' ∨ c = '/' → y.head? = some d → y'.head? = some d)
    (words : isWordChar c = true → glance y = glance y')
    (applies : rule.Applies phrases before (c :: y)) : rule.Applies phrases before (c :: y') := by
  have wordy (among : rule = .phrase ∨ rule = .number ∨ rule = .word) :
      glance (c :: y) = glance (c :: y') := by
    cases letter : isWordChar c with
    | true => exact glance_congr (words letter) [c]
    | false => exact absurd applies (not_applies_of_mark table letter among)
  cases rule with
  | lineComment =>
    rw [lineComment_applies_iff table] at applies ⊢
    exact ⟨applies.1, next _ (by decide) (.inl applies.1) applies.2⟩
  | blockComment =>
    rw [blockComment_applies_iff table] at applies ⊢
    exact ⟨applies.1, next _ (by decide) (.inr applies.1) applies.2⟩
  | string => rwa [string_applies_iff table] at applies ⊢
  | quotedIdentifier => rwa [quotedIdentifier_applies_iff table] at applies ⊢
  | phrase =>
    have whole := wordy (.inl rfl)
    obtain ⟨token, after, shape, taken⟩ := applies
    cases taken with
    | @phrase _ lexeme _ p member spelled begins ends =>
      rw [shape] at whole
      obtain ⟨lexeme', after', shape', spelled', look⟩ :=
        spelled.alike (table.wellFormed p member) whole
      exact ⟨_, after', shape', .phrase member spelled' begins
        ((startsWithWord_eq_of_glance look).symm.trans ends)⟩
  | number =>
    have whole := wordy (.inr (.inl rfl))
    obtain ⟨token, after, shape, taken⟩ := applies
    exact number_alike taken (shape ▸ whole)
  | word => rwa [word_applies_iff table] at applies ⊢
  | single => exact ⟨_, y', rfl, .single⟩

/-- What a rule takes it takes before every text that looks alike. -/
theorem Rule.Takes.alike {rule : Rule} {token : Token} (same : glance after = glance after')
    (taken : rule.Takes phrases before token after) : rule.Takes phrases before token after' := by
  have ends (stops : startsWithWord after = false) : startsWithWord after' = false :=
    (startsWithWord_eq_of_glance same).symm.trans stops
  have nothing (none : after = []) : after' = [] := by
    subst none
    exact glance_eq_nil same.symm
  cases taken with
  | lineComment first => exact .lineComment first
  | lineCommentToEnd never => exact nothing rfl ▸ .lineCommentToEnd never
  | blockComment first => exact .blockComment first
  | blockCommentToEnd never => exact nothing rfl ▸ .blockCommentToEnd never
  | @string _ _ _ quote quoted closes =>
    refine .string quoted ⟨closes.1, fun again => closes.2 ?_⟩
    have visible : isBlank quote = false := by rcases quoted with rfl | rfl <;> decide
    rw [← head?_glance_iff visible, same, head?_glance_iff visible]
    exact again
  | stringToEnd quoted never => exact nothing rfl ▸ .stringToEnd quoted never
  | quotedIdentifier first => exact .quotedIdentifier first
  | quotedIdentifierToEnd never => exact nothing rfl ▸ .quotedIdentifierToEnd never
  | phrase member spelled begins stops => exact .phrase member spelled begins (ends stops)
  | wholeNumber full inside stops bare =>
    exact .wholeNumber full inside (ends stops) (bare_of_glance same bare)
  | fraction full inside full' inside' stops =>
    exact .fraction full inside full' inside' (ends stops)
  | word full inside stops => exact .word full inside (ends stops)
  | single => exact .single

/-- A token that obeys the rules before a text obeys them before every text that looks alike. -/
theorem Obeys.alike (table : Phrase.Table phrases) {token : Token}
    (same : glance after = glance after') (obeys : Obeys phrases before token after) :
    Obeys phrases before token after' := by
  obtain ⟨c, cs, shape⟩ := List.exists_cons_of_ne_nil (obeys.ne_nil table)
  obtain ⟨rule, taken, idle⟩ := obeys
  refine ⟨rule, taken.alike same, fun e member applies => idle e member ?_⟩
  rw [shape, List.cons_append] at applies ⊢
  have look := glance_congr same.symm cs
  refine applies.carry table (fun d visible _ first => ?_) fun _ => look
  rwa [← head?_glance_iff visible, ← look, head?_glance_iff visible]

end QueryDesk.Sql
