import QueryDesk.Proofs.Tokens.Glance

/-!
# Neighbouring tokens

No two neighbouring tokens meet in word characters on both sides (`Obeys.apart`). So what stands
before a token never matters, and a list of tokens reads a text exactly if each of them stands
before the rest (`reads_iff_stands`). A token that ends in any other character is closed: blanks can
be put after it (`Obeys.before_any`).
-/

set_option autoImplicit false

namespace QueryDesk.Sql

open Text

/-- Whether a token is one blank. -/
def Token.isGap (t : Token) : Bool :=
  t.kind == .plain && match t.text with
    | [c] => isBlank c
    | _ => false

theorem Token.isGap_iff {t : Token} :
    t.isGap = true ↔ ∃ c, isBlank c = true ∧ t = ⟨.plain, [c]⟩ := by
  obtain ⟨kind, text⟩ := t
  constructor
  · intro gap
    simp only [isGap, Bool.and_eq_true, beq_iff_eq] at gap
    obtain ⟨rfl, blank⟩ := gap
    split at blank
    · exact ⟨_, blank, rfl⟩
    · cases blank
  · rintro ⟨c, blank, same⟩
    cases same
    exact blank

theorem Token.isSignificant_of_isGap {t : Token} (gap : t.isGap = true) :
    t.isSignificant = false := by
  obtain ⟨c, blank, rfl⟩ := isGap_iff.1 gap
  simp [isSignificant, allBlank, blank]

/-- The tokens of blanks. -/
def gapTokens (gap : Text) : List Token := gap.map fun c => ⟨.plain, [c]⟩

theorem isGap_of_mem_gapTokens {gap : Text} (blank : ∀ c ∈ gap, isBlank c = true) {t : Token}
    (member : t ∈ gapTokens gap) : t.isGap = true := by
  obtain ⟨c, inside, rfl⟩ := List.mem_map.1 member
  exact Token.isGap_iff.2 ⟨c, blank c inside, rfl⟩

/-- Nothing is left of a gap by what leaves out every gap. -/
theorem filter_gapTokens_eq_nil {p : Token → Bool} (gaps : ∀ t, t.isGap = true → p t = false)
    {gap : Text} (blank : ∀ c ∈ gap, isBlank c = true) : (gapTokens gap).filter p = [] := by
  rw [List.filter_eq_nil_iff]
  intro t member
  simp [gaps t (isGap_of_mem_gapTokens blank member)]

variable {phrases : List Phrase} {before after : Text} {t : Token}

theorem not_applies_of_blank (table : Phrase.Table phrases) {c : Char} (blank : isBlank c = true)
    {rule : Rule} (early : rule ≠ .single) : ¬ rule.Applies phrases before (c :: after) := by
  have apart {d : Char} (visible : isBlank d = false) : c ≠ d := by
    rintro rfl
    rw [visible] at blank
    cases blank
  have mark := not_isWordChar_of_isBlank blank
  cases rule with
  | lineComment =>
    rw [Rule.lineComment_applies_iff table]
    exact fun opens => apart (by decide) opens.1
  | blockComment =>
    rw [Rule.blockComment_applies_iff table]
    exact fun opens => apart (by decide) opens.1
  | string =>
    rw [Rule.string_applies_iff table]
    rintro (single | double)
    · exact apart (by decide) single
    · exact apart (by decide) double
  | quotedIdentifier =>
    rw [Rule.quotedIdentifier_applies_iff table]
    exact apart (by decide)
  | phrase => exact Rule.not_applies_of_mark table mark (.inl rfl)
  | number => exact Rule.not_applies_of_mark table mark (.inr (.inl rfl))
  | word => exact Rule.not_applies_of_mark table mark (.inr (.inr rfl))
  | single => exact absurd rfl early

/-- A blank is a token wherever it stands. -/
theorem obeys_blank (table : Phrase.Table phrases) {c : Char} (blank : isBlank c = true) :
    Obeys phrases before ⟨.plain, [c]⟩ after := by
  have single : Rule.single.Takes phrases before
      ⟨if isPunctuation c then .punctuation else .plain, [c]⟩ after := .single
  rw [if_neg (by simp [not_isPunctuation_of_isBlank blank])] at single
  refine ⟨.single, single, fun e member => not_applies_of_blank table blank ?_⟩
  rintro rfl
  exact absurd member (by decide)

theorem endsWithWord_concat (front : Text) (c : Char) :
    endsWithWord (front ++ [c]) = isWordChar c := by
  rw [endsWithWord, List.getLast?_concat]
  rfl

theorem endsWithWord_of_inside {word : Text} (full : word ≠ [])
    (inside : ∀ c ∈ word, isWordChar c = true) : endsWithWord word = true := by
  rw [endsWithWord, List.getLast?_eq_some_getLast full]
  exact inside _ (List.getLast_mem full)

theorem Spells.ends {p : Phrase} {lexeme : Text} (spelled : Spells p lexeme)
    (formed : p.WellFormed) : endsWithWord lexeme = true := by
  induction spelled with
  | @last word =>
    obtain ⟨c, cs, shape, -⟩ := Spells.last.head formed
    exact endsWithWord_of_inside (shape ▸ List.cons_ne_nil c cs) formed.word
  | @more ws word gap rest full blank tail ih =>
    have formedTail := formed.tail tail.ne_nil
    obtain ⟨c, cs, shape, -⟩ := tail.head formedTail
    have fullTail : rest ≠ [] := shape ▸ List.cons_ne_nil c cs
    rw [← List.append_assoc, endsWithWord_append fullTail, ih formedTail]

/-- The characters with which something is opened, and those with which it is closed. -/
def openers : List Char := ['-', '/', '\'', '"', Token.backquote]

def closers : List Char := ['\n', '/', '\'', '"', Token.backquote]

theorem not_isWordChar_of_opener {c : Char} (opens : c ∈ openers) : isWordChar c = false := by
  simp only [openers, List.mem_cons, List.not_mem_nil, or_false] at opens
  rcases opens with rfl | rfl | rfl | rfl | rfl <;> rfl

theorem not_opener_of_isWordChar {c : Char} (word : isWordChar c = true) : c ∉ openers := by
  intro opens
  rw [not_isWordChar_of_opener opens] at word
  cases word

/-- The rules tried before words, and those tried before numbers. -/
theorem Rule.earlier_word {e : Rule} (earlier : e ∈ Rule.word.earlier) :
    e ∈ Rule.phrase.earlier ∨ e = .phrase ∨ e = .number := by
  revert earlier
  cases e <;> simp [Rule.earlier, Rule.all]

theorem Rule.earlier_number {e : Rule} (earlier : e ∈ Rule.number.earlier) :
    e ∈ Rule.phrase.earlier ∨ e = .phrase := by
  revert earlier
  cases e <;> simp [Rule.earlier, Rule.all]

/-- The characters with which a comment, a string or a quoted identifier of a rule is opened. -/
def Rule.starts : Rule → List Char
  | lineComment => ['-']
  | blockComment => ['/']
  | string => ['\'', '"']
  | quotedIdentifier => [Token.backquote]
  | _ => []

theorem Rule.Applies.starts (table : Phrase.Table phrases) {e : Rule}
    (region : e ∈ Rule.phrase.earlier) {c : Char} {y : Text}
    (applies : e.Applies phrases before (c :: y)) : c ∈ e.starts := by
  have regions : e = .lineComment ∨ e = .blockComment ∨ e = .string ∨ e = .quotedIdentifier := by
    simpa [Rule.earlier, Rule.all] using region
  rcases regions with rfl | rfl | rfl | rfl
  · exact List.mem_singleton.2 ((Rule.lineComment_applies_iff table).1 applies).1
  · exact List.mem_singleton.2 ((Rule.blockComment_applies_iff table).1 applies).1
  · simpa [Rule.starts] using (Rule.string_applies_iff table).1 applies
  · exact List.mem_singleton.2 ((Rule.quotedIdentifier_applies_iff table).1 applies)

/-- Without an opener no comment, string or quoted identifier begins. -/
theorem no_region (table : Phrase.Table phrases) {c : Char} (mark : c ∉ openers) {e : Rule}
    (region : e ∈ Rule.phrase.earlier) (y : Text) : ¬ e.Applies phrases before (c :: y) := by
  intro applies
  have opens : e.starts ⊆ openers := by cases e <;> decide
  exact mark (opens (applies.starts table region))

/-- How a token begins and ends, before the text `after`. -/
inductive Form (after : Text) : Token → Prop
  | word {kind : TokenKind} {c : Char} {cs : Text} : isWordChar c = true →
      endsWithWord (c :: cs) = true → startsWithWord after = false → kind ≠ .punctuation →
      Form after ⟨kind, c :: cs⟩
  | single {c : Char} : isWordChar c = false →
      Form after ⟨if isPunctuation c then .punctuation else .plain, [c]⟩
  | closed {kind : TokenKind} {first last : Char} {body : Text} : first ∈ openers →
      last ∈ closers → kind ≠ .plain → Form after ⟨kind, first :: (body ++ [last])⟩
  | opened {kind : TokenKind} {first : Char} {body : Text} : first ∈ openers →
      after = [] → kind ≠ .plain → Form after ⟨kind, first :: body⟩

theorem Obeys.form (table : Phrase.Table phrases) (obeys : Obeys phrases before t after) :
    Form after t := by
  obtain ⟨rule, taken, idle⟩ := obeys
  have wordLike {kind : TokenKind} {word : Text} (full : word ≠ [])
      (inside : ∀ c ∈ word, isWordChar c = true) (stops : startsWithWord after = false)
      (other : kind ≠ .punctuation) : Form after ⟨kind, word⟩ := by
    obtain ⟨c, cs, rfl⟩ := List.exists_cons_of_ne_nil full
    exact .word (inside c (List.mem_cons_self ..)) (endsWithWord_of_inside full inside) stops other
  cases taken with
  | @lineComment _ body =>
    exact @Form.closed after _ '-' '\n' ('-' :: body) (by decide) (by decide) (by decide)
  | lineCommentToEnd => exact .opened (by decide) rfl (by decide)
  | @blockComment _ body =>
    have shape : body ++ ['*', '/'] = (body ++ ['*']) ++ ['/'] := by simp
    rw [shape]
    exact @Form.closed after _ '/' '/' ('*' :: (body ++ ['*'])) (by decide) (by decide) (by decide)
  | blockCommentToEnd => exact .opened (by decide) rfl (by decide)
  | string quoted =>
    rcases quoted with rfl | rfl <;> exact .closed (by decide) (by decide) (by decide)
  | stringToEnd quoted =>
    rcases quoted with rfl | rfl <;> exact .opened (by decide) rfl (by decide)
  | quotedIdentifier => exact .closed (by decide) (by decide) (by decide)
  | quotedIdentifierToEnd => exact .opened (by decide) rfl (by decide)
  | @phrase _ lexeme _ p member spelled begins stops =>
    have formed := table.wellFormed p member
    have ends := spelled.ends formed
    obtain ⟨c, cs, rfl, letter⟩ := spelled.head formed
    exact .word (isWordChar_of_isAlpha letter) ends stops (by decide)
  | wholeNumber full inside stops => exact wordLike full (digits_word inside) stops (by decide)
  | @fraction _ whole digits _ full inside full' inside' stops =>
    have ends : endsWithWord (whole ++ '.' :: digits) = true := by
      rw [endsWithWord_append (List.cons_ne_nil '.' digits), ← List.singleton_append,
        endsWithWord_append full', endsWithWord_of_inside full' (digits_word inside')]
    obtain ⟨c, cs, rfl⟩ := List.exists_cons_of_ne_nil full
    exact .word (digits_word inside c (List.mem_cons_self ..)) ends stops (by decide)
  | @word _ lexeme _ full inside stops =>
    refine wordLike full inside stops ?_
    unfold Token.wordKind
    split <;> decide
  | @single _ _ c =>
    have unread : ¬ Rule.word.Applies phrases before (c :: after) := idle .word (by decide)
    rw [Rule.word_applies_iff table] at unread
    exact .single (by simpa using unread)

/-- Word characters never stand on both sides of the end of a token. -/
theorem Obeys.apart (table : Phrase.Table phrases) (obeys : Obeys phrases before t after)
    (ends : endsWithWord t.text = true) : startsWithWord after = false := by
  cases obeys.form table with
  | word letter ends' stops => exact stops
  | @single c mark =>
    have other : endsWithWord [c] = isWordChar c := endsWithWord_concat [] c
    rw [other, mark] at ends
    cases ends
  | @closed kind first last body opens closes =>
    have other := endsWithWord_concat (first :: body) last
    rw [List.cons_append] at other
    rw [other] at ends
    simp only [closers, List.mem_cons, List.not_mem_nil, or_false] at closes
    rcases closes with rfl | rfl | rfl | rfl | rfl <;> cases ends
  | opened opens none => rw [none]; rfl

theorem visible_of_opener {c : Char} (opens : c ∈ openers) : isBlank c = false := by
  simp only [openers, List.mem_cons, List.not_mem_nil, or_false] at opens
  rcases opens with rfl | rfl | rfl | rfl | rfl <;> decide

/-- A token other than a gap begins with a character that can be seen. -/
theorem Obeys.visible (table : Phrase.Table phrases) (obeys : Obeys phrases before t after)
    (solid : t.isGap = false) {c : Char} (first : t.text.head? = some c) : isBlank c = false := by
  cases obeys.form table with
  | word letter =>
    cases first
    exact not_isBlank_of_isWordChar letter
  | single mark =>
    cases first
    cases blank : isBlank c with
    | false => rfl
    | true =>
      rw [if_neg (by simp [not_isPunctuation_of_isBlank blank])] at solid
      rw [Token.isGap_iff.2 ⟨c, blank, rfl⟩] at solid
      cases solid
  | closed opens =>
    cases first
    exact visible_of_opener opens
  | opened opens =>
    cases first
    exact visible_of_opener opens

/-- A token other than a gap that is not the last one ends in no space or tab. -/
theorem Obeys.last (table : Phrase.Table phrases) (obeys : Obeys phrases before t after)
    (solid : t.isGap = false) (more : after ≠ []) :
    t.text.getLast?.any (fun c => c == ' ' || c == '\t') = false := by
  have seen {c : Char} (visible : isBlank c = false) : (c == ' ' || c == '\t') = false := by
    have space : c ≠ ' ' := by rintro rfl; cases visible
    have tab : c ≠ '\t' := by rintro rfl; cases visible
    simp [space, tab]
  have visible {c : Char} (first : t.text.head? = some c) : isBlank c = false :=
    obeys.visible table solid first
  cases obeys.form table with
  | @word kind c cs letter ends =>
    rw [endsWithWord] at ends
    cases last : (c :: cs).getLast? with
    | none => rfl
    | some d =>
      rw [last] at ends
      exact seen (not_isBlank_of_isWordChar ends)
  | single mark => exact seen (visible rfl)
  | @closed kind first last body opens closes =>
    have ends : ((first :: body) ++ [last]).getLast? = some last := List.getLast?_concat
    rw [List.cons_append] at ends
    rw [ends]
    simp only [closers, List.mem_cons, List.not_mem_nil, or_false] at closes
    rcases closes with rfl | rfl | rfl | rfl | rfl <;> rfl
  | opened opens none => exact absurd none more

/-- A closed token can be seen but not looked through. -/
theorem Obeys.glance_closed (table : Phrase.Table phrases) (obeys : Obeys phrases before t after)
    (solid : t.isGap = false) (closed : endsWithWord t.text = false) :
    ∃ c, ∀ y : Text, (t.text = ['.'] → y.head?.any Char.isDigit = false) →
      glance (t.text ++ y) = [c] := by
  have visible {c : Char} (first : t.text.head? = some c) : isBlank c = false :=
    obeys.visible table solid first
  have point {c : Char} (opens : c ∈ openers) : c ≠ '.' := by
    rintro rfl
    exact absurd opens (by decide)
  cases obeys.form table with
  | word letter ends =>
    rw [ends] at closed
    cases closed
  | @single c mark =>
    refine ⟨c, fun y bare => glance_mark (visible rfl) mark fun same => bare ?_⟩
    rw [same]
  | @closed kind first last body opens =>
    exact ⟨first, fun y _ => glance_mark (visible rfl) (not_isWordChar_of_opener opens)
      fun same => absurd same (point opens)⟩
  | @opened kind first body opens =>
    exact ⟨first, fun y _ => glance_mark (visible rfl) (not_isWordChar_of_opener opens)
      fun same => absurd same (point opens)⟩

/-- What stands before a token matters for words only. -/
theorem Obeys.after_any (table : Phrase.Table phrases) {before' : Text}
    (same : endsWithWord before = endsWithWord before' ∨ startsWithWord t.text = false)
    (obeys : Obeys phrases before t after) : Obeys phrases before' t after := by
  have full := obeys.ne_nil table
  rw [obeys_iff_cut? table] at obeys ⊢
  rw [← obeys]
  rcases same with same | other
  · rw [same]
  · obtain ⟨c, cs, shape⟩ := List.exists_cons_of_ne_nil full
    have mark : isWordChar c = false := by
      rw [shape] at other
      exact other
    have alpha := not_isAlpha_of_not_isWordChar mark
    simp only [shape, Token.cut?, Token.phrase?, List.cons_append, alpha, Bool.false_and]

/-- Whether each token stands before the rest of them. -/
def Stands (phrases : List Phrase) : List Token → Prop
  | [] => True
  | t :: ts => Obeys phrases [] t (Token.concat ts) ∧ Stands phrases ts

theorem startsWithWord_append {front : Text} (full : front ≠ []) (back : Text) :
    startsWithWord (front ++ back) = startsWithWord front := by
  obtain ⟨c, cs, rfl⟩ := List.exists_cons_of_ne_nil full
  rfl

/-- Tokens read a text if each stands before the rest, whatever no word of theirs continues. -/
theorem reads_iff_stands (table : Phrase.Table phrases) {tokens : List Token}
    (begins : endsWithWord before = true → startsWithWord (Token.concat tokens) = false) :
    Reads phrases before tokens ↔ Stands phrases tokens := by
  induction tokens generalizing before with
  | nil => exact Iff.rfl
  | cons t ts ih =>
    have first (full : t.text ≠ []) :
        endsWithWord before = endsWithWord [] ∨ startsWithWord t.text = false := by
      cases ends : endsWithWord before with
      | false => exact .inl rfl
      | true =>
        have other := begins ends
        rw [Token.concat, List.flatMap_cons, startsWithWord_append full] at other
        exact .inr other
    have next {b : Text} (obeys : Obeys phrases b t (Token.concat ts)) :
        endsWithWord (before ++ t.text) = true → startsWithWord (Token.concat ts) = false := by
      rw [endsWithWord_append (obeys.ne_nil table)]
      exact obeys.apart table
    constructor
    · rintro ⟨obeys, rest⟩
      exact ⟨obeys.after_any table (first (obeys.ne_nil table)), (ih (next obeys)).1 rest⟩
    · rintro ⟨obeys, rest⟩
      have first := first (obeys.ne_nil table)
      exact ⟨obeys.after_any table (first.imp_left Eq.symm), (ih (next obeys)).2 rest⟩

theorem Token.split_eq_iff_stands {source : Text} {tokens : List Token} :
    split source = tokens ↔ concat tokens = source ∧ Stands Phrase.all tokens := by
  rw [split_eq_iff, reads_iff_stands Phrase.table_all]
  intro ends
  cases ends

theorem Stands.rest {front back : List Token} (stands : Stands phrases (front ++ back)) :
    Stands phrases back := by
  induction front with
  | nil => exact stands
  | cons t ts ih => exact ih stands.2

/-- The first tokens stand before any others that look alike. -/
theorem Stands.carry_front (table : Phrase.Table phrases) {front back back' : List Token}
    (stands : Stands phrases (front ++ back))
    (same : glance (Token.concat back) = glance (Token.concat back'))
    (stands' : Stands phrases back') : Stands phrases (front ++ back') := by
  induction front with
  | nil => exact stands'
  | cons t ts ih =>
    have look : glance (Token.concat (ts ++ back)) = glance (Token.concat (ts ++ back')) := by
      rw [Token.concat_append, Token.concat_append]
      exact glance_congr same _
    exact ⟨stands.1.alike table look, ih stands.2⟩

/-- No word goes on from one token into the next. -/
theorem Stands.apart (table : Phrase.Table phrases) {front back : List Token}
    (stands : Stands phrases (front ++ back)) (ends : endsWithWord (Token.concat front) = true) :
    startsWithWord (Token.concat back) = false := by
  rcases List.eq_nil_or_concat front with rfl | ⟨init, last, rfl⟩
  · cases ends
  · rw [List.concat_eq_append, List.append_assoc] at stands
    obtain ⟨obeys, -⟩ := stands.rest
    have text : Token.concat [last] = last.text := List.append_nil _
    rw [List.concat_eq_append, Token.concat_append, text,
      endsWithWord_append (obeys.ne_nil table)] at ends
    exact obeys.apart table ends

theorem Token.split_rest {source : Text} {front back : List Token}
    (divided : split source = front ++ back) : split (concat back) = back := by
  obtain ⟨-, stands⟩ := split_eq_iff_stands.1 divided
  exact split_eq_iff_stands.2 ⟨rfl, stands.rest⟩

theorem Obeys.mark (table : Phrase.Table phrases) (obeys : Obeys phrases before t after)
    (closed : endsWithWord t.text = false) :
    ∃ c cs, t.text = c :: cs ∧ isWordChar c = false := by
  cases obeys.form table with
  | word letter ends =>
    rw [ends] at closed
    cases closed
  | @single c mark => exact ⟨c, [], rfl, mark⟩
  | @closed kind first last body opens =>
    exact ⟨first, body ++ [last], rfl, not_isWordChar_of_opener opens⟩
  | @opened kind first body opens => exact ⟨first, body, rfl, not_isWordChar_of_opener opens⟩

theorem Rule.Takes.before_any {rule : Rule} {after' : Text}
    (taken : rule.Takes phrases before t after)
    (wordless : ¬ (rule = .phrase ∨ rule = .number ∨ rule = .word)) (more : after ≠ [])
    (visible : t.text.getLast? = some '\n' ∨ ∀ c, after'.head? = some c → isBlank c = true) :
    rule.Takes phrases before t after' := by
  cases taken with
  | lineComment first => exact .lineComment first
  | blockComment first => exact .blockComment first
  | @string _ body _ quote quoted closes =>
    refine .string quoted ⟨closes.1, fun again => ?_⟩
    rcases visible with line | blank
    · have last : ((quote :: body) ++ [quote]).getLast? = some quote := List.getLast?_concat
      rw [← List.cons_append, last] at line
      cases line
      rcases quoted with same | same <;> cases same
    · have blank := blank quote again
      rcases quoted with rfl | rfl <;> cases blank
  | quotedIdentifier first => exact .quotedIdentifier first
  | lineCommentToEnd => exact absurd rfl more
  | blockCommentToEnd => exact absurd rfl more
  | stringToEnd => exact absurd rfl more
  | quotedIdentifierToEnd => exact absurd rfl more
  | phrase => exact absurd (.inl rfl) wordless
  | wholeNumber => exact absurd (.inr (.inl rfl)) wordless
  | fraction => exact absurd (.inr (.inl rfl)) wordless
  | word => exact absurd (.inr (.inr rfl)) wordless
  | single => exact .single

/-- A token that does not end in a word can be followed by blanks, and a line by anything. -/
theorem Obeys.before_any (table : Phrase.Table phrases) {after' : Text}
    (obeys : Obeys phrases before t after) (closed : endsWithWord t.text = false)
    (more : after ≠ [])
    (visible : t.text.getLast? = some '\n' ∨ ∀ c, after'.head? = some c → isBlank c = true) :
    Obeys phrases before t after' := by
  obtain ⟨c, cs, shape, mark⟩ := obeys.mark table closed
  obtain ⟨rule, taken, idle⟩ := obeys
  have wordless : ¬ (rule = .phrase ∨ rule = .number ∨ rule = .word) := by
    intro among
    have applies : rule.Applies phrases before (c :: (cs ++ after)) :=
      ⟨t, after, by rw [shape, List.cons_append], taken⟩
    exact Rule.not_applies_of_mark table mark among applies
  refine ⟨rule, taken.before_any wordless more visible, fun e member applies => idle e member ?_⟩
  rw [shape, List.cons_append] at applies ⊢
  refine applies.carry table (fun d other comment first => ?_) (fun letter => ?_)
  · cases cs with
    | cons d ds => exact first
    | nil =>
      -- A token of one character sees what follows it: a blank opens no comment with it.
      rw [shape] at visible
      rcases visible with line | blank
      · cases line
        rcases comment with same | same <;> cases same
      · rw [blank d first] at other
        cases other
  · rw [mark] at letter
    cases letter

end QueryDesk.Sql
