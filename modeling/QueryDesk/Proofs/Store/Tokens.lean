import QueryDesk.Store.Statement
import QueryDesk.Proofs.Tokens.Wordwise

/-!
# Tokens of statements

A store puts the parts of each name together (`joined`), on both sides of a seam that no name
crosses (`joined_append`). Names, marks, spaces and closed comments are read again as what they are,
whatever follows them, if only a name ends where it is followed by something else (`joined_regular`).
-/

set_option autoImplicit false

namespace QueryDesk.Store.Statement

open Text Sql

/-- The characters of a name. -/
def isNameChar (c : Char) : Bool := isWordChar c || c == '$' || 128 ≤ c.toNat

/-- The tokens with the parts of each name put together. -/
def joined (ts : List Token) : List Token := ts.foldr joinName []

variable {t : Token} {ts us : List Token}

theorem isNamePart_plain (text : Text) : isNamePart ⟨.plain, text⟩ = text.all isNameChar := rfl

theorem all_isNameChar (part : isNamePart t = true) : t.text.all isNameChar = true := by
  unfold isNamePart at part
  split at part
  any_goals exact part
  cases part

theorem isNamePart_append {u : Token} (part : isNamePart t = true) (part' : isNamePart u = true) :
    isNamePart ⟨.plain, t.text ++ u.text⟩ = true := by
  rw [isNamePart_plain, List.all_append, all_isNameChar part, all_isNameChar part']
  rfl

theorem joined_cons (t : Token) (ts : List Token) : joined (t :: ts) = joinName t (joined ts) := rfl

theorem joinName_apart (apart : isNamePart t = false ∨ us.head?.any isNamePart = false) :
    joinName t us = t :: us := by
  cases us with
  | nil => rfl
  | cons u us =>
    rw [joinName, if_neg]
    intro both
    obtain ⟨part, part'⟩ := Bool.and_eq_true_iff.1 both
    rcases apart with apart | apart
    · rw [part] at apart
      cases apart
    · rw [List.head?_cons, Option.any_some, part'] at apart
      cases apart

theorem joinName_append (full : us ≠ []) (vs : List Token) :
    joinName t (us ++ vs) = joinName t us ++ vs := by
  obtain ⟨u, us, rfl⟩ := List.exists_cons_of_ne_nil full
  rw [List.cons_append, joinName, joinName]
  split <;> rfl

theorem joinName_ne_nil (t : Token) (us : List Token) : joinName t us ≠ [] := by
  cases us with
  | nil => exact List.cons_ne_nil t []
  | cons u us =>
    rw [joinName]
    split <;> exact List.cons_ne_nil _ _

/-- Whether a name stands in front is the same before and after joining. -/
theorem head?_joined (ts : List Token) :
    (joined ts).head?.any isNamePart = ts.head?.any isNamePart := by
  cases ts with
  | nil => rfl
  | cons t ts =>
    rw [joined_cons]
    cases joined ts with
    | nil => rfl
    | cons u us =>
      rw [joinName]
      split
      case isTrue both =>
        obtain ⟨part, part'⟩ := Bool.and_eq_true_iff.1 both
        exact (isNamePart_append part part').trans part.symm
      case isFalse => rfl

/-- No name goes over the seam between the tokens. -/
def Seam (ts us : List Token) : Prop :=
  ts.getLast?.any isNamePart = false ∨ us.head?.any isNamePart = false

theorem joined_append (seam : Seam ts us) : joined (ts ++ us) = joined ts ++ joined us := by
  induction ts with
  | nil => rfl
  | cons t ts ih =>
    cases ts with
    | nil => exact joinName_apart (seam.imp_right (head?_joined us).trans)
    | cons v vs =>
      have rest := ih (seam.imp_left fun apart => by rwa [List.getLast?_cons_cons] at apart)
      rw [List.cons_append, joined_cons, rest, joined_cons v vs,
        joinName_append (joinName_ne_nil v _), ← joined_cons, ← joined_cons]

/-- A name begins with neither a digit nor a dollar sign, and with no blank. -/
structure Name (text : Text) : Prop where
  chars : ∀ c ∈ text, isNameChar c = true
  begins : ∃ c cs, text = c :: cs ∧ isBlank c = false ∧ c.isDigit = false ∧ c ≠ '$'

/-- What ends a name: no character of a name, and no point, which could go on with its digits. -/
def Stops (after : Text) : Prop := ∀ c, after.head? = some c → isNameChar c = false ∧ c ≠ '.'

theorem isNameChar_of_isWordChar {c : Char} (letter : isWordChar c = true) :
    isNameChar c = true := by
  rw [isNameChar, letter]
  rfl

theorem isNameChar_of_isAlphanumeric {c : Char} (letter : isAlphanumeric c = true) :
    isNameChar c = true := by
  rw [isAlphanumeric, Bool.or_eq_true, Bool.and_eq_true] at letter
  rcases letter with ascii | ⟨beyond, -⟩
  · exact isNameChar_of_isWordChar (by simp [isWordChar, ascii])
  · simp [isNameChar, of_decide_eq_true beyond]

theorem Stops.word {after : Text} (stops : Stops after) : startsWithWord after = false := by
  cases after with
  | nil => rfl
  | cons c cs =>
    refine Bool.eq_false_iff.2 fun letter => ?_
    have none := (stops c rfl).1
    rw [isNameChar_of_isWordChar letter] at none
    cases none

/-- What begins a run of characters of names, with such characters only, lies within it. -/
theorem within_name {text after front rest : Text} (chars : ∀ c ∈ front, isNameChar c = true)
    (stops : Stops after) (same : front ++ rest = text ++ after) :
    ∃ more, text = front ++ more ∧ rest = more ++ after := by
  rcases List.append_eq_append_iff.1 same with ⟨more, rfl, shape⟩ | ⟨more, rfl, shape⟩
  · exact ⟨more, rfl, shape⟩
  · cases more with
    | nil => exact ⟨[], by simp, by simpa using shape.symm⟩
    | cons c cs =>
      have inside := chars c (List.mem_append_right _ List.mem_cons_self)
      rw [(stops c (by rw [shape]; rfl)).1] at inside
      cases inside

theorem not_opener_of_isNameChar {c : Char} (name : isNameChar c = true) : c ∉ openers := by
  intro opens
  simp only [openers, List.mem_cons, List.not_mem_nil, or_false] at opens
  rcases opens with rfl | rfl | rfl | rfl | rfl <;> cases name

/-- The first token of a run of characters of names. -/
theorem obeys_name {c : Char} {cs after : Text} (chars : ∀ d ∈ c :: cs, isNameChar d = true)
    (stops : Stops after) {u : Token} {rest : Text} (same : u.text ++ rest = c :: cs ++ after)
    (obeys : Obeys [] [] u rest) :
    (∃ more, c :: cs = u.text ++ more ∧ rest = more ++ after) ∧ isNamePart u = true ∧
      (u.text.all isWordChar = true ∨
        u = ⟨if isPunctuation c then .punctuation else .plain, [c]⟩) := by
  have closed := not_opener_of_isNameChar (chars c List.mem_cons_self)
  have opener {d : Char} {ds : Text} (text : u.text = d :: ds) : d ∉ openers := by
    rw [text] at same
    exact (List.cons.inj same).1 ▸ closed
  have wordy (inside : ∀ d ∈ u.text, isWordChar d = true) :
      (∃ more, c :: cs = u.text ++ more ∧ rest = more ++ after) ∧
        u.text.all isNameChar = true ∧ u.text.all isWordChar = true :=
    have names : ∀ d ∈ u.text, isNameChar d = true :=
      fun d member => isNameChar_of_isWordChar (inside d member)
    ⟨within_name names stops same, List.all_eq_true.2 names, List.all_eq_true.2 inside⟩
  obtain ⟨rule, taken, -⟩ := obeys
  cases taken with
  | lineComment => exact absurd (by decide) (opener rfl)
  | lineCommentToEnd => exact absurd (by decide) (opener rfl)
  | blockComment => exact absurd (by decide) (opener rfl)
  | blockCommentToEnd => exact absurd (by decide) (opener rfl)
  | string quote => exact absurd (by rcases quote with rfl | rfl <;> decide) (opener rfl)
  | stringToEnd quote => exact absurd (by rcases quote with rfl | rfl <;> decide) (opener rfl)
  | quotedIdentifier => exact absurd (by decide) (opener rfl)
  | quotedIdentifierToEnd => exact absurd (by decide) (opener rfl)
  | phrase member => cases member
  | wholeNumber full inside =>
    obtain ⟨lies, names, all⟩ := wordy fun d member => isWordChar_of_isDigit (inside d member)
    exact ⟨lies, names, .inl all⟩
  | @fraction _ whole digits _ full inside =>
    -- No point is in a name, and none comes after it.
    have names : ∀ d ∈ whole, isNameChar d = true :=
      fun d member => isNameChar_of_isWordChar (isWordChar_of_isDigit (inside d member))
    rw [List.append_assoc] at same
    obtain ⟨more, lies, point⟩ := within_name names stops same
    cases more with
    | nil =>
      rw [List.nil_append] at point
      exact absurd rfl (stops '.' (by rw [← point]; rfl)).2
    | cons d ds =>
      obtain ⟨rfl, -⟩ := List.cons.inj point
      cases chars '.' (lies ▸ List.mem_append_right _ List.mem_cons_self)
  | @word _ lexeme _ full inside =>
    obtain ⟨lies, names, all⟩ := wordy inside
    refine ⟨lies, ?_, .inl all⟩
    rw [Token.wordKind]
    split <;> exact names
  | @single _ _ d =>
    obtain ⟨rfl, rest⟩ := List.cons.inj same
    refine ⟨⟨cs, rfl, rest⟩, ?_, .inr rfl⟩
    have name := chars d List.mem_cons_self
    have one : List.all [d] isNameChar = true := by simp [name]
    split <;> exact one

/-- A run of characters of names is read as parts of a name. -/
theorem wordwise_run {text after : Text} (chars : ∀ c ∈ text, isNameChar c = true)
    (stops : Stops after) : ∃ parts, Token.wordwise (text ++ after) = parts ++ Token.wordwise after ∧
      Token.concat parts = text ∧ (∀ p ∈ parts, isNamePart p = true) ∧
      ∀ p, parts = [p] → text.all isWordChar = true ∨
        ∃ c, text = [c] ∧ p = ⟨if isPunctuation c then .punctuation else .plain, [c]⟩ := by
  induction size : text.length using Nat.strongRecOn generalizing text with
  | ind n ih =>
    subst size
    cases text with
    | nil => exact ⟨[], rfl, rfl, by simp, by simp⟩
    | cons c cs =>
      have whole := Token.concat_wordwise (c :: cs ++ after)
      have stands := Token.stands_wordwise (c :: cs ++ after)
      cases shape : Token.wordwise (c :: cs ++ after) with
      | nil =>
        rw [shape] at whole
        cases whole
      | cons u us =>
        rw [shape] at whole stands
        obtain ⟨⟨more, lies, rest⟩, part, form⟩ := obeys_name chars stops whole stands.1
        have full := stands.1.ne_nil Phrase.table_nil
        have tail : Token.wordwise (more ++ after) = us :=
          rest ▸ Token.wordwise_eq_iff.2 ⟨rfl, stands.2⟩
        have shorter : more.length < (c :: cs).length := by
          have := List.length_pos_iff.2 full
          rw [lies, List.length_append]
          omega
        have inside : ∀ d ∈ more, isNameChar d = true :=
          fun d member => chars d (lies ▸ List.mem_append_right _ member)
        obtain ⟨parts, read, text, all, -⟩ := ih _ shorter inside rfl
        refine ⟨u :: parts, ?_, ?_, List.forall_mem_cons.2 ⟨part, all⟩, fun p one => ?_⟩
        · rw [← tail, read, List.cons_append]
        · rw [lies, ← text]
          rfl
        · obtain ⟨rfl, rfl⟩ := List.cons.inj one
          obtain rfl : more = [] := text.symm
          rw [List.append_nil] at lies
          refine form.imp (fun all => lies ▸ all) fun same => ⟨c, ?_, same⟩
          rw [lies, same]

/-- Parts of a name are joined to one token. -/
theorem joined_parts {parts : List Token} (some : parts ≠ [])
    (all : ∀ p ∈ parts, isNamePart p = true) : ∃ x, joined parts = [x] ∧
      x.text = Token.concat parts ∧ isNamePart x = true ∧ (parts = [x] ∨ x.kind = .plain) := by
  induction parts with
  | nil => exact absurd rfl some
  | cons p ps ih =>
    obtain ⟨part, rest⟩ := List.forall_mem_cons.1 all
    cases ps with
    | nil => exact ⟨p, rfl, (List.append_nil p.text).symm, part, .inl rfl⟩
    | cons q qs =>
      obtain ⟨x, read, text, part', -⟩ := ih (List.cons_ne_nil q qs) rest
      refine ⟨⟨.plain, p.text ++ x.text⟩, ?_, ?_, isNamePart_append part part', .inr rfl⟩
      · rw [joined_cons, read, joinName, part, part']
        rfl
      · exact congrArg (p.text ++ ·) text

/-- The token that a name is read as. -/
def nameToken (text : Text) : Token :=
  ⟨if text.all isWordChar then Token.wordKind text else .plain, text⟩

theorem Stops.apart {after : Text} (stops : Stops after) :
    (Token.wordwise after).head?.any isNamePart = false := by
  cases shape : Token.wordwise after with
  | nil => rfl
  | cons u us =>
    have whole := Token.concat_wordwise after
    have stands := Token.stands_wordwise after
    rw [shape] at whole stands
    obtain ⟨c, cs, text⟩ := List.exists_cons_of_ne_nil (stands.1.ne_nil Phrase.table_nil)
    refine Bool.eq_false_iff.2 fun part => ?_
    have names := List.all_eq_true.1 (all_isNameChar part) c (by simp [text])
    rw [(stops c (by rw [← whole, Token.concat, List.flatMap_cons, text]; rfl)).1] at names
    cases names

/-- A character of a name that is neither a word character nor a dollar sign is plain. -/
theorem not_isPunctuation_of_isNameChar {c : Char} (name : isNameChar c = true)
    (wordless : isWordChar c = false) (dollar : c ≠ '$') : isPunctuation c = false := by
  have beyond : 128 ≤ c.toNat := by simpa [isNameChar, wordless, dollar] using name
  rw [Bool.eq_false_iff, ne_eq, isPunctuation_iff]
  omega

theorem joined_name {text after : Text} (name : Name text) (stops : Stops after) :
    joined (Token.wordwise (text ++ after)) = nameToken text :: joined (Token.wordwise after) := by
  obtain ⟨c, cs, rfl, -, digit, dollar⟩ := name.begins
  by_cases word : (c :: cs).all isWordChar = true
  · have one := Token.wordwise_cons (obeys_word (List.all_eq_true.1 word) digit stops.word)
    rw [nameToken, if_pos word, ← joinName_apart (.inr ?_)]
    · exact congrArg joined one
    · rw [head?_joined, stops.apart]
  · obtain ⟨parts, read, whole, all, form⟩ := wordwise_run name.chars stops
    have seam : Seam parts (Token.wordwise after) := .inr stops.apart
    have some : parts ≠ [] := by
      rintro rfl
      cases whole
    obtain ⟨x, joins, same, -, kind⟩ := joined_parts some all
    obtain ⟨k, text⟩ := x
    obtain rfl : text = c :: cs := same.trans whole
    have plain : k = .plain := by
      rcases kind with one | plain
      · obtain word' | ⟨d, one', token⟩ := form _ one
        · exact absurd word' word
        · obtain ⟨rfl, rfl⟩ := List.cons.inj one'
          have wordless : isWordChar c = false := by simpa using word
          have other := not_isPunctuation_of_isNameChar (name.chars c (by simp)) wordless dollar
          rw [other] at token
          exact congrArg Token.kind token
      · exact plain
    rw [read, joined_append seam, joins, plain, nameToken, if_neg word]
    rfl

theorem nameToken_kind (text : Text) : (nameToken text).kind = .keyword ∨
    (nameToken text).kind = .plain := by
  rw [nameToken]
  split
  · rw [Token.wordKind]
    split <;> simp
  · exact .inr rfl

theorem isNamePart_nameToken {text : Text} (name : Name text) :
    isNamePart (nameToken text) = true := by
  have names : text.all isNameChar = true := List.all_eq_true.2 name.chars
  obtain keyword | plain := nameToken_kind text
  · rw [isNamePart, keyword]
    exact names
  · rw [isNamePart, plain]
    exact names

theorem isSignificant_nameToken {text : Text} (name : Name text) :
    (nameToken text).isSignificant = true := by
  obtain ⟨c, cs, same, visible, -, -⟩ := name.begins
  have seen : allBlank text = false := by rw [same, allBlank, List.all_cons, visible]; rfl
  obtain keyword | plain := nameToken_kind text
  · rw [Token.isSignificant, keyword]
  · rw [Token.isSignificant, plain]
    change (!allBlank text) = true
    rw [seen]
    rfl

theorem name?_nameToken {text : Text} (name : Name text) : name? (nameToken text) = some text := by
  obtain ⟨c, cs, same, -, digit, dollar⟩ := name.begins
  rw [name?, isNamePart_nameToken name, if_pos]
  · rfl
  · change (true && !text.head?.any fun c => c.isDigit || c == '$') = true
    simp [same, digit, dollar]

def space : Token := ⟨.plain, [' ']⟩

def mark (c : Char) : Token := ⟨.punctuation, [c]⟩

/-- A closed comment. -/
def remark (body : Text) : Token := ⟨.comment, '/' :: '*' :: (body ++ ['*', '/'])⟩

inductive Part : Token → Prop
  | name {text : Text} : Name text → Part (nameToken text)
  | mark {c : Char} : isPunctuation c = true → isNameChar c = false → c ∉ openers → Part (mark c)
  | space : Part space
  | remark {body : Text} : ¬ ['*', '/'] <:+: body ++ ['*'] → Part (remark body)

/-- Parts of a statement before the text `after`. Where a name ends something else follows. -/
def Regular : List Token → Text → Prop
  | [], _ => True
  | t :: ts, after =>
    Part t ∧ (isNamePart t = true → Stops (Token.concat ts ++ after)) ∧ Regular ts after

theorem regular_append {ts us : List Token} {after : Text} :
    Regular (ts ++ us) after ↔ Regular ts (Token.concat us ++ after) ∧ Regular us after := by
  induction ts with
  | nil => exact (and_iff_right trivial).symm
  | cons t ts ih =>
    rw [List.cons_append, Regular, Regular, ih, Token.concat_append, List.append_assoc, and_assoc,
      and_assoc]

variable {after : Text}

theorem stops_nil : Stops [] := by
  intro c first
  cases first

theorem stops_cons {c : Char} (other : isNameChar c = false ∧ c ≠ '.') (cs : Text) :
    Stops (c :: cs) := by
  rintro d ⟨⟩
  exact other

theorem regular_name {text : Text} (named : Name text) (stops : Stops (Token.concat ts ++ after))
    (rest : Regular ts after) : Regular (nameToken text :: ts) after :=
  ⟨.name named, fun _ => stops, rest⟩

theorem regular_mark {c : Char} (punctuation : isPunctuation c = true)
    (apart : isNameChar c = false) (closed : c ∉ openers) (rest : Regular ts after) :
    Regular (mark c :: ts) after := by
  refine ⟨.mark punctuation apart closed, fun part => ?_, rest⟩
  change [c].all isNameChar = true at part
  simp [apart] at part

theorem regular_space (rest : Regular ts after) : Regular (space :: ts) after :=
  ⟨.space, fun part => absurd part (by decide), rest⟩

theorem regular_remark {body : Text} (first : ¬ ['*', '/'] <:+: body ++ ['*'])
    (rest : Regular ts after) : Regular (remark body :: ts) after := by
  have other : isNamePart (remark body) = false := rfl
  refine ⟨.remark first, fun part => ?_, rest⟩
  rw [other] at part
  cases part

theorem joined_part (part : Part t) (ends : isNamePart t = true → Stops after) :
    joined (Token.wordwise (t.text ++ after)) = t :: joined (Token.wordwise after) := by
  have alone {u : Token} (obeys : Obeys [] [] u after) (apart : isNamePart u = false) :
      joined (Token.wordwise (u.text ++ after)) = u :: joined (Token.wordwise after) := by
    rw [Token.wordwise_cons obeys, joined_cons, joinName_apart (.inl apart)]
  cases part with
  | name name => exact joined_name name (ends (isNamePart_nameToken name))
  | @mark c punctuation other closed =>
    have wordless : isWordChar c = false := by
      refine Bool.eq_false_iff.2 fun letter => ?_
      rw [isNameChar_of_isWordChar letter] at other
      cases other
    have obeys : Obeys [] [] _ after := obeys_mark closed wordless
    rw [if_pos punctuation] at obeys
    refine alone obeys ?_
    change [c].all isNameChar = false
    simp [other]
  | space => exact alone (obeys_blank Phrase.table_nil (by decide)) (by decide)
  | remark first =>
    refine alone ⟨.blockComment, .blockComment first, fun e earlier applies => ?_⟩ rfl
    obtain rfl : e = .lineComment := by simpa [Rule.earlier, Rule.all] using earlier
    exact absurd ((Rule.lineComment_applies_iff Phrase.table_nil).1 applies).1 (by decide)

/-- Parts of a statement are read again as what they are. -/
theorem joined_regular (regular : Regular ts after) :
    joined (Token.wordwise (Token.concat ts ++ after)) = ts ++ joined (Token.wordwise after) := by
  induction ts with
  | nil => rfl
  | cons t ts ih =>
    obtain ⟨part, ends, rest⟩ := regular
    rw [Token.concat, List.flatMap_cons, List.append_assoc, ← Token.concat, joined_part part ends,
      ih rest, List.cons_append]

theorem tokens_concat (regular : Regular ts []) : tokens (Token.concat ts) = ts := by
  have whole := joined_regular regular
  rw [List.append_nil, Token.wordwise_nil] at whole
  exact whole.trans (List.append_nil ts)

end QueryDesk.Store.Statement
