import QueryDesk.Text.Blank
import QueryDesk.Sql.Keyword

/-!
# Tokens

A token is a piece of SQL text with its class. This module cuts the first token off a text by
rules tried in order: comment, string, quoted identifier, phrase, number, word, single character.
None of them fails: what is opened and not closed runs to the end. `cut_covers` says that a token
and the rest are the text again, and that a token is never empty.
-/

set_option autoImplicit false

namespace QueryDesk.Sql

open Text

inductive TokenKind where
  /-- Dashes to the end of the line, its line feed included, or a bracketed comment. -/
  | comment
  /-- Text between single or double quotes, where a doubled quote stands for itself. -/
  | string
  /-- Text between backquotes. -/
  | quotedIdentifier
  /-- Several reserved words that read as one. -/
  | keywordPhrase
  | keyword
  /-- Digits, with a fraction or without. -/
  | number
  /-- One ASCII punctuation character. -/
  | punctuation
  /-- A word that is not reserved, or any other character. -/
  | plain
  deriving DecidableEq, Repr

structure Token where
  kind : TokenKind
  text : Text
  deriving DecidableEq, Repr

namespace Token

def backquote : Char := '\x60'

def isSemicolon (t : Token) : Bool := t.kind == .punctuation && t.text == [';']

/-- Comments and blank text have no part in a statement. -/
def isSignificant (t : Token) : Bool :=
  match t.kind with
  | .comment => false
  | .plain => !allBlank t.text
  | _ => true

/-- The text through the end of a bracketed comment, and the rest. -/
def throughClose : Text → Text × Text
  | '*' :: '/' :: cs => (['*', '/'], cs)
  | c :: cs => extend [c] (throughClose cs)
  | [] => ([], [])

/-- The text through the first `quote` that is not doubled, and the rest. -/
def throughQuote (quote : Char) : Text → Text × Text
  | [] => ([], [])
  | [c] => ([c], [])
  | c :: d :: cs =>
    if c = quote then
      if d = quote then extend [c, d] (throughQuote quote cs) else ([c], d :: cs)
    else extend [c] (throughQuote quote (d :: cs))

/-- The given upper-case word at the front, in any case, and the rest. -/
def takeWord? : Text → Text → Option (Text × Text)
  | [], t => some ([], t)
  | _ :: _, [] => none
  | w :: ws, c :: cs => if c.toUpper = w then (takeWord? ws cs).map (extend [c]) else none

/-- The words of a phrase at the front, with blanks between them, and the rest. -/
def takeWords? : Phrase → Text → Option (Text × Text)
  | [], t => some ([], t)
  | [w], t => takeWord? w t
  | w :: ws, t =>
    (takeWord? w t).bind fun first =>
      if (first.2.takeWhile isBlank).isEmpty then none
      else (takeWords? ws (first.2.dropWhile isBlank)).map
        (extend (first.1 ++ first.2.takeWhile isBlank))

/-- A phrase at the front, not empty, that no further word character continues. -/
def takePhrase? (p : Phrase) (t : Text) : Option (Text × Text) :=
  (takeWords? p t).filter fun r => !r.1.isEmpty && !startsWithWord r.2

/-- A point with the digits that follow it, if there are any. -/
def takeFraction : Text → Text × Text
  | '.' :: cs =>
    if (cs.takeWhile Char.isDigit).isEmpty then ([], '.' :: cs)
    else ('.' :: cs.takeWhile Char.isDigit, cs.dropWhile Char.isDigit)
  | t => ([], t)

/-- Digits at the front, with their fraction. -/
def takeNumber (t : Text) : Text × Text :=
  extend (t.takeWhile Char.isDigit) (takeFraction (t.dropWhile Char.isDigit))

def ofParts (kind : TokenKind) (parts : Text × Text) : Token × Text := (⟨kind, parts.1⟩, parts.2)

def lineComment? : Text → Option (Token × Text)
  | '-' :: '-' :: cs => some (ofParts .comment (extend ['-', '-'] (through (· == '\n') cs)))
  | _ => none

def blockComment? : Text → Option (Token × Text)
  | '/' :: '*' :: cs => some (ofParts .comment (extend ['/', '*'] (throughClose cs)))
  | _ => none

def string? : Text → Option (Token × Text)
  | [] => none
  | c :: cs =>
    if c = '\'' ∨ c = '"' then some (ofParts .string (extend [c] (throughQuote c cs))) else none

def quotedIdentifier? : Text → Option (Token × Text)
  | [] => none
  | c :: cs =>
    if c = backquote then
      some (ofParts .quotedIdentifier (extend [c] (through (· == backquote) cs)))
    else none

/-- The first phrase of the table that stands at the front, unless a word leads into it. -/
def phrase? (phrases : List Phrase) (afterWord : Bool) : Text → Option (Token × Text)
  | [] => none
  | c :: cs =>
    if c.isAlpha && !afterWord then
      (phrases.findSome? fun p => takePhrase? p (c :: cs)).map (ofParts .keywordPhrase)
    else none

/-- A number that no word character continues. -/
def number? : Text → Option (Token × Text)
  | [] => none
  | c :: cs =>
    if c.isDigit && !startsWithWord (takeNumber (c :: cs)).2 then
      some (ofParts .number (takeNumber (c :: cs)))
    else none

def wordKind (word : Text) : TokenKind := if isReserved (upper word) then .keyword else .plain

def word? : Text → Option (Token × Text)
  | [] => none
  | c :: cs =>
    if isWordChar c then
      some (⟨wordKind (c :: cs.takeWhile isWordChar), c :: cs.takeWhile isWordChar⟩,
        cs.dropWhile isWordChar)
    else none

def single? : Text → Option (Token × Text)
  | [] => none
  | c :: cs => some (⟨if isPunctuation c then .punctuation else .plain, [c]⟩, cs)

/-- The first token of a text, and the rest. `afterWord` tells whether a word character precedes. -/
def cut? (phrases : List Phrase) (afterWord : Bool) (t : Text) : Option (Token × Text) :=
  lineComment? t <|> blockComment? t <|> string? t <|> quotedIdentifier? t <|>
    phrase? phrases afterWord t <|> number? t <|> word? t <|> single? t

/-- What a cut gives back: a token that is not empty, and with the rest the whole text. -/
def Covers (t : Text) (r : Token × Text) : Prop := r.1.text ≠ [] ∧ r.1.text ++ r.2 = t

theorem throughClose_append (t : Text) : (throughClose t).1 ++ (throughClose t).2 = t := by
  fun_induction throughClose t <;> simp_all

theorem throughQuote_append (q : Char) (t : Text) :
    (throughQuote q t).1 ++ (throughQuote q t).2 = t := by
  fun_induction throughQuote q t <;> simp_all

theorem takeWord?_append {w t : Text} {r : Text × Text} (found : takeWord? w t = some r) :
    r.1 ++ r.2 = t := by
  induction w generalizing t r with
  | nil => cases found; rfl
  | cons w ws ih =>
    cases t with
    | nil => cases found
    | cons c cs =>
      rw [takeWord?] at found
      split at found
      · obtain ⟨s, hs, rfl⟩ := Option.map_eq_some_iff.1 found
        simp [ih hs]
      · cases found

theorem takeWords?_append {p : Phrase} {t : Text} {r : Text × Text}
    (found : takeWords? p t = some r) : r.1 ++ r.2 = t := by
  fun_induction takeWords? p t generalizing r with
  | case1 t => cases found; rfl
  | case2 w t => exact takeWord?_append found
  | case3 w ws t more ih =>
    obtain ⟨first, hfirst, tail⟩ := Option.bind_eq_some_iff.1 found
    split at tail
    · cases tail
    · obtain ⟨s, hs, rfl⟩ := Option.map_eq_some_iff.1 tail
      rw [extend_append, ih first hs, List.append_assoc, List.takeWhile_append_dropWhile]
      exact takeWord?_append hfirst

theorem takePhrase?_append {p : Phrase} {t : Text} {r : Text × Text}
    (found : takePhrase? p t = some r) : r.1 ++ r.2 = t :=
  takeWords?_append (Option.filter_eq_some_iff.1 found).1

theorem takeFraction_append (t : Text) : (takeFraction t).1 ++ (takeFraction t).2 = t := by
  unfold takeFraction
  split
  · split <;> simp
  · rfl

theorem takeNumber_append (t : Text) : (takeNumber t).1 ++ (takeNumber t).2 = t := by
  rw [takeNumber, extend_append, takeFraction_append, List.takeWhile_append_dropWhile]

/-- A cut that begins with a known character covers the text once its parts do. -/
theorem covers_ofParts {kind : TokenKind} {c : Char} {front : Text} {t : Text}
    {parts : Text × Text} (whole : c :: front ++ (parts.1 ++ parts.2) = t) :
    Covers t (ofParts kind (extend (c :: front) parts)) := by
  refine ⟨by simp [ofParts, extend], ?_⟩
  simpa [ofParts, extend] using whole

theorem lineComment?_covers {t : Text} {r : Token × Text} (found : lineComment? t = some r) :
    Covers t r := by
  unfold lineComment? at found
  split at found
  · cases found
    exact covers_ofParts (by simp [through_append])
  · cases found

theorem blockComment?_covers {t : Text} {r : Token × Text} (found : blockComment? t = some r) :
    Covers t r := by
  unfold blockComment? at found
  split at found
  · cases found
    exact covers_ofParts (by simp [throughClose_append])
  · cases found

theorem string?_covers {t : Text} {r : Token × Text} (found : string? t = some r) :
    Covers t r := by
  cases t with
  | nil => cases found
  | cons c cs =>
    rw [string?] at found
    split at found
    · cases found
      exact covers_ofParts (by simp [throughQuote_append])
    · cases found

theorem quotedIdentifier?_covers {t : Text} {r : Token × Text}
    (found : quotedIdentifier? t = some r) : Covers t r := by
  cases t with
  | nil => cases found
  | cons c cs =>
    rw [quotedIdentifier?] at found
    split at found
    · cases found
      exact covers_ofParts (by simp [through_append])
    · cases found

theorem single?_covers {t : Text} {r : Token × Text} (found : single? t = some r) :
    Covers t r := by
  cases t with
  | nil => cases found
  | cons c cs => cases found; exact ⟨by simp, rfl⟩

theorem word?_covers {t : Text} {r : Token × Text} (found : word? t = some r) : Covers t r := by
  cases t with
  | nil => cases found
  | cons c cs =>
    rw [word?] at found
    split at found
    · cases found
      exact ⟨by simp, by simp⟩
    · cases found

theorem number?_covers {t : Text} {r : Token × Text} (found : number? t = some r) :
    Covers t r := by
  cases t with
  | nil => cases found
  | cons c cs =>
    rw [number?] at found
    split at found
    · rename_i digits
      cases found
      have digit : c.isDigit = true := by simp_all
      exact ⟨by simp [ofParts, takeNumber, extend, digit], takeNumber_append _⟩
    · cases found

theorem phrase?_covers {phrases : List Phrase} {afterWord : Bool} {t : Text} {r : Token × Text}
    (found : phrase? phrases afterWord t = some r) : Covers t r := by
  cases t with
  | nil => cases found
  | cons c cs =>
    rw [phrase?] at found
    split at found
    · obtain ⟨parts, hparts, rfl⟩ := Option.map_eq_some_iff.1 found
      obtain ⟨p, -, hp⟩ := List.exists_of_findSome?_eq_some hparts
      have full : parts.1 ≠ [] := by
        have := (Option.filter_eq_some_iff.1 hp).2
        simp_all
      exact ⟨full, takePhrase?_append hp⟩
    · cases found

theorem cut_covers {phrases : List Phrase} {afterWord : Bool} {t : Text} {r : Token × Text}
    (found : cut? phrases afterWord t = some r) : Covers t r := by
  simp only [cut?, Option.orElse_eq_orElse, Option.orElse_eq_or, Option.or_eq_some_iff] at found
  rcases found with h | ⟨-, h | ⟨-, h | ⟨-, h | ⟨-, h | ⟨-, h | ⟨-, h | ⟨-, h⟩⟩⟩⟩⟩⟩⟩
  · exact lineComment?_covers h
  · exact blockComment?_covers h
  · exact string?_covers h
  · exact quotedIdentifier?_covers h
  · exact phrase?_covers h
  · exact number?_covers h
  · exact word?_covers h
  · exact single?_covers h

theorem cut_length {phrases : List Phrase} {afterWord : Bool} {t : Text} {r : Token × Text}
    (found : cut? phrases afterWord t = some r) : r.2.length < t.length := by
  obtain ⟨full, whole⟩ := cut_covers found
  have := List.length_pos_iff.2 full
  rw [← whole, List.length_append]
  omega

/-- The tokens of a text in order, with the phrases of a given table. -/
def splitAfter (phrases : List Phrase) (afterWord : Bool) (t : Text) : List Token :=
  match _found : cut? phrases afterWord t with
  | none => []
  | some (token, rest) => token :: splitAfter phrases (endsWithWord token.text) rest
  termination_by t.length
  decreasing_by exact cut_length _found

/-- The tokens of a text in order. -/
def split (t : Text) : List Token := splitAfter Phrase.all false t

end Token

end QueryDesk.Sql
