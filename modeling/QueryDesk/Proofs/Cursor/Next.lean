import QueryDesk.Sql.Layout
import QueryDesk.Sql.Markup
import QueryDesk.Proofs.Text.Encoding

/-!
# A cursor over octets

Spans read the way an octet cursor reads them. Inside comments and between quotes it moves one octet
at a time and is stopped by a single octet; gaps, words and single characters are read as text from
where it stands. Cutting a text at an offset fails inside a character and past the end, and looking
up an octet or cutting the octets fails past the end. A successful read says that all of these were
made where they can be.
-/

set_option autoImplicit false

namespace QueryDesk

/-- An offset at which a text or its octets cannot be cut. -/
structure BadOffset where
  offset : Nat
  deriving DecidableEq, Repr

namespace Text

/-- A text in two parts at an offset. -/
def cut : Text → Nat → Except BadOffset (Text × Text)
  | t, 0 => .ok ([], t)
  | [], n + 1 => .error ⟨n + 1⟩
  | c :: cs, n + 1 =>
    if c.utf8Size ≤ n + 1 then (cut cs (n + 1 - c.utf8Size)).map (extend [c])
    else .error ⟨n + 1⟩

/-- The text from an offset on. -/
def textFrom (t : Text) (start : Nat) : Except BadOffset Text := (cut t start).map Prod.snd

/-- The text between two offsets. -/
def textBetween (t : Text) (start stop : Nat) : Except BadOffset Text := do
  let front ← cut t stop
  textFrom front.1 start

end Text

namespace Sql.Cursor

open Text

def isWordByte (b : UInt8) : Bool := isWordChar (byteChar b)

def isDigitByte (b : UInt8) : Bool := (byteChar b).isDigit

/-- The octets from an offset on. -/
def octetsFrom (input : Bytes) (start : Nat) : Except BadOffset Bytes :=
  if start ≤ input.length then .ok (input.drop start) else .error ⟨start⟩

/-- Whether a word octet stands at an offset. -/
def wordAt (input : Bytes) (pos : Nat) : Bool := input[pos]?.any isWordByte

/-- Whether a word octet stands before an offset. -/
def precededByWord (input : Bytes) (pos : Nat) : Except BadOffset Bool :=
  if pos = 0 then .ok false
  else match input[pos - 1]? with
    | some b => .ok (isWordByte b)
    | none => .error ⟨pos - 1⟩

/-- How many octets there are through the first `stop`, or in all. -/
def widthThrough (stop : Char) : Bytes → Nat
  | [] => 0
  | b :: bs => if byteChar b = stop then 1 else 1 + widthThrough stop bs

/-- How many octets there are through the end of a bracketed comment, or in all. -/
def widthThroughClose : Bytes → Nat
  | [] => 0
  | b :: bs =>
    if byteChar b = '*' ∧ bs.head?.map byteChar = some '/' then 2 else 1 + widthThroughClose bs

/-- How many octets there are through the first `quote` that is not doubled, or in all. -/
def widthThroughQuote (quote : Char) : Bytes → Nat
  | [] => 0
  | [_] => 1
  | b :: d :: bs =>
    if byteChar b = quote then if byteChar d = quote then 2 + widthThroughQuote quote bs else 1
    else 1 + widthThroughQuote quote (d :: bs)

/-- Whether a word in capitals stands at the front in any case. -/
def spelled : Text → Bytes → Bool
  | [], _ => true
  | _ :: _, [] => false
  | w :: ws, b :: bs => (byteChar b).toUpper == w && spelled ws bs

/-- The end of a word that stands at an offset. -/
def wordEnd? (input : Bytes) (pos : Nat) (word : Text) : Option Nat :=
  if spelled word (input.drop pos) then some (pos + byteSize word) else none

/-- The end of the blanks at an offset, if there are any. -/
def gapEnd (source : Text) (pos : Nat) : Except BadOffset (Option Nat) := do
  let ahead ← textFrom source pos
  let gap := byteSize (ahead.takeWhile isBlank)
  return if gap = 0 then none else some (pos + gap)

/-- The end of words with gaps between them. -/
def wordsEnd (source : Text) : Phrase → Nat → Except BadOffset (Option Nat)
  | [], pos => .ok (some pos)
  | [w], pos => .ok (wordEnd? (encode source) pos w)
  | w :: ws, pos =>
    match wordEnd? (encode source) pos w with
    | none => .ok none
    | some stop => do
      match ← gapEnd source stop with
      | none => return none
      | some start => wordsEnd source ws start

/-- The end of a phrase at an offset, if no word octet continues it. -/
def phraseEnd (source : Text) (pos : Nat) (p : Phrase) : Except BadOffset (Option Nat) := do
  match ← wordsEnd source p pos with
  | none => return none
  | some stop => return if wordAt (encode source) stop then none else some stop

/-- The end of the first phrase of a table that stands at an offset. -/
def firstPhraseEnd (source : Text) (pos : Nat) : List Phrase → Except BadOffset (Option Nat)
  | [] => .ok none
  | p :: ps => do
    match ← phraseEnd source pos p with
    | some stop => return some stop
    | none => firstPhraseEnd source pos ps

/-- How many octets a point at an offset and the digits after it are, if there are any. -/
def fractionWidth (input : Bytes) (pos : Nat) : Except BadOffset Nat :=
  if input[pos]?.map byteChar = some '.' then do
    let digits := ((← octetsFrom input (pos + 1)).takeWhile isDigitByte).length
    return if 0 < digits then 1 + digits else 0
  else .ok 0

/-- The end of a number at an offset, if no word octet continues it. -/
def numberEnd (input : Bytes) (pos : Nat) : Except BadOffset (Option Nat) := do
  let whole := pos + ((← octetsFrom input pos).takeWhile isDigitByte).length
  let stop := whole + (← fractionWidth input whole)
  return if wordAt input stop then none else some stop

/-- The word or the single character at an offset. -/
def wordOrSingle (source : Text) (pos : Nat) (first : Char) : Except BadOffset Span := do
  if isWordChar first then
    let width := (((encode source).drop pos).takeWhile isWordByte).length
    let word ← textBetween source pos (pos + width)
    return ⟨Token.wordKind word, pos, pos + width⟩
  else
    let ahead ← textFrom source pos
    let width := match ahead with
      | [] => 1
      | c :: _ => c.utf8Size
    return ⟨if isPunctuation first then .punctuation else .plain, pos, pos + width⟩

/-- The number, the word or the single character at an offset. -/
def numberOrWord (source : Text) (pos : Nat) (first : Char) : Except BadOffset Span := do
  match ← if first.isDigit then numberEnd (encode source) pos else .ok none with
  | some stop => return ⟨.number, pos, stop⟩
  | none => wordOrSingle source pos first

/-- The end of the phrase at an offset, unless a word leads into it. -/
def leadingPhraseEnd (source : Text) (pos : Nat) (first : Char) :
    Except BadOffset (Option Nat) := do
  if first.isAlpha then
    if ← precededByWord (encode source) pos then return none
    else firstPhraseEnd source pos Phrase.all
  else return none

/-- The span at an offset where nothing is opened. -/
def bare (source : Text) (pos : Nat) (first : Char) : Except BadOffset Span := do
  match ← leadingPhraseEnd source pos first with
  | some stop => return ⟨.keywordPhrase, pos, stop⟩
  | none => numberOrWord source pos first

/-- The span at an offset, and nothing at the end. -/
def next (source : Text) (pos : Nat) : Except BadOffset (Option Span) :=
  match (encode source).drop pos with
  | [] => .ok none
  | b :: rest =>
    let first := byteChar b
    let second := rest.head?.map byteChar
    if first = '-' ∧ second = some '-' then
      .ok (some ⟨.comment, pos, pos + 2 + widthThrough '\n' (rest.drop 1)⟩)
    else if first = '/' ∧ second = some '*' then
      .ok (some ⟨.comment, pos, pos + 2 + widthThroughClose (rest.drop 1)⟩)
    else if first = '\'' ∨ first = '"' then
      .ok (some ⟨.string, pos, pos + 1 + widthThroughQuote first rest⟩)
    else if first = Token.backquote then
      .ok (some ⟨.quotedIdentifier, pos, pos + 1 + widthThrough Token.backquote rest⟩)
    else (bare source pos first).map some

/-- The spans that repeated reading yields from an offset until nothing is left. -/
inductive Yields (source : Text) : Nat → List Span → Prop
  | done {pos : Nat} : next source pos = .ok none → Yields source pos []
  | step {pos : Nat} {s : Span} {ss : List Span} : next source pos = .ok (some s) →
      Yields source s.stop ss → Yields source pos (s :: ss)

/-- Puts a span after those read so far, the last of them first. Two plain ones become one. -/
def push : List Span → Span → List Span
  | [], s => [s]
  | last :: earlier, s =>
    if last.kind = .plain ∧ s.kind = .plain then ⟨last.kind, last.start, s.stop⟩ :: earlier
    else s :: last :: earlier

/-- Spans with every run of plain ones as one. -/
def collect (spans : List Span) : List Span := (spans.foldl push []).reverse

/-- The tokens that spans stand for, each cut out of the source. -/
def tokens (source : Text) (spans : List Span) : Except BadOffset (List Token) :=
  spans.mapM fun s => (textBetween source s.start s.stop).map (Token.mk s.kind)

/-- The markup of spans, each cut out of the source. -/
def render (source : Text) (spans : List Span) : Except BadOffset Text :=
  (tokens source spans).map fun ts => ts.flatMap fun t => Markup.element t.kind t.text

/-- Clauses on lines of their own, from spans that are cut out of the source. -/
def breakClauses (source : Text) (spans : List Span) : Except BadOffset Text :=
  (tokens source spans).map fun ts =>
    (ts.foldl Layout.Draft.write ⟨[], false⟩).written.reverse

end Sql.Cursor

end QueryDesk
