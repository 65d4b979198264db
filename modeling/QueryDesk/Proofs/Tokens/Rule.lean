import QueryDesk.Sql.Span
import QueryDesk.Proofs.Tokens.Phrase

/-!
# The rules of tokens

What stands at a place of a text, said without a reader. `Takes` lists what each of the eight rules
makes of the text ahead. A place obeys the first rule that takes anything there (`Obeys`), and a
list of tokens reads a text if each of them obeys the rules at its own place (`Reads`).
-/

set_option autoImplicit false

namespace QueryDesk.Sql

open Text

/-- What may stand between two quotes: other characters, and the quote written twice. -/
inductive QuoteBody (quote : Char) : Text → Prop
  | nil : QuoteBody quote []
  | other {c : Char} {body : Text} : c ≠ quote → QuoteBody quote body →
      QuoteBody quote (c :: body)
  | doubled {body : Text} : QuoteBody quote body → QuoteBody quote (quote :: quote :: body)

/-- The quote after `body` closes what was opened before it: it stands alone. -/
def Closes (quote : Char) (body after : Text) : Prop :=
  QuoteBody quote body ∧ after.head? ≠ some quote

inductive Rule where
  | lineComment
  | blockComment
  | string
  | quotedIdentifier
  | phrase
  | number
  | word
  | single
  deriving DecidableEq, Repr

namespace Rule

/-- The rules in the order in which they are tried. -/
def all : List Rule :=
  [.lineComment, .blockComment, .string, .quotedIdentifier, .phrase, .number, .word, .single]

/-- The rules tried before a given one. -/
def earlier (r : Rule) : List Rule := all.takeWhile (· != r)

/-- What a rule takes: the text `before` a place, the token at it, and the text `after` the token.
What is opened and never closed runs to the end. -/
inductive Takes (phrases : List Phrase) : Rule → Text → Token → Text → Prop
  | lineComment {before body after : Text} : '\n' ∉ body →
      Takes phrases lineComment before ⟨.comment, '-' :: '-' :: (body ++ ['\n'])⟩ after
  | lineCommentToEnd {before body : Text} : '\n' ∉ body →
      Takes phrases lineComment before ⟨.comment, '-' :: '-' :: body⟩ []
  | blockComment {before body after : Text} : ¬ ['*', '/'] <:+: body ++ ['*'] →
      Takes phrases blockComment before ⟨.comment, '/' :: '*' :: (body ++ ['*', '/'])⟩ after
  | blockCommentToEnd {before body : Text} : ¬ ['*', '/'] <:+: body →
      Takes phrases blockComment before ⟨.comment, '/' :: '*' :: body⟩ []
  | string {before body after : Text} {quote : Char} : quote = '\'' ∨ quote = '"' →
      Closes quote body after →
      Takes phrases string before ⟨.string, quote :: (body ++ [quote])⟩ after
  | stringToEnd {before body : Text} {quote : Char} : quote = '\'' ∨ quote = '"' →
      (∀ inner after, body = inner ++ quote :: after → ¬ Closes quote inner after) →
      Takes phrases string before ⟨.string, quote :: body⟩ []
  | quotedIdentifier {before body after : Text} : Token.backquote ∉ body →
      Takes phrases quotedIdentifier before
        ⟨.quotedIdentifier, Token.backquote :: (body ++ [Token.backquote])⟩ after
  | quotedIdentifierToEnd {before body : Text} : Token.backquote ∉ body →
      Takes phrases quotedIdentifier before ⟨.quotedIdentifier, Token.backquote :: body⟩ []
  | phrase {before lexeme after : Text} {p : Phrase} : p ∈ phrases → Spells p lexeme →
      endsWithWord before = false → startsWithWord after = false →
      Takes phrases phrase before ⟨.keywordPhrase, lexeme⟩ after
  | wholeNumber {before whole after : Text} : whole ≠ [] → (∀ c ∈ whole, c.isDigit = true) →
      startsWithWord after = false →
      (∀ d rest, after = '.' :: d :: rest → d.isDigit = false) →
      Takes phrases number before ⟨.number, whole⟩ after
  | fraction {before whole digits after : Text} : whole ≠ [] →
      (∀ c ∈ whole, c.isDigit = true) → digits ≠ [] → (∀ c ∈ digits, c.isDigit = true) →
      startsWithWord after = false →
      Takes phrases number before ⟨.number, whole ++ '.' :: digits⟩ after
  | word {before lexeme after : Text} : lexeme ≠ [] → (∀ c ∈ lexeme, isWordChar c = true) →
      startsWithWord after = false →
      Takes phrases word before ⟨Token.wordKind lexeme, lexeme⟩ after
  | single {before after : Text} {c : Char} :
      Takes phrases single before ⟨if isPunctuation c then .punctuation else .plain, [c]⟩ after

/-- Whether a rule takes anything at a place. -/
def Applies (phrases : List Phrase) (r : Rule) (before ahead : Text) : Prop :=
  ∃ token after, ahead = token.text ++ after ∧ r.Takes phrases before token after

end Rule

/-- The token at a place is the one of the first rule that takes anything there. -/
def Obeys (phrases : List Phrase) (before : Text) (token : Token) (after : Text) : Prop :=
  ∃ r : Rule, r.Takes phrases before token after ∧
    ∀ e ∈ r.earlier, ¬ e.Applies phrases before (token.text ++ after)

/-- Whether each token obeys the rules at its place, the first of them right after `before`. -/
def Reads (phrases : List Phrase) : Text → List Token → Prop
  | _, [] => True
  | before, t :: ts =>
    Obeys phrases before t (Token.concat ts) ∧ Reads phrases (before ++ t.text) ts

end QueryDesk.Sql
