import QueryDesk.Sql.Span

/-!
# Markup

SQL as HTML for a read-only preview. Every span with a class stands in an element of that class;
plain text stands bare. Inside an element's content only `&`, `<` and `>` have to be written as
entities.
-/

set_option autoImplicit false

namespace QueryDesk.Sql.Markup

/-- The style class of a kind of token. -/
def styleClass? : TokenKind → Option String
  | .comment => some "sql-comment"
  | .string => some "sql-string"
  | .quotedIdentifier => some "sql-identifier"
  | .keywordPhrase | .keyword => some "sql-keyword"
  | .number => some "sql-number"
  | .punctuation => some "sql-punctuation"
  | .plain => none

def escapeChar (c : Char) : Text :=
  if c = '&' then "&amp;".toList
  else if c = '<' then "&lt;".toList
  else if c = '>' then "&gt;".toList
  else [c]

def escape (t : Text) : Text := t.flatMap escapeChar

def opening (style : String) : Text := "<span class=\"".toList ++ style.toList ++ "\">".toList

def closing : Text := "</span>".toList

/-- A piece of source text of the given kind. -/
def element (kind : TokenKind) (t : Text) : Text :=
  match styleClass? kind with
  | some style => opening style ++ escape t ++ closing
  | none => escape t

/-- Spans of a source in the given order, which may repeat, overlap or leave out parts of it. -/
def render (source : Text) (spans : List Span) : Text :=
  spans.flatMap fun s => element s.kind (s.text source)

/-- The whole of a source, token by token. -/
def highlight (source : Text) : Text :=
  (Token.scan source).flatMap fun t => element t.kind t.text

example : highlight "SELECT a<1".toList =
    ("<span class=\"sql-keyword\">SELECT</span> a<span class=\"sql-punctuation\">&lt;</span>" ++
      "<span class=\"sql-number\">1</span>").toList := by
  decide +kernel

end QueryDesk.Sql.Markup
