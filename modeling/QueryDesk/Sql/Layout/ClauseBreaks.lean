import QueryDesk.Sql.Span

/-!
# Clause breaks

A light layout: each major clause begins a line, and statements are set apart by an empty line. Only
blanks between tokens change.
-/

set_option autoImplicit false

namespace QueryDesk.Sql.Layout

open Text

/-- The words that begin a line. -/
def clauseWords : List String :=
  ["SELECT", "FROM", "WHERE", "GROUP BY", "ORDER BY", "HAVING", "INSERT INTO", "VALUES", "UPDATE",
   "SET", "DELETE FROM", "CREATE TABLE", "ALTER TABLE", "DROP TABLE"]

/-- A reserved word or phrase in upper case with single spaces. -/
def canonical (t : Text) : Text := upper (join [' '] (words t))

def startsClause (kind : TokenKind) (t : Text) : Bool :=
  (kind == .keyword || kind == .keywordPhrase) && clauseWords.any fun w => w.toList == canonical t

/-- What has been written, last character first, and whether a semicolon was the last of it. -/
structure Draft where
  written : Text
  afterSemicolon : Bool
  deriving DecidableEq, Repr

/-- Ends the last line, dropping the spaces and tabs at its end. Nothing happens at the start. -/
def breakLine (written : Text) : Text :=
  if written.isEmpty then []
  else
    let kept := written.dropWhile fun c => c == ' ' || c == '\t'
    if kept.head? = some '\n' then kept else '\n' :: kept

/-- Writes one token. After a semicolon blanks are skipped, and an empty line comes first. -/
def Draft.write (d : Draft) (token : Token) : Draft :=
  let text := if d.afterSemicolon then trimStart token.text else token.text
  if d.afterSemicolon && text.isEmpty then d
  else
    let apart := if d.afterSemicolon then '\n' :: '\n' :: d.written else d.written
    let begun := if startsClause token.kind text then breakLine apart else apart
    ⟨text.reverse ++ begun, token.kind == .punctuation && text == [';']⟩

def breakClauses (t : Text) : Text :=
  ((Token.scan t).foldl Draft.write ⟨[], false⟩).written.reverse

example : breakClauses "select a  from t where b = 'from x'; select 1".toList =
    "select a\nfrom t\nwhere b = 'from x';\n\nselect 1".toList := by
  decide +kernel

end QueryDesk.Sql.Layout
