import QueryDesk.Sql.Span

/-!
# Complete statements

Whether text typed so far can be run: its last token that is neither comment nor blank is a
semicolon. One inside a string or a comment does not count.
-/

set_option autoImplicit false

namespace QueryDesk.Sql

def endsInSemicolon (tokens : List Token) : Bool :=
  (tokens.filter Token.isSignificant).getLast?.any Token.isSemicolon

def isComplete (t : Text) : Bool := endsInSemicolon (Token.scan t)

end QueryDesk.Sql
