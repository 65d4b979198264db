import QueryDesk.Text.Alphanumeric
import QueryDesk.Sql.Token
import QueryDesk.Sql.Layout.Role

/-!
# Pieces

A piece is a part of SQL text with its role in the layout. This module cuts a text into pieces by
rules tried in order: blank, comment, type mark, string, bracket, number, keyword, operator,
placeholder, word, single character. A rule gives the length of what it finds, so that the pieces
are the text again whatever the rules say (`flatten_split`), and none of them is empty
(`ne_nil_of_mem_split`).
-/

set_option autoImplicit false

namespace QueryDesk.Sql.Layout

open Text

structure Piece where
  role : Role
  text : Text
  deriving DecidableEq, Repr

/-- What bears on the role of a piece of all that stands before it. -/
structure Past where
  /-- The piece right before, blank or not. -/
  before : Option Piece
  /-- The last keyword that began a clause, as it was written. -/
  clause : Text
  /-- The last keyword that stayed on its line, as it was written. -/
  inline : Text
  deriving DecidableEq, Repr

namespace Past

def start : Past := ⟨none, [], []⟩

def push (past : Past) (p : Piece) : Past :=
  match p.role with
  | .clause => { past with before := some p, clause := p.text }
  | .inline => { past with before := some p, inline := p.text }
  | _ => { past with before := some p }

/-- What follows a point is a name, never a keyword. -/
def endsInPoint (past : Past) : Bool := past.before.any fun p => p.text == ['.']

/-- Whether a type may be given to what comes last. -/
def takesType (past : Past) : Bool :=
  past.before.all fun p =>
    [Role.closing, .placeholder, .inline, .string, .typeMark, .word].contains p.role

/-- The role of a keyword where it stands: after SELECT, EXCEPT leaves out columns, and the AND of
BETWEEN stays on its line. -/
def roleOf (past : Past) (role : Role) (text : Text) : Role :=
  if text = "EXCEPT".toList ∧ past.clause = "SELECT".toList then .word
  else if text = "AND".toList ∧ past.inline = "BETWEEN".toList then .inline
  else role

end Past

namespace Piece

/-- What the name of a placeholder may consist of. -/
def isParameterChar (c : Char) : Bool := isAlphanumeric c || "._$".toList.contains c

def isOperatorChar (c : Char) : Bool := "!<>=|:-~*&@^?#/%".toList.contains c

/-- How many characters at the front have property `p`. -/
def runLength (p : Char → Bool) (t : Text) : Nat := (t.takeWhile p).length

/-- The length of a run with property `p`, if it is not empty. -/
def run? (p : Char → Bool) (t : Text) : Option Nat :=
  some (runLength p t) |>.filter (0 < ·)

/-- The length of a line without the break that ends it. -/
def lineLength : Text → Nat
  | [] => 0
  | '\n' :: _ => 0
  | '\r' :: '\n' :: _ => 0
  | _ :: cs => lineLength cs + 1

def lineComment? : Text → Option Nat
  | '#' :: cs => some (1 + lineLength cs)
  | '-' :: '-' :: cs => some (2 + lineLength cs)
  | _ => none

/-- A block comment that is not closed runs to the end. -/
def blockComment? : Text → Option Nat
  | '/' :: '*' :: cs => some (2 + (Token.throughClose cs).1.length)
  | _ => none

def typeMark? (past : Past) : Text → Option Nat
  | ':' :: ':' :: _ => if past.takesType then some 2 else none
  | '[' :: ']' :: _ => if past.takesType then some 2 else none
  | _ => none

/-- The length through the first `close` that none of `escapes` stands right before. -/
def lengthThrough? (close : Char) (escapes : List Char) : Text → Option Nat
  | [] => none
  | [c] => if c = close then some 1 else none
  | c :: d :: cs =>
    if escapes.contains c ∧ d = close then (lengthThrough? close escapes cs).map (· + 2)
    else if c = close then some 1
    else (lengthThrough? close escapes (d :: cs)).map (· + 1)

/-- A string or a quoted name. A quote inside it is doubled or has a backslash before it. What is
not closed is no string. -/
def string? : Text → Option Nat
  | '\'' :: cs => (lengthThrough? '\'' ['\'', '\\'] cs).map (· + 1)
  | '"' :: cs => (lengthThrough? '"' ['"', '\\'] cs).map (· + 1)
  | '[' :: cs => (lengthThrough? ']' [']'] cs).map (· + 1)
  | '\x60' :: cs => (lengthThrough? Token.backquote [Token.backquote] cs).map (· + 1)
  | c :: '\'' :: cs =>
    if c = 'N' ∨ c = 'E' then (lengthThrough? '\'' ['\'', '\\'] cs).map (· + 2)
    else if c.toUpper = 'X' then (lengthThrough? '\'' [] cs).map (· + 2)
    else none
  | _ => none

/-- The words of a keyword at the front that no further name character continues. -/
def phrase? (p : Phrase) (t : Text) : Option Nat :=
  ((Token.takeWords? p t).filter fun r => !r.2.head?.any isNameChar).map fun r => r.1.length

def opening? (t : Text) : Option Nat :=
  if t.head? = some '(' then some 1 else phrase? [Role.caseWord] t

def closing? (t : Text) : Option Nat :=
  if t.head? = some ')' then some 1 else phrase? [Role.endWord] t

/-- The length of the digits at the front, with a point and the digits after it. -/
def decimalLength (t : Text) : Nat :=
  let whole := runLength Char.isDigit t
  match t.drop whole with
  | '.' :: cs => whole + 1 + runLength Char.isDigit cs
  | _ => whole

/-- The length of an exponent, nothing if it has no digits. -/
def exponentLength : Text → Nat
  | 'e' :: cs =>
    let sign := if cs.head? = some '-' ∨ cs.head? = some '+' then 1 else 0
    ((run? Char.isDigit (cs.drop sign)).map (1 + sign + ·)).getD 0
  | _ => 0

/-- A number begins with a digit, or with a minus sign right before one. -/
def number? (t : Text) : Option Nat :=
  let sign := if t.head? = some '-' then 1 else 0
  (run? Char.isDigit (t.drop sign)).map fun _ =>
    let mantissa := sign + decimalLength (t.drop sign)
    mantissa + exponentLength (t.drop mantissa)

def keyword? (past : Past) (t : Text) : Option (Role × Nat) :=
  if past.endsInPoint then none
  else
    Role.keywords.findSome? fun keyword =>
      (phrase? keyword.2 t).map fun n => (past.roleOf keyword.1 (t.take n), n)

/-- Two to five operator characters. -/
def operator? (t : Text) : Option Nat :=
  some (min 5 (runLength isOperatorChar t)) |>.filter (2 ≤ ·)

/-- A question mark, with a number or without, or a sign with a number, a name or a string. -/
def placeholder? : Text → Option Nat
  | [] => none
  | c :: cs =>
    if c = '?' then some (1 + runLength Char.isDigit cs)
    else if c = '$' then (run? Char.isDigit cs <|> run? isParameterChar cs).map (· + 1)
    else if c = '@' ∨ c = ':' then (run? isParameterChar cs <|> string? cs).map (· + 1)
    else none

/-- The role of the piece at the front of a text, and its length. -/
def front (past : Past) (t : Text) : Role × Nat :=
  let found :=
    (run? isBlank t).map (Role.blank, ·) <|> (lineComment? t).map (Role.lineComment, ·) <|>
      (blockComment? t).map (Role.blockComment, ·) <|>
      (typeMark? past t).map (Role.typeMark, ·) <|>
      (string? t).map (Role.string, ·) <|> (opening? t).map (Role.opening, ·) <|>
      (closing? t).map (Role.closing, ·) <|> (number? t).map (Role.number, ·) <|>
      keyword? past t <|> (operator? t).map (Role.operator, ·) <|>
      (placeholder? t).map (Role.placeholder, ·) <|> (run? isNameChar t).map (Role.word, ·)
  found.getD (.symbol, 1)

/-- The pieces of a text in order, after what is past. Each has at least one character. -/
def splitAfter (past : Past) : Text → List Piece
  | [] => []
  | c :: cs =>
    let found := front past (c :: cs)
    let p : Piece := ⟨found.1, c :: cs.take (found.2 - 1)⟩
    p :: splitAfter (past.push p) (cs.drop (found.2 - 1))
  termination_by t => t.length
  decreasing_by simp only [List.length_drop, List.length_cons]; omega

/-- The pieces of a text in order. -/
def split (t : Text) : List Piece := splitAfter .start t

theorem flatten_splitAfter (past : Past) (t : Text) :
    ((splitAfter past t).map Piece.text).flatten = t := by
  fun_induction splitAfter past t with
  | case1 => rfl
  | case2 past c cs found p ih => simp [p, ih]

theorem ne_nil_of_mem_splitAfter (past : Past) (t : Text) :
    ∀ p ∈ splitAfter past t, p.text ≠ [] := by
  fun_induction splitAfter past t with
  | case1 => simp
  | case2 past c cs found p ih => simpa [p] using ih

theorem flatten_split (t : Text) : ((split t).map Piece.text).flatten = t :=
  flatten_splitAfter .start t

theorem ne_nil_of_mem_split (t : Text) : ∀ p ∈ split t, p.text ≠ [] :=
  ne_nil_of_mem_splitAfter .start t

end Piece

end QueryDesk.Sql.Layout
