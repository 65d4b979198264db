import QueryDesk.Sql.Layout.Piece

/-!
# Indented layout

A full layout: keywords in upper case, each clause on a line of its own with its items indented by
four spaces, one item a line. What stands in brackets is opened up over several lines unless it is
short and holds neither a clause nor a conjunction. CASE and END are brackets too.

A text is cut into pieces, which are then written one after another.
-/

set_option autoImplicit false

namespace QueryDesk.Sql.Layout.Indented

open Text

/-- What a level of indentation was opened by. -/
inductive Mark where
  | clause | block
  deriving DecidableEq, Repr

structure Page where
  /-- Last character first. -/
  written : Text
  /-- Innermost level first. -/
  marks : List Mark
  /-- How many brackets are open that stay on one line. -/
  inlineDepth : Nat
  lastKeyword : Text
  deriving DecidableEq, Repr

def limitKeyword : Text := "LIMIT".toList

def isMargin (c : Char) : Bool := c == ' ' || c == '\t'

namespace Page

def empty : Page := ⟨[], [], 0, []⟩

def write (p : Page) (t : Text) : Page := { p with written := t.reverse ++ p.written }

def writeSpaced (p : Page) (t : Text) : Page := (p.write t).write [' ']

def trimLine (p : Page) : Page := { p with written := p.written.dropWhile isMargin }

/-- The indentation of a line. -/
def margin (p : Page) : Text := List.replicate (4 * p.marks.length) ' '

/-- Begins a line at the present indentation, or goes on with one that holds nothing yet. -/
def newLine (p : Page) : Page :=
  let q := p.trimLine
  let ended := if q.written.head? = some '\n' then q else q.write ['\n']
  ended.write p.margin

/-- Leaves the items of a clause. -/
def endClause (p : Page) : Page :=
  match p.marks with
  | .clause :: marks => { p with marks := marks }
  | _ => p

/-- Leaves the innermost block and the clauses in it. -/
def endBlock (p : Page) : Page :=
  { p with marks := (p.marks.dropWhile (· == .clause)).drop 1 }

end Page

/-- Whether the block that begins with these pieces is at most fifty bytes long and without a
clause, a conjunction, a comment and a semicolon. `depth` brackets are open, `size` bytes are
behind. -/
def fitsInline (size depth : Nat) : List Piece → Bool
  | [] => false
  | p :: ps =>
    let size := size + byteSize p.text
    if 50 < size then false
    else
      match p.role with
      | .opening => fitsInline size (depth + 1) ps
      | .closing => if depth ≤ 1 then true else fitsInline size (depth - 1) ps
      | .clause | .joint | .lineComment | .blockComment => false
      | _ => if p.text = [';'] then false else fitsInline size depth ps

/-- A keyword in upper case with single spaces. -/
def spelled (t : Text) : Text := upper (join [' '] (words t))

/-- A comment whose further lines, if they are indented, begin one column after `margin`. -/
def realigned (margin t : Text) : Text :=
  match t.splitOnP (· == '\n') with
  | [] => []
  | first :: others =>
    join ['\n'] <| first :: others.map fun line =>
      if line.head?.any isMargin then margin ++ ' ' :: line.dropWhile isMargin else line

def Page.writeKeyword (page : Page) (t : Text) : Page :=
  { page.write (spelled t) with lastKeyword := spelled t }

/-- Writes an opening bracket. It moves up to the piece before, but for blanks, brackets and line
comments; `ahead` begins with it. -/
def Page.openBlock (page : Page) (before : Option Role) (t : Text) (ahead : List Piece) : Page :=
  let keep := before == some .blank || before == some .opening || before == some .lineComment
  let q := (if keep then page else page.trimLine).write (upper t)
  if 0 < q.inlineDepth then { q with inlineDepth := q.inlineDepth + 1 }
  else if fitsInline 0 0 ahead then { q with inlineDepth := 1 }
  else Page.newLine { q with marks := .block :: q.marks }

/-- Writes a closing bracket. On its line, a parenthesis moves up to what is before it. -/
def Page.closeBlock (page : Page) (t : Text) : Page :=
  if 0 < page.inlineDepth then
    let q := { page with inlineDepth := page.inlineDepth - 1 }
    (if t = [')'] then q.trimLine else q).writeSpaced (upper t)
  else page.endBlock.newLine.writeSpaced (upper t)

def Page.writeSymbol (page : Page) (t : Text) : Page :=
  if t = [','] then
    let q := page.trimLine.writeSpaced t
    if q.inlineDepth = 0 ∧ q.lastKeyword ≠ limitKeyword then q.newLine else q
  else if t = [':'] then page.trimLine.writeSpaced t
  else if t = ['.'] then page.trimLine.write t
  else if t = [';'] then Page.write (Page.trimLine { page with marks := [] }) [';', '\n']
  else page.writeSpaced t

/-- Writes the pieces one after another; `before` is the role of the last one. -/
def Page.writeAll (before : Option Role) (page : Page) : List Piece → Page
  | [] => page
  | p :: ps =>
    let next :=
      match p.role with
      | .blank => page
      | .lineComment => (page.write p.text).newLine
      | .blockComment =>
        let q := page.newLine
        (q.write (realigned q.margin p.text)).newLine
      | .clause =>
        let q := page.endClause.newLine
        Page.newLine (Page.writeKeyword { q with marks := .clause :: q.marks } p.text)
      | .setOperation => (page.endClause.newLine.writeKeyword p.text).newLine
      | .joint => (page.newLine.writeKeyword p.text).write [' ']
      | .inline => (page.writeKeyword p.text).write [' ']
      | .opening => page.openBlock before p.text (p :: ps)
      | .closing => page.closeBlock p.text
      | .typeMark => page.trimLine.write p.text
      | .symbol => page.writeSymbol p.text
      | .string | .number | .operator | .placeholder | .word => page.writeSpaced p.text
    next.writeAll (some p.role) ps

def indent (t : Text) : Text := trim (Page.empty.writeAll none (Piece.split t)).written.reverse

end QueryDesk.Sql.Layout.Indented
