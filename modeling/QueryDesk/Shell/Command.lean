import QueryDesk.Text.Blank
import QueryDesk.Text.LowerCase

/-!
# Commands

Lines that begin with a point are commands to the shell. The first word names the command, in any
case; the rest of the line belongs to it.
-/

set_option autoImplicit false

namespace QueryDesk.Shell

open Text

/-- What to import, and into which table if one is named. -/
structure ImportRequest where
  path : Text
  table : Option Text
  deriving DecidableEq, Repr

inductive Command where
  | help
  | tables
  /-- Nothing is requested by a rest of line that names no file. -/
  | importFile (request : Option ImportRequest)
  | imports
  | highlight (sql : Text)
  | breakClauses (sql : Text)
  | indent (sql : Text)
  | quit
  | unknown (name : Text)
  deriving DecidableEq, Repr

/-- The text before the first character with property `p` and the text after that character. Without
one that is the whole text and nothing. -/
def cutAt (p : Char → Bool) (t : Text) : Text × Text :=
  (t.takeWhile (!p ·), (t.dropWhile (!p ·)).drop 1)

/-- The path at the front, and the text after it. A path with blanks in it stands between quotes of
one kind; a quote that is not closed is no path. -/
def cutPath? : Text → Option (Text × Text)
  | [] => none
  | c :: cs =>
    if c = '"' ∨ c = '\'' then if cs.contains c then some (cutAt (· == c) cs) else none
    else some (cutAt isBlank (c :: cs))

/-- A path, and after it the name of a table if there is a word left. -/
def ImportRequest.parse? (rest : Text) : Option ImportRequest :=
  (cutPath? (trim rest)).bind fun r =>
    if r.1.isEmpty then none else some ⟨r.1, (words r.2).head?⟩

namespace Command

/-- The command of a line without blanks around it. -/
def parse (line : Text) : Command :=
  let parts := cutAt isBlank line
  let rest := trim parts.2
  let name := lower parts.1
  if name = ".help".toList then .help
  else if name = ".tables".toList then .tables
  else if name = ".import".toList then .importFile (ImportRequest.parse? rest)
  else if name = ".imports".toList then .imports
  else if name = ".highlight".toList then .highlight rest
  else if name = ".format".toList then .breakClauses rest
  else if name = ".pretty".toList then .indent rest
  else if name = ".quit".toList ∨ name = ".exit".toList then .quit
  else .unknown name

/-- The lines of help. -/
def helpText : Text :=
  (".help                 Show this help\n" ++
   ".tables               List all tables with an example query\n" ++
   ".import FILE [TABLE]  Import a CSV file as a table (quote FILE if it has spaces)\n" ++
   ".imports              Show tables imported in this session (JSON)\n" ++
   ".highlight SQL        Print SQL as highlighted HTML\n" ++
   ".format SQL           Put each major clause on its own line\n" ++
   ".pretty SQL           Pretty-print SQL with indentation\n" ++
   ".quit                 Exit this program\n" ++
   ".exit                 Exit this program\n").toList

end Command

end QueryDesk.Shell
