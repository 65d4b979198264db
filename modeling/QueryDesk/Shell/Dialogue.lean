import QueryDesk.Csv.SummaryList
import QueryDesk.Session
import QueryDesk.Shell.Command
import QueryDesk.Sql.Completeness
import QueryDesk.Sql.Layout
import QueryDesk.Sql.Markup

/-!
# Dialogue

The shell takes one line after another. Lines are collected until they make complete SQL, which is
run as one batch; while nothing is collected, blank lines are passed over and lines with a point in
front are commands.
-/

set_option autoImplicit false

namespace QueryDesk.Shell

open Text Csv

/-- Something to write to standard output, to standard error or to the log. -/
inductive Output where
  | out (t : Text)
  | err (t : Text)
  /-- A line of the log, which gives the time as well. -/
  | log (t : Text)
  deriving DecidableEq, Repr

def outLine (t : Text) : Output := .out (t ++ ['\n'])

def errLine (t : Text) : Output := .err (t ++ ['\n'])

/-- What is left to others: SQL with indentation, and the record of imports as JSON. -/
structure Renderings where
  indent : Text → Text
  imports : List Summary → Text

/-- How the reading of lines ends. -/
inductive Ending where
  | endOfInput
  /-- A prompt cannot be brought out. -/
  | unshown
  /-- The input cannot be read, or is not text. -/
  | unread (reason : Text)
  deriving DecidableEq, Repr

/-- What is said of an ending. -/
def Ending.outputs : Ending → List Output
  | .endOfInput | .unshown => [outLine []]
  | .unread reason => [.log ("failed to read input: ".toList ++ reason), outLine []]

structure Desk (σ : Type) where
  session : Session σ
  /-- The lines collected so far. -/
  buffer : Text
  /-- Whether SQL is shown as markup before it runs. -/
  echo : Bool
  deriving DecidableEq, Repr

/-- What a line has led to. -/
structure Turn (σ : Type) where
  desk : Desk σ
  outputs : List Output
  quits : Bool
  deriving DecidableEq, Repr

/-- A result as lines: the columns, the rows, and their count. -/
def resultLines (r : ResultSet) : List Output :=
  outLine (join ['|'] r.columns) ::
    r.rows.map (fun row => outLine (join ['|'] (row.map Value.print))) ++
    [outLine ('(' :: ofNat r.rows.length ++ " rows)".toList)]

def errorLine (e : Error) : Output := errLine ("Error: ".toList ++ e.message)

/-- What is said about an import. -/
def importLines (path : Text) : Except Error Summary → List Output
  | .ok s =>
    [outLine ("Table '".toList ++ s.table ++ "' imported: ".toList ++ ofNat s.columns ++
      " columns, ".toList ++ ofNat s.rows ++ " rows inserted.".toList),
     outLine ("Try: ".toList ++ previewQuery s.table)]
  | .error e => [errLine ("Error importing ".toList ++ path ++ ": ".toList ++ e.message)]

def overviewLines : Except Error (Option Text) → List Output
  | .ok (some overview) => [outLine overview]
  | .ok none => [outLine "(no tables)".toList]
  | .error e => [errorLine e]

namespace Desk

variable {σ : Type}

/-- Lets an action run on the session, and says what came of it. -/
def act {α : Type} (d : Desk σ) (action : Action (Session σ) α)
    (tell : Except Error α → List Output) : Desk σ × List Output :=
  let r := action d.session
  ({ d with session := r.2 }, tell r.1)

def importFile (e : Engine σ) (files : FileAccess) (d : Desk σ) (r : ImportRequest) :
    Desk σ × List Output :=
  d.act (Session.importFile e files r.path r.table) (importLines r.path)

def runBatch (e : Engine σ) (d : Desk σ) (sql : Text) : Desk σ × List Output :=
  let shown := if d.echo then [outLine (Sql.Markup.highlight sql)] else []
  let r := d.act (Session.run e sql) fun
    | .ok results => results.flatMap resultLines
    | .error e => [errorLine e]
  (r.1, shown ++ r.2)

def command (r : Renderings) (e : Engine σ) (files : FileAccess) (d : Desk σ) :
    Command → Desk σ × List Output
  | .help => (d, [.out Command.helpText])
  | .tables => d.act (Session.tablesOverview e) overviewLines
  | .importFile (some request) => d.importFile e files request
  | .importFile none =>
    (d, [errLine "Usage: .import FILE [TABLE]  (quote FILE if it has spaces)".toList])
  | .imports => (d, [outLine (r.imports d.session.imported)])
  | .highlight sql => (d, [outLine (Sql.Markup.highlight sql)])
  | .breakClauses sql => (d, [outLine (Sql.layOutBy r.indent .clauseBreaks sql)])
  | .indent sql => (d, [outLine (Sql.layOutBy r.indent .indented sql)])
  | .quit => (d, [])
  | .unknown name =>
    (d, [errLine ("Error: unknown command: ".toList ++ name),
      errLine "Use .help for a list of commands.".toList])

/-- What a line is, given what has been collected. -/
inductive Reading where
  /-- A blank line, while nothing is collected. -/
  | skip
  | command (c : Command)
  /-- More to collect. -/
  | collect (buffer : Text)
  /-- The end of a batch. -/
  | batch (sql : Text)
  deriving DecidableEq, Repr

/-- Reads a line, which may end in a line feed. -/
def read (buffer line : Text) : Reading :=
  let trimmed := trim line
  if buffer.isEmpty && trimmed.isEmpty then .skip
  else if buffer.isEmpty && trimmed.head? == some '.' then .command (.parse trimmed)
  else if Sql.isComplete (buffer ++ line) then .batch (trim (buffer ++ line))
  else .collect (buffer ++ line)

/-- Takes one line. -/
def take (r : Renderings) (e : Engine σ) (files : FileAccess) (d : Desk σ) (line : Text) : Turn σ :=
  match read d.buffer line with
  | .skip => ⟨d, [], false⟩
  | .command c =>
    let done := d.command r e files c
    ⟨done.1, done.2, c == .quit⟩
  | .collect buffer => ⟨{ d with buffer := buffer }, [], false⟩
  | .batch sql =>
    let ran := { d with buffer := [] }.runBatch e sql
    ⟨ran.1, ran.2, false⟩

def promptText (d : Desk σ) : Text :=
  if d.buffer.isEmpty then "sqlpad> ".toList else "   ...> ".toList

/-- Takes lines up to the last that can be read or to the command to quit, with a prompt before each
and before the end. -/
def takeAll (r : Renderings) (e : Engine σ) (files : FileAccess) (ending : Ending) (d : Desk σ) :
    List Text → List Output
  | [] => .out d.promptText :: ending.outputs
  | line :: lines =>
    let turn := d.take r e files line
    .out d.promptText :: turn.outputs ++
      if turn.quits then [] else turn.desk.takeAll r e files ending lines

/-- Imports files one after another, each into the table that its name suggests. -/
def importAll (e : Engine σ) (files : FileAccess) (d : Desk σ) : List Text → Desk σ × List Output
  | [] => (d, [])
  | path :: paths =>
    let r := d.importFile e files ⟨path, none⟩
    let rest := r.1.importAll e files paths
    (rest.1, r.2 ++ rest.2)

end Desk

/-- The lines of a text, each with its line feed. -/
def splitLines : Text → List Text
  | [] => []
  | c :: cs =>
    if c = '\n' then [c] :: splitLines cs
    else
      match splitLines cs with
      | [] => [[c]]
      | line :: lines => (c :: line) :: lines

end QueryDesk.Shell
