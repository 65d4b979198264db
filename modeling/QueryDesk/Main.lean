import QueryDesk.Shell.Run

/-!
# The command line

Standard input and output, and the files of the operating system. The dialogue itself is in
`QueryDesk.Shell`.
-/

set_option autoImplicit false

namespace QueryDesk

open Shell

def emit : Output → IO Unit
  | .out t => do
    let stdout ← IO.getStdout
    stdout.putStr (String.ofList t)
    stdout.flush
  | .err t => do
    let stderr ← IO.getStderr
    stderr.putStr (String.ofList t)
    stderr.flush
  | .log t => do (← IO.getStderr).putStrLn (String.ofList t)

def failureOf : IO.Error → ReadFailure
  | .noFileOrDirectory .. => .notFound
  | .inappropriateType .. => .isADirectory
  | e => .other (toString e).toList

def readFile (path : Text) : IO (Except ReadFailure Text) := do
  try
    let bytes ← IO.FS.readBinFile (String.ofList path)
    return Files.decode bytes.toList
  catch e => return .error (failureOf e)

/-- Whether a file can be opened or made at the end of a path. -/
def canHoldFile (path : Text) : IO Bool := do
  try
    discard <| IO.FS.Handle.mk (String.ofList path) .append
    return true
  catch _ => return false

def noAccess : FileAccess := ⟨fun _ => .error .notFound, fun _ => false⟩

/-- Access to the text of one file. -/
def readAccess (path : Text) : IO FileAccess := do
  let contents ← readFile path
  return { noAccess with readText := fun _ => contents }

/-- Access to the file of a database, if it has one. -/
def databaseAccess (database : Option Text) : IO FileAccess := do
  match databaseFile? database with
  | some path =>
    let held ← canHoldFile path
    return { noAccess with canHold := fun _ => held }
  | none => return noAccess

/-- The file that a line asks for. -/
def fileOf (buffer line : Text) : Option Text :=
  match Desk.read buffer line with
  | .command (.importFile (some r)) => some r.path
  | _ => none

/-- The line at a prompt, or how the reading ends there. -/
def nextLine (prompt : Text) : IO (Except Ending Text) := do
  try emit (.out prompt) catch _ => return .error .unshown
  try
    let line ← (← IO.getStdin).getLine
    return if line.isEmpty then .error .endOfInput else .ok line.toList
  catch e => return .error (.unread (toString e).toList)

partial def converse (d : Desk Store.Database) : IO Unit := do
  match ← nextLine d.promptText with
  | .error ending => ending.outputs.forM emit
  | .ok line =>
    let files ← match fileOf d.buffer line with
      | some path => readAccess path
      | none => pure noAccess
    let turn := d.take .standard Store.engine files line
    turn.outputs.forM emit
    if !turn.quits then converse turn.desk

def start (o : Options) : IO UInt32 := do
  (greeting o.database).forM emit
  match openSession (← databaseAccess o.database) o.database with
  | .error e =>
    emit (openingError e)
    return 1
  | .ok session =>
    let mut desk : Desk Store.Database := ⟨session, [], o.echo⟩
    for path in o.imports do
      let r := desk.importFile Store.engine (← readAccess path) ⟨path, none⟩
      desk := r.1
      r.2.forM emit
    converse desk
    return 0

end QueryDesk

def main (args : List String) : IO UInt32 := do
  match QueryDesk.Shell.Options.parse (args.map String.toList) with
  | .error arg =>
    QueryDesk.emit (QueryDesk.Shell.usageError arg)
    return 2
  | .ok o => QueryDesk.start o
