import QueryDesk.Shell.Dialogue
import QueryDesk.Store.Batch

/-!
# Runs

A whole run of the program: its arguments, the database it opens, the files it imports first, and
the dialogue over its input.
-/

set_option autoImplicit false

namespace QueryDesk.Shell

structure Options where
  /-- The database file; without one the demo tables live in memory. -/
  database : Option Text
  imports : List Text
  echo : Bool
  deriving DecidableEq, Repr

namespace Options

def initial : Options := ⟨none, [], false⟩

def importOption : Text := "--import".toList

/-- Takes up the name of a database. There is one at most. -/
def withDatabase (o : Options) (arg : Text) : Except Text Options :=
  if o.database.isSome then .error arg else .ok { o with database := some arg }

/-- Takes up an argument that stands alone. The one for a log is taken, and no log is written. -/
def place (o : Options) (arg : Text) : Except Text Options :=
  if arg = "--html".toList then .ok { o with echo := true }
  else if arg = "--debug".toList then .ok o
  else if (importOption ++ ['=']).isPrefixOf arg then
    .ok { o with imports := o.imports ++ [arg.drop (importOption.length + 1)] }
  else if arg.head? == some '-' && arg != ['-'] then .error arg
  else o.withDatabase arg

/-- Reads arguments one after another. One that cannot be placed is the error. After two dashes no
argument is an option. -/
def parseFrom (o : Options) : List Text → Except Text Options
  | [] => .ok o
  | arg :: args =>
    if arg = ['-', '-'] then args.foldlM withDatabase o
    else if arg = importOption then
      match args with
      | [] => .error arg
      | path :: args => parseFrom { o with imports := o.imports ++ [path] } args
    else (o.place arg).bind fun o => parseFrom o args

def parse (args : List Text) : Except Text Options := parseFrom initial args

end Options

/-- The first lines of a run. -/
def greeting (database : Option Text) : List Output :=
  [outLine "sqlpad v0.1.0".toList, outLine "Enter \".help\" for usage hints.".toList,
   outLine ("Connected to ".toList ++
     database.getD "a transient in-memory database.".toList)]

/-- The file that the name of a database asks for. -/
def databaseFile? (database : Option Text) : Option Text :=
  database.filter fun name => !name.isEmpty && name != ":memory:".toList

/-- Opens a database. Only the one without a name holds the demo table. -/
def openSession (files : FileAccess) (database : Option Text) :
    Except Error (Session Store.Database) :=
  match databaseFile? database with
  | some path =>
    if files.canHold path then .ok (.start Store.Database.empty)
    else .error (.engine ("unable to open database file: ".toList ++ path))
  | none => .ok (.start (if database.isNone then Store.demo else Store.Database.empty))

/-- The renderings of the program. -/
def Renderings.standard : Renderings :=
  ⟨Sql.Layout.Indented.indent, Csv.Summary.listToIndentedJson⟩

/-- What a run leaves behind, but for its log. -/
structure Transcript where
  stdout : Text
  stderr : Text
  exit : Nat
  deriving DecidableEq, Repr

def Transcript.ofOutputs (outputs : List Output) (exit : Nat) : Transcript :=
  { stdout := outputs.flatMap fun
      | .out t => t
      | .err _ | .log _ => []
    stderr := outputs.flatMap fun
      | .err t => t
      | .out _ | .log _ => []
    exit := exit }

def openingError (e : Error) : Output := errLine ("Error opening database: ".toList ++ e.message)

def usageError (arg : Text) : Output :=
  errLine ("error: unexpected argument '".toList ++ arg ++ "' found".toList)

/-- A run with the given arguments and input. -/
def run (args : List Text) (files : FileAccess) (input : Text) : Transcript :=
  match Options.parse args with
  | .error arg => .ofOutputs [usageError arg] 2
  | .ok o =>
    match openSession files o.database with
    | .error e => .ofOutputs (greeting o.database ++ [openingError e]) 1
    | .ok session =>
      let imported := Desk.importAll Store.engine files ⟨session, [], o.echo⟩ o.imports
      .ofOutputs (greeting o.database ++ imported.2 ++
        imported.1.takeAll .standard Store.engine files .endOfInput (splitLines input)) 0

end QueryDesk.Shell
