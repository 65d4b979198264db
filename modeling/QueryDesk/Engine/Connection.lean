import QueryDesk.Engine

/-!
# Connections

What an engine needs of a SQL database that is driven through prepared statements. `Statements` is
the part that prepares and runs single statements, `Connection` adds the run of a whole batch without
results. Nothing is said of what lies behind. `Connection.engine` is the engine over a connection: it
takes the statements of a batch one after another, each prepared after those before it have run, and
runs a prepared insertion once for each row.
-/

set_option autoImplicit false

namespace QueryDesk

/-- Why a database refuses SQL. Where that can be pointed at, the text that was handed in is known,
with the byte offset in it. -/
structure Failure where
  reason : Text
  place : Option (Text × Nat)
  deriving DecidableEq, Repr

namespace Failure

def message (f : Failure) : Text :=
  match f.place with
  | none => f.reason
  | some (sql, offset) =>
    f.reason ++ " in ".toList ++ sql ++ " at offset ".toList ++ Text.ofNat offset

def toError (f : Failure) : Error := .engine f.message

/-- The failure of a statement that has been prepared, where nothing is pointed at any more. -/
def ofReason (reason : Text) : Failure := ⟨reason, none⟩

end Failure

/-- A cell as a database hands it out. Text is octets, which need not be UTF-8. -/
inductive Cell where
  | null
  | integer (i : Int64)
  | real (x : Binary64)
  | text (octets : Bytes)
  | blob (octets : Bytes)
  deriving DecidableEq, Repr

def Value.ofCell : Cell → Value
  | .null => .null
  | .integer i => .integer i
  | .real x => .real x
  | .text octets => .ofStoredText octets
  | .blob octets => .blob octets

/-- The rows of a query, one asked for after another. With each comes the state in which a query
leaves the database that is given up there. -/
inductive RowCursor (σ : Type) where
  | done (s : σ)
  | failed (reason : Text) (s : σ)
  | row (cells : List Cell) (s : σ) (more : RowCursor σ)

/-- Prepared statements over states of type `σ`. -/
structure Statements (σ : Type) where
  Statement : Type
  /-- Prepares the first statement of a text. -/
  prepare : Text → σ → Except Failure Statement
  /-- Prepares the first statement of what is left of a batch, and leaves the rest. There is none if
  nothing but blanks, comments and semicolons is left. -/
  next : Text → σ → Except Failure (Option (Statement × Text))
  next_shorter {sql rest : Text} {s : σ} {st : Statement} :
    next sql s = .ok (some (st, rest)) → rest.length < sql.length
  /-- The names of the columns of a result. What has no result has none. -/
  columns : Statement → List Text
  /-- Runs a statement with texts for its parameters; the number of rows that it has changed, or the
  reason why it fails. -/
  execute : Statement → List Text → σ → Except Text Nat × σ
  /-- Runs a statement without parameters for its rows. -/
  query : Statement → σ → RowCursor σ

namespace RowCursor

variable {σ : Type}

/-- The values of a row in so many columns. -/
def values (width : Nat) (cells : List Cell) : Except Text (List Value) :=
  (List.range width).mapM fun i =>
    match cells[i]? with
    | some cell => .ok (.ofCell cell)
    | none => .error ("Invalid column index: ".toList ++ Text.ofNat i)

/-- All rows, unless one fails. -/
def collect (width : Nat) : RowCursor σ → Except Text (List (List Value)) × σ
  | .done s => (.ok [], s)
  | .failed reason s => (.error reason, s)
  | .row cells s more =>
    match values width cells with
    | .error reason => (.error reason, s)
    | .ok first =>
      let rest := more.collect width
      (rest.1.map (first :: ·), rest.2)

end RowCursor

namespace Statements

variable {σ : Type} (c : Statements σ)

/-- Runs one statement. It has a result if it has columns. -/
def runOne (st : c.Statement) (s : σ) : Except Text (Option ResultSet) × σ :=
  let columns := c.columns st
  if columns.length = 0 then
    let r := c.execute st [] s
    (r.1.map fun _ => none, r.2)
  else
    let r := (c.query st s).collect columns.length
    (r.1.map fun rows => some ⟨columns, rows⟩, r.2)

/-- Runs the statements of a batch up to the first that fails. Results are lost with a failure, what
has been done to the database is not. -/
def runBatch (sql : Text) (s : σ) : Except Failure (List ResultSet) × σ :=
  match _found : c.next sql s with
  | .error f => (.error f, s)
  | .ok none => (.ok [], s)
  | .ok (some (st, rest)) =>
    match c.runOne st s with
    | (.error reason, s) => (.error (.ofReason reason), s)
    | (.ok result, s) =>
      let r := runBatch rest s
      (r.1.map (result.toList ++ ·), r.2)
  termination_by sql.length
  decreasing_by exact c.next_shorter _found

/-- Runs a statement once for each row of texts, up to the first that fails, and adds up the rows
that are changed. -/
def insertEach (st : c.Statement) : List (List Text) → σ → Except Text Nat × σ
  | [], s => (.ok 0, s)
  | row :: rows, s =>
    match c.execute st row s with
    | (.error reason, s) => (.error reason, s)
    | (.ok n, s) =>
      let r := insertEach st rows s
      (r.1.map (n + ·), r.2)

end Statements

/-- A connection to a database. -/
structure Connection (σ : Type) extends Statements σ where
  /-- Runs a batch and drops what its statements give back. -/
  executeBatch : Text → σ → Except Failure Unit × σ

namespace Connection

variable {σ α : Type} (c : Connection σ)

/-- An action that fails where the database does. -/
def raise (request : σ → Except Failure α × σ) : Action σ α :=
  ExceptT.mk fun s => ((request s).1.mapError Failure.toError, (request s).2)

def insertRows (template : Text) (rows : List (List Text)) (s : σ) : Except Failure Nat × σ :=
  match c.prepare template s with
  | .error f => (.error f, s)
  | .ok st =>
    let r := c.insertEach st rows s
    (r.1.mapError .ofReason, r.2)

/-- The engine over a connection. -/
def engine : Engine σ where
  execute sql := raise (c.executeBatch sql)
  query sql := raise (c.runBatch sql)
  insertRows template rows := raise (c.insertRows template rows)

end Connection

end QueryDesk
