import QueryDesk.Engine.Connection
import QueryDesk.Sql.Span
import QueryDesk.Store.Statement

/-!
# A store as a database

A store of tables behind a connection. A statement is refused when it is prepared, if it is not read
or does not fit the tables, and again when it is run, if it does not fit them any more. A refusal of
the first kind that has to do with a word of the statement points at it.
-/

set_option autoImplicit false

namespace QueryDesk.Store

open Statement
open Sql (Token)

/-- Why a statement is refused. -/
inductive Refusal where
  /-- The text from the given word on is no statement. -/
  | unreadable (word : Text)
  | noSuchTable (table : Text)
  | tableExists (table : Text)
  | duplicateColumn (column : Text)
  | noSuchColumn (table column : Text)
  | wrongWidth (table : Text) (columns values : Nat)
  | wrongCount (values columns : Nat)
  deriving DecidableEq, Repr

def Refusal.reason : Refusal → Text
  | .unreadable word => "near \"".toList ++ word ++ "\": syntax error".toList
  | .noSuchTable table => "no such table: ".toList ++ table
  | .tableExists table => "table ".toList ++ table ++ " already exists".toList
  | .duplicateColumn column => "duplicate column name: ".toList ++ column
  | .noSuchColumn table column =>
    "table ".toList ++ table ++ " has no column named ".toList ++ column
  | .wrongWidth table columns values =>
    "table ".toList ++ table ++ " has ".toList ++ Text.ofNat columns ++ " columns but ".toList ++
      Text.ofNat values ++ " values were supplied".toList
  | .wrongCount values columns =>
    Text.ofNat values ++ " values for ".toList ++ Text.ofNat columns ++ " columns".toList

/-- The first column that has the name of one before it. -/
def repeatedName? (before : List Column) : List Column → Option Text
  | [] => none
  | c :: cs =>
    if before.any fun b => Text.sameWord b.name c.name then some c.name
    else repeatedName? (c :: before) cs

def createTable (d : Database) (table : Text) (ifMissing : Bool) (columns : List Column) :
    Except Refusal Database :=
  match d.find? table with
  | some _ => if ifMissing then .ok d else .error (.tableExists table)
  | none =>
    match repeatedName? [] columns with
    | some column => .error (.duplicateColumn column)
    | none => .ok (d.add ⟨table, columns, []⟩)

/-- Binds texts to the parameters of a row, in order. A parameter without one is null. -/
def bindRow : List Operand → List Text → List Value
  | [], _ => []
  | .literal v :: operands, texts => v :: bindRow operands texts
  | .parameter :: operands, [] => .null :: bindRow operands []
  | .parameter :: operands, t :: texts => .text t :: bindRow operands texts

def parameterCount (operands : List Operand) : Nat := operands.countP (· == .parameter)

def bindRows : List (List Operand) → List Text → List (List Value)
  | [], _ => []
  | row :: rows, texts => bindRow row texts :: bindRows rows (texts.drop (parameterCount row))

/-- The row that a table keeps when values are given for the listed columns, or for all of them. -/
def placed (t : Table) (names : Option (List Text)) (values : List Value) : List Value :=
  match names with
  | none => List.zipWith (fun c v => stored c.type v) t.columns values
  | some names =>
    t.columns.map fun c =>
      let given := (names.findIdx? fun n => Text.sameWord n c.name).bind fun i => values[i]?
      stored c.type (given.getD .null)

/-- Why values cannot be put into the listed columns of a table. -/
def misfit? (t : Table) (table : Text) (names : Option (List Text)) (values : List Value) :
    Option Refusal :=
  match names with
  | none =>
    if values.length = t.columns.length then none
    else some (.wrongWidth table t.columns.length values.length)
  | some names =>
    match names.find? fun n => !t.columns.any fun c => Text.sameWord c.name n with
    | some n => some (.noSuchColumn table n)
    | none =>
      if values.length = names.length then none
      else some (.wrongCount values.length names.length)

def insertRows (d : Database) (table : Text) (names : Option (List Text))
    (rows : List (List Value)) : Except Refusal Database :=
  match d.find? table with
  | none => .error (.noSuchTable table)
  | some t =>
    match rows.findSome? (misfit? t table names) with
    | some refusal => .error refusal
    | none => .ok (d.append table (rows.map (placed t names)))

def selectAll (d : Database) (table : Text) (limit : Option Nat) : Except Refusal ResultSet :=
  match d.find? table with
  | none => .error (.noSuchTable table)
  | some t =>
    let rows := match limit with
      | some n => t.rows.take n
      | none => t.rows
    .ok ⟨t.columns.map Column.name, rows⟩

/-- The names of the tables as texts in one column. -/
def tableNames (d : Database) : ResultSet := ⟨["name".toList], d.tables.map fun t => [.text t.name]⟩

/-- The database after a statement with texts for its parameters, and the results of one that has
columns. -/
def runStatement (d : Database) (texts : List Text) :
    Statement → Except Refusal (Database × List ResultSet)
  | .createTable table ifMissing columns =>
    (createTable d table ifMissing columns).map fun d => (d, [])
  | .insert table names rows =>
    (insertRows d table names (bindRows rows texts)).map fun d => (d, [])
  | .selectAll table limit => (selectAll d table limit).map fun r => (d, [r])
  | .selectLiterals items => .ok (d, [⟨items.map Prod.fst, [items.map Prod.snd]⟩])
  | .selectTableNames => .ok (d, [tableNames d])

/-- The number of parameters. -/
def Statement.parameters : Statement → Nat
  | .insert _ _ rows => parameterCount rows.flatten
  | _ => 0

/-- The number of rows that a statement adds. -/
def Statement.added : Statement → Nat
  | .insert _ _ rows => rows.length
  | _ => 0

/-- A statement that has been read, and the columns of its result. -/
structure Prepared where
  statement : Statement
  columns : List Text
  deriving DecidableEq, Repr

/-- Reads a statement and tries it out. -/
def prepareTokens (d : Database) (ts : List Token) : Except Refusal Prepared :=
  match read? ts with
  | none => .error (.unreadable ((ts.head?.map Token.text).getD []))
  | some s => (runStatement d [] s).map fun r =>
      ⟨s, (r.2.head?.map ResultSet.columns).getD []⟩

/-- What may stand in front of a statement. -/
def isIdle (t : Token) : Bool := !t.isSignificant || t.isSemicolon

/-- The first statement, without its semicolon. -/
def firstStatement (ts : List Token) : List Token :=
  (ts.dropWhile isIdle).takeWhile (!Token.isSemicolon ·)

/-- What stands behind the first statement and its semicolon. -/
def afterFirst (sql : Text) : Text :=
  let ts := tokens sql
  sql.drop ((Token.concat (ts.takeWhile isIdle ++ firstStatement ts)).length + 1)

/-- The part of a statement that begins where a refusal points at. -/
def Refusal.place? (ts : List Token) : Refusal → Option (List Token)
  | .unreadable _ => some ts
  | .tableExists _ => (afterWords? ["CREATE", "TABLE"] ts).map skip
  | _ => none

/-- The refusal of the first statement of a text. -/
def Refusal.failure (sql : Text) (r : Refusal) : Failure :=
  let ts := tokens sql
  let size (ts : List Token) := Text.byteSize (Token.concat ts)
  ⟨r.reason, (r.place? (firstStatement ts)).map fun there =>
    (sql, size (ts.takeWhile isIdle) + (size (firstStatement ts) - size there))⟩

def prepareFirst (sql : Text) (d : Database) : Except Failure Prepared :=
  (prepareTokens d (firstStatement (tokens sql))).mapError (Refusal.failure sql)

def prepareNext (sql : Text) (d : Database) : Except Failure (Option (Prepared × Text)) :=
  if (firstStatement (tokens sql)).isEmpty then .ok none
  else (prepareFirst sql d).map fun p => some (p, afterFirst sql)

theorem afterFirst_shorter {sql rest : Text} {d : Database} {p : Prepared}
    (found : prepareNext sql d = .ok (some (p, rest))) : rest.length < sql.length := by
  rw [prepareNext] at found
  split at found
  case isTrue => cases found
  case isFalse some =>
    have full : sql ≠ [] := by
      rintro rfl
      exact some (by decide +kernel)
    have positive := List.length_pos_iff.2 full
    generalize prepareFirst sql d = outcome at found
    cases outcome with
    | error failure => cases found
    | ok p =>
      cases found
      rw [afterFirst, List.length_drop]
      omega

def wrongParameterCount (got needed : Nat) : Text :=
  "Wrong number of parameters passed to query. Got ".toList ++ Text.ofNat got ++
    ", needed ".toList ++ Text.ofNat needed

def unexpectedResults : Text := "Execute returned results - did you mean to call query?".toList

def executePrepared (p : Prepared) (texts : List Text) (d : Database) :
    Except Text Nat × Database :=
  if texts.length = p.statement.parameters then
    match runStatement d texts p.statement with
    | .error refusal => (.error refusal.reason, d)
    | .ok (d, []) => (.ok p.statement.added, d)
    | .ok (_, _ :: _) => (.error unexpectedResults, d)
  else (.error (wrongParameterCount texts.length p.statement.parameters), d)

def cellOf : Value → Cell
  | .null => .null
  | .integer i => .integer i
  | .real x => .real x
  | .text t => .text (Text.encode t)
  | .blob octets => .blob octets

def queryPrepared (p : Prepared) (d : Database) : RowCursor Database :=
  match runStatement d [] p.statement with
  | .error refusal => .failed refusal.reason d
  | .ok (d, results) =>
    (results.flatMap ResultSet.rows).foldr (fun row more => .row (row.map cellOf) d more) (.done d)

def statements : Statements Database where
  Statement := Prepared
  prepare := prepareFirst
  next := prepareNext
  next_shorter := afterFirst_shorter
  columns := Prepared.columns
  execute := executePrepared
  query := queryPrepared

def connection : Connection Database where
  toStatements := statements
  executeBatch sql d :=
    let r := statements.runBatch sql d
    (r.1.map fun _ => (), r.2)

def engine : Engine Database := connection.engine

/-- The statements that make the table every new desk begins with. -/
def demoStatements : Text :=
  ("CREATE TABLE users (id INTEGER, name TEXT);\n" ++
    "INSERT INTO users VALUES (1, 'Leonardo'), (2, 'Agata');").toList

def demo : Database := (connection.executeBatch demoStatements Database.empty).2

end QueryDesk.Store
