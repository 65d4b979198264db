import QueryDesk.Csv.Plan
import QueryDesk.Csv.TableName
import QueryDesk.Engine
import QueryDesk.Files

/-!
# Sessions

One database and the tables that have been imported into it. An import is recorded after all of its
steps have succeeded, and nothing else changes the record.
-/

set_option autoImplicit false

namespace QueryDesk

open Csv (Summary Plan)

/-- The query suggested after an import and for the first table of an overview. -/
def previewQuery (table : Text) : Text :=
  "SELECT * FROM ".toList ++ table ++ " LIMIT 10;".toList

/-- The query for the names of all tables. -/
def tableNamesQuery : Text := "SELECT name FROM sqlite_master WHERE type = 'table';".toList

/-- The texts in the first column of results. -/
def firstTexts (results : List ResultSet) : List Text :=
  (results.flatMap ResultSet.rows).filterMap fun row => row.head?.bind Value.asText?

/-- SQL that lists tables in comments and previews the first. There is none without a table. -/
def overview? : List Text → Option Text
  | [] => none
  | first :: more =>
    some ("-- Tables in this database:\n".toList ++
      (first :: more).flatMap (fun name => "-- * ".toList ++ name ++ ['\n']) ++
      "\n-- Example query:\n".toList ++ previewQuery first)

structure Session (σ : Type) where
  database : σ
  /-- Oldest first. -/
  imported : List Summary
  deriving DecidableEq, Repr

namespace Session

variable {σ : Type}

def start (database : σ) : Session σ := ⟨database, []⟩

/-- An action on the database of a session. -/
def onDatabase {α : Type} (action : Action σ α) : Action (Session σ) α :=
  ExceptT.mk fun s => ((action s.database).1, { s with database := (action s.database).2 })

def record (summary : Summary) : Action (Session σ) Unit :=
  modify fun s => { s with imported := s.imported ++ [summary] }

/-- Runs a batch. -/
def run (e : Engine σ) (sql : Text) : Action (Session σ) (List ResultSet) := onDatabase (e.query sql)

/-- Loads the rows of a plan into its table, which is created if it is missing. -/
def load (e : Engine σ) (plan : Plan) : Action (Session σ) Summary := do
  onDatabase (e.execute plan.create)
  if !plan.insert.isEmpty then
    let _ ← onDatabase (e.insertRows plan.insert plan.document.rows)
  record plan.summary
  return plan.summary

/-- Imports a text into a table. -/
def importText (e : Engine σ) (table t : Text) : Action (Session σ) Summary := do
  load e (← ExceptT.mk (pure (Plan.ofText table t)))

/-- The table for a file: the one that is asked for, or the one its name suggests. -/
def tableFor (path : Text) : Option Text → Except Error Text
  | some table => .ok table
  | none =>
    let fileName := (Files.fileName? path).getD []
    let table := Csv.tableName fileName
    if table.isEmpty then .error (.invalidTableName fileName) else .ok table

/-- Imports a file. It is read before a table is found for it. -/
def importFile (e : Engine σ) (files : FileAccess) (path : Text) (table : Option Text) :
    Action (Session σ) Summary := do
  let t ← ExceptT.mk (pure ((files.readText path).mapError fun f => .io f.message))
  let name ← ExceptT.mk (pure (tableFor path table))
  importText e name t

/-- The names of all tables in the order in which they were created. -/
def tableNames (e : Engine σ) : Action (Session σ) (List Text) :=
  return firstTexts (← run e tableNamesQuery)

def tablesOverview (e : Engine σ) : Action (Session σ) (Option Text) :=
  return overview? (← tableNames e)

end Session

end QueryDesk
