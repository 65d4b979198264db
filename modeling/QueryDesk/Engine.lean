import QueryDesk.Error
import QueryDesk.Value

/-!
# Engines

What a desk asks of a database: run a batch of statements, return the rows of a batch, and insert
rows through a prepared statement. Every request may fail, and a failed request may have changed the
database.
-/

set_option autoImplicit false

namespace QueryDesk

/-- One row with the names of its columns. -/
structure Row where
  columns : List Text
  values : List Value
  deriving DecidableEq, Repr

/-- The value under the first column of that name, letters in either case. -/
def Row.get? (r : Row) (name : Text) : Option Value :=
  (r.columns.findIdx? (Text.sameWord · name)).bind (r.values[·]?)

/-- The rows that one statement has produced. -/
structure ResultSet where
  columns : List Text
  rows : List (List Value)
  deriving DecidableEq, Repr

/-- An action on a state that may fail. It leaves a state behind in either case. -/
abbrev Action (σ α : Type) := ExceptT Error (StateM σ) α

/-- A database over states of type `σ`. -/
structure Engine (σ : Type) where
  /-- Runs a batch and drops the rows. -/
  execute : Text → Action σ Unit
  /-- Runs a batch; one result for each statement that has columns, in order. -/
  query : Text → Action σ (List ResultSet)
  /-- Runs a statement once for each row, with its fields bound as text, and counts the rows. -/
  insertRows : Text → List (List Text) → Action σ Nat

/-- A request to an engine. -/
inductive Call where
  | execute (sql : Text)
  | query (sql : Text)
  | insertRows (template : Text) (rows : List (List Text))
  deriving DecidableEq, Repr

namespace Engine

variable {σ : Type}

/-- The same action beside a log, which it leaves alone. -/
def besideLog {α : Type} (action : Action σ α) : Action (σ × List Call) α :=
  ExceptT.mk fun s => ((action s.1).1, ((action s.1).2, s.2))

def note (call : Call) : Action (σ × List Call) Unit := modify fun s => (s.1, s.2 ++ [call])

/-- The same engine with a log of the requests made to it, oldest first. -/
def logged (e : Engine σ) : Engine (σ × List Call) where
  execute sql := do note (.execute sql); besideLog (e.execute sql)
  query sql := do note (.query sql); besideLog (e.query sql)
  insertRows template rows := do
    note (.insertRows template rows)
    besideLog (e.insertRows template rows)

end Engine

end QueryDesk
