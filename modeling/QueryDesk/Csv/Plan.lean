import QueryDesk.Csv.ColumnType

/-!
# Import plans

All that is needed to load one document into a table: its columns with their types, the statement
that creates the table, and the statement that is run once per row. Names are written as they are.
-/

set_option autoImplicit false

namespace QueryDesk.Csv

open Text

/-- The statement that creates a table, each header with the type in its place. -/
def createStatement (table : Text) (headers : List Text) (types : List ColumnType) : Text :=
  let columns := List.zipWith (fun header type => header ++ ' ' :: type.sqlName) headers types
  "CREATE TABLE IF NOT EXISTS ".toList ++ table ++ " (".toList ++ join [',', ' '] columns ++
    ");".toList

/-- The statement that inserts one row, with a placeholder for each header. There is none for a
document without rows. -/
def insertStatement (table : Text) (headers : List Text) (rows : List (List Text)) : Text :=
  if rows.isEmpty then []
  else
    "INSERT INTO ".toList ++ table ++ " (".toList ++ join [',', ' '] headers ++
      ") VALUES (".toList ++ join [',', ' '] (headers.map fun _ => ['?']) ++ ");".toList

/-- What an import has done. -/
structure Summary where
  table : Text
  columns : Nat
  rows : Nat
  deriving DecidableEq, Repr

structure Plan where
  table : Text
  document : Document
  types : List ColumnType
  create : Text
  /-- Empty when there are no rows. -/
  insert : Text
  deriving DecidableEq, Repr

namespace Plan

def ofDocument (table : Text) (d : Document) : Plan :=
  let types := ColumnType.inferAll d
  { table := table
    document := d
    types := types
    create := createStatement table d.headers types
    insert := insertStatement table d.headers d.rows }

/-- The plan to load a text into a table. A table without a name is refused before the text is
read. -/
def ofText (table t : Text) : Except Error Plan :=
  if table.isEmpty then .error (.invalidTableName table)
  else (parse t).map (ofDocument table)

def summary (p : Plan) : Summary := ⟨p.table, p.document.columnCount, p.document.rowCount⟩

end Plan

end QueryDesk.Csv
