import QueryDesk.Number.Literal
import QueryDesk.Csv.Document

/-!
# Column types

The types that an imported column can have, and how its values decide between them. One value that
is no number makes a column text; one number that is not whole makes it real. Empty values have no
say, and a column without others is text.
-/

set_option autoImplicit false

namespace QueryDesk

inductive ColumnType where
  | integer
  | real
  | text
  deriving DecidableEq, Repr

instance : Inhabited ColumnType := ⟨.text⟩

namespace ColumnType

/-- The name in a column definition. -/
def sqlName : ColumnType → Text
  | .integer => "INTEGER".toList
  | .real => "REAL".toList
  | .text => "TEXT".toList

/-- The type that values so far agree on, given the next one that is not empty. -/
def inferFrom (sofar : ColumnType) : List Text → ColumnType
  | [] => sofar
  | v :: vs =>
    if v.isEmpty then inferFrom sofar vs
    else
      match NumberLiteral.parse? v with
      | none => .text
      | some x => inferFrom (if x.isWhole then sofar else .real) vs

/-- The type of a column with the given values. -/
def infer (values : List Text) : ColumnType :=
  if values.all (·.isEmpty) then .text else inferFrom .integer values

/-- One type for each header, from the fields in its place. -/
def inferAll (d : Csv.Document) : List ColumnType :=
  (List.range d.columnCount).map fun i => infer (d.column i)

end ColumnType

end QueryDesk
