import QueryDesk.Text.Quoted

/-!
# Errors

What can go wrong between a file and a table, by the stage that failed.
-/

set_option autoImplicit false

namespace QueryDesk

inductive Error where
  /-- A file could not be read. -/
  | io (reason : Text)
  /-- The text to import holds no line that is not blank. -/
  | emptyInput
  /-- The header line gives the columns no names. -/
  | invalidHeader (reason : Text)
  /-- No table can have this name. -/
  | invalidTableName (name : Text)
  /-- The database refused a statement or failed at it. -/
  | engine (reason : Text)
  deriving DecidableEq, Repr

namespace Error

/-- The header line names no column. -/
def noColumnNames (line : Text) : Error :=
  .invalidHeader ("no column names in ".toList ++ Text.quoted line)

def message : Error → Text
  | .io reason => "I/O error: ".toList ++ reason
  | .emptyInput => "empty input: no non-blank lines".toList
  | .invalidHeader reason => "invalid header: ".toList ++ reason
  | .invalidTableName name => "invalid table name: ".toList ++ Text.quoted name
  | .engine reason => "SQL error: ".toList ++ reason

/-- The failure of the operating system that lies under an error. -/
def cause? : Error → Option Text
  | .io reason => some reason
  | _ => none

end Error

end QueryDesk
