import QueryDesk.Error
import QueryDesk.Text.Blank

/-!
# Comma-separated documents

Text with a header line and data lines. Every comma separates two fields, also one between quotes.
Headers are made into names; data fields lose the blanks around them. A data line with more or fewer
fields than the header is left out, so every row of a document has as many fields as it has headers.
-/

set_option autoImplicit false

namespace QueryDesk.Csv

open Text

structure Document where
  headers : List Text
  rows : List (List Text)
  deriving DecidableEq, Repr

namespace Document

def columnCount (d : Document) : Nat := d.headers.length

def rowCount (d : Document) : Nat := d.rows.length

/-- The fields in one place, from the rows that have it. -/
def column (d : Document) (index : Nat) : List Text := d.rows.filterMap (·[index]?)

end Document

def isQuote (c : Char) : Bool := c == '"' || c == '\''

/-- A header as a name: without blanks and quotes around it or quotes in it, and with an underscore
for every run of blanks. -/
def headerName (field : Text) : Text :=
  underscoreBlanks false ((trim field).filter (!isQuote ·))

def withoutByteOrderMark : Text → Text
  | c :: cs => if c = byteOrderMark then cs else c :: cs
  | [] => []

/-- A line without the carriage return at its end. -/
def withoutReturn (line : Text) : Text :=
  if line.getLast? = some '\r' then line.dropLast else line

/-- The lines that are not blank. -/
def contentLines (t : Text) : List Text :=
  (((withoutByteOrderMark t).splitOn '\n').map withoutReturn).filter (!allBlank ·)

/-- The fields of a line. There is at least one. -/
def fields (line : Text) : List Text := line.splitOn ','

/-- The rows of the data lines that have the given number of fields. -/
def dataRows (count : Nat) (lines : List Text) : List (List Text) :=
  (lines.map fun line => (fields line).map trim).filter fun row => row.length == count

/-- Reads a text as a document. -/
def parse (t : Text) : Except Error Document :=
  match contentLines t with
  | [] => .error .emptyInput
  | first :: lines =>
    let headers := (fields first).map headerName
    if headers.all (·.isEmpty) then .error (.noColumnNames (trim first))
    else .ok ⟨headers, dataRows headers.length lines⟩

end QueryDesk.Csv
