import QueryDesk.Text.Blank

/-!
# Table names

The table name that a file name suggests: its stem with an underscore for every run of blanks and
without the characters that a bare name cannot have. Nothing may be left of it.
-/

set_option autoImplicit false

namespace QueryDesk.Csv

open Text

/-- The text before the last point and the text after it. -/
def cutAtLastPoint? (t : Text) : Option (Text × Text) :=
  match t.reverse.dropWhile (· != '.') with
  | [] => none
  | _ :: before => some (before.reverse, (t.reverse.takeWhile (· != '.')).reverse)

/-- A file name without its extension. A point at the end begins none, nor does one in a directory
name. -/
def stem (fileName : Text) : Text :=
  match cutAtLastPoint? fileName with
  | some (before, extension) =>
    if extension.isEmpty || extension.contains '/' then fileName else before
  | none => fileName

/-- Keeps word characters and writes an underscore for every run of blanks. A character that is left
out ends a run. -/
def cleanName (afterBlank : Bool) : Text → Text
  | [] => []
  | c :: cs =>
    if isBlank c then if afterBlank then cleanName true cs else '_' :: cleanName true cs
    else if isWordChar c then c :: cleanName false cs
    else cleanName false cs

def tableName (fileName : Text) : Text := cleanName false (stem fileName)

end QueryDesk.Csv
