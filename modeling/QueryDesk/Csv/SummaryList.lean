import QueryDesk.Csv.Plan

/-!
# Summaries as JSON

Import summaries as JSON text, on one line or indented by two spaces. Strings escape the quote, the
backslash and the control characters below the space, and nothing else.
-/

set_option autoImplicit false

namespace QueryDesk.Csv

open Text

def jsonChar (c : Char) : Text :=
  if c = '"' then "\\\"".toList
  else if c = '\\' then "\\\\".toList
  else if c = '\x08' then "\\b".toList
  else if c = '\t' then "\\t".toList
  else if c = '\n' then "\\n".toList
  else if c = '\x0c' then "\\f".toList
  else if c = '\r' then "\\r".toList
  else if c.toNat < 0x20 then
    "\\u00".toList ++ [Nat.digitChar (c.toNat / 16), Nat.digitChar (c.toNat % 16)]
  else [c]

def jsonString (t : Text) : Text := '"' :: t.flatMap jsonChar ++ ['"']

namespace Summary

/-- The members of a summary, in order, with their values as JSON. -/
def members (s : Summary) : List (Text × Text) :=
  [("table".toList, jsonString s.table), ("columns".toList, Text.ofNat s.columns),
   ("rows".toList, Text.ofNat s.rows)]

def toJson (s : Summary) : Text :=
  '\x7b' :: join [','] (s.members.map fun m => jsonString m.1 ++ ':' :: m.2) ++ ['\x7d']

/-- A summary as an element of an indented list. -/
def toIndentedJson (s : Summary) : Text :=
  let line (m : Text × Text) : Text := "    ".toList ++ jsonString m.1 ++ ": ".toList ++ m.2
  "  \x7b\n".toList ++ join [',', '\n'] (s.members.map line) ++ "\n  \x7d".toList

def listToJson (summaries : List Summary) : Text :=
  '[' :: join [','] (summaries.map toJson) ++ [']']

def listToIndentedJson (summaries : List Summary) : Text :=
  if summaries.isEmpty then "[]".toList
  else "[\n".toList ++ join [',', '\n'] (summaries.map toIndentedJson) ++ "\n]".toList

end Summary

end QueryDesk.Csv
