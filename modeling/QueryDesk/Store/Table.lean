import QueryDesk.Csv.ColumnType
import QueryDesk.Value
import QueryDesk.Store.Real

/-!
# Tables

Tables with typed columns, and what becomes of a value that is put into one. A column takes numbers
as its type wants them, and text that is written as a decimal number counts as that number; other
values stay as they are.
-/

set_option autoImplicit false

namespace QueryDesk.Store

structure Column where
  name : Text
  type : ColumnType
  deriving DecidableEq, Repr

structure Table where
  name : Text
  columns : List Column
  /-- Oldest first. -/
  rows : List (List Value)
  deriving DecidableEq, Repr

/-- The tables in the order in which they were created. No two have the same name. -/
structure Database where
  tables : List Table
  deriving DecidableEq, Repr

namespace Database

def empty : Database := ⟨[]⟩

def find? (d : Database) (name : Text) : Option Table :=
  d.tables.find? fun t => Text.sameWord t.name name

def add (d : Database) (t : Table) : Database := ⟨d.tables ++ [t]⟩

/-- Puts rows at the end of the table of that name. -/
def append (d : Database) (name : Text) (rows : List (List Value)) : Database :=
  ⟨d.tables.map fun t => if Text.sameWord t.name name then { t with rows := t.rows ++ rows } else t⟩

end Database

/-- The ASCII characters that may stand around a number in text. -/
def isSpacing (c : Char) : Bool := c == ' ' || (9 ≤ c.toNat && c.toNat ≤ 13)

/-- The decimal number that a text is written as. -/
def numeral? (t : Text) : Option Numeral := Numeral.parse? (Text.trimWhile isSpacing t)

/-- The integer, if 64 bits hold it. -/
def integer? (i : Int) : Option Int64 :=
  if Int64.minValue.toInt ≤ i ∧ i ≤ Int64.maxValue.toInt then some (Int64.ofInt i) else none

/-- The integer that a numeral is written as, if it is one that 64 bits hold. -/
def writtenInteger? (n : Numeral) : Option Int64 :=
  if n.plain then integer? (if n.negative then -(n.digits : Int) else n.digits) else none

/-- A number as an integer if it is whole and between the least and the greatest. -/
def asInteger (x : Binary64) : Value :=
  if x.isWhole && x.units < Binary64.signUnit * Binary64.unitsPerOne then
    let n : Int := (x.units / Binary64.unitsPerOne : Nat)
    .integer (Int64.ofInt (if x.negative then -n else n))
  else .real x

/-- There is one zero. -/
def asReal (x : Binary64) : Value := .real (if x.units = 0 then .zero false else x)

/-- The value that a column of a type keeps when it is given one. -/
def stored : ColumnType → Value → Value
  | .text, .integer i => .text (Text.ofInt i.toInt)
  | .text, .real x => .text (numberText x)
  | .integer, .real x => asInteger x
  | .integer, .text t =>
    match numeral? t with
    | none => .text t
    | some n =>
      match writtenInteger? n with
      | some i => .integer i
      | none => asInteger (readReal n)
  | .real, .integer i => .real (.ofInt i.toInt)
  | .real, .real x => asReal x
  | .real, .text t =>
    match numeral? t with
    | none => .text t
    | some n => asReal (readReal n)
  | _, v => v

example : stored .integer (.text "-12".toList) = .integer (-12) := by decide +kernel
example : stored .integer (.text "0x10".toList) = .text "0x10".toList := by decide +kernel

end QueryDesk.Store
