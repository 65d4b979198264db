import QueryDesk.Sql.Token
import QueryDesk.Store.Table

/-!
# Statements

The statements that a store understands, and how they are read from tokens: creating a table,
inserting rows, and selecting a whole table, a row of literals or the names of the tables. Words are
read in any case; comments and blanks between tokens do nothing.
-/

set_option autoImplicit false

namespace QueryDesk.Store

open Text Sql

/-- What stands for a value in a row to be inserted. -/
inductive Operand where
  | literal (v : Value)
  /-- A value that is bound later. -/
  | parameter
  deriving DecidableEq, Repr

inductive Statement where
  | createTable (table : Text) (ifMissing : Bool) (columns : List Column)
  | insert (table : Text) (columns : Option (List Text)) (rows : List (List Operand))
  | selectAll (table : Text) (limit : Option Nat)
  /-- Literals, each under its text as it is written. -/
  | selectLiterals (items : List (Text × Value))
  | selectTableNames
  deriving DecidableEq, Repr

namespace Statement

/-- Whether a token is part of a name: of word characters, dollar signs and characters beyond
ASCII. -/
def isNamePart (t : Token) : Bool :=
  match t.kind with
  | .keyword | .plain | .number | .punctuation =>
    t.text.all fun c => isWordChar c || c == '$' || 128 ≤ c.toNat
  | _ => false

/-- Puts a token before others, as one name with the first of them where both are parts of one. -/
def joinName (t : Token) : List Token → List Token
  | [] => [t]
  | u :: us =>
    if isNamePart t && isNamePart u then ⟨.plain, t.text ++ u.text⟩ :: us else t :: u :: us

/-- The tokens of a batch. Every word and every name is a token of its own. -/
def tokens (sql : Text) : List Token := (Token.splitAfter [] false sql).foldr joinName []

/-- Without the comments and blanks at the front. -/
def skip (ts : List Token) : List Token := ts.dropWhile fun t => !t.isSignificant

/-- Without the comments and blanks at either end. -/
def trimTokens (ts : List Token) : List Token := (skip (skip ts).reverse).reverse

def isMark (c : Char) (t : Token) : Bool := t.kind == .punctuation && t.text == [c]

/-- Whether a token is the given upper-case word. -/
def isWord (word : String) (t : Token) : Bool :=
  (t.kind == .keyword || t.kind == .plain) && upper t.text == word.toList

/-- A name. It begins neither with a digit nor with a dollar sign. -/
def name? (t : Token) : Option Text :=
  if isNamePart t && !t.text.head?.any (fun c => c.isDigit || c == '$') then some t.text else none

/-- The rest after a token with property `p`, which has to come first. -/
def after? (p : Token → Bool) (ts : List Token) : Option (List Token) :=
  match skip ts with
  | t :: rest => if p t then some rest else none
  | [] => none

/-- The rest after the given upper-case words. -/
def afterWords? (words : List String) (ts : List Token) : Option (List Token) :=
  words.foldlM (fun rest word => after? (isWord word) rest) ts

/-- The name at the front, and the rest. -/
def takeName? (ts : List Token) : Option (Text × List Token) :=
  match skip ts with
  | t :: rest => (name? t).map fun name => (name, rest)
  | [] => none

/-- The name of a table at the front, and the rest. One that a point divides names a table of
another database. -/
def takeTable? (ts : List Token) : Option (Text × List Token) := do
  let (table, rest) ← takeName? ts
  match after? (isMark '.') rest with
  | none => return (table, rest)
  | some rest =>
    let (inner, rest) ← takeName? rest
    return (table ++ '.' :: inner, rest)

/-- The items of the list in parentheses at the front, and the rest. No item holds parentheses. -/
def takeList? (ts : List Token) : Option (List (List Token) × List Token) :=
  (after? (isMark '(') ts).bind fun inner =>
    match inner.dropWhile (!isMark ')' ·) with
    | _ :: rest =>
      some (((inner.takeWhile (!isMark ')' ·)).splitOnP (isMark ',')).map trimTokens, rest)
    | [] => none

/-- The contents of a text between single quotes, where a doubled quote stands for one. -/
def unquote? : Text → Option Text
  | [] => none
  | ['\''] => some []
  | '\'' :: '\'' :: cs => (unquote? cs).map ('\'' :: ·)
  | c :: cs => if c = '\'' then none else (unquote? cs).map (c :: ·)

/-- The text that a token between single quotes stands for. -/
def quoted? (t : Token) : Option Text :=
  match t.text with
  | '\'' :: cs => unquote? cs
  | _ => none

/-- The bytes that pairs of hexadecimal digits stand for. -/
def bytes? : Text → Option Bytes
  | [] => some []
  | a :: b :: cs =>
    (digitValue? 16 a).bind fun high => (digitValue? 16 b).bind fun low =>
      (bytes? cs).map (UInt8.ofNat (high * 16 + low) :: ·)
  | _ => none

/-- A number as it is written: an integer if it has neither a point nor an exponent and fits. -/
def number? (t : Text) : Option Value :=
  (Numeral.parse? t).map fun n =>
    match writtenInteger? n with
    | some i => .integer i
    | none => .real (readReal n)

/-- The number at the front. Blanks may follow its sign. -/
def signed? (ts : List Token) : Option Value :=
  match ts with
  | t :: rest =>
    if isMark '-' t then number? ('-' :: (skip rest).flatMap Token.text)
    else number? (ts.flatMap Token.text)
  | [] => none

def literal? : List Token → Option Value
  | [t] =>
    if isWord "NULL" t then some .null else ((quoted? t).map .text).or (number? t.text)
  | [x, t] =>
    if isWord "X" x then ((quoted? t).bind bytes?).map .blob else signed? [x, t]
  | ts => signed? ts

def operand? : List Token → Option Operand
  | [t] => if isMark '?' t then some .parameter else (literal? [t]).map .literal
  | ts => (literal? ts).map .literal

def column? : List Token → Option Column
  | n :: ts =>
    match name? n, skip ts with
    | some name, [t] =>
      ([ColumnType.integer, .real, .text].find? fun type => type.sqlName == upper t.text).map
        (⟨name, ·⟩)
    | _, _ => none
  | [] => none

def columnName? : List Token → Option Text
  | [n] => name? n
  | _ => none

def createTable? (ts : List Token) : Option Statement := do
  let rest ← afterWords? ["CREATE", "TABLE"] ts
  let guarded := afterWords? ["IF", "NOT", "EXISTS"] rest
  let (table, rest) ← takeName? (guarded.getD rest)
  let (items, rest) ← takeList? rest
  let columns ← items.mapM column?
  if (skip rest).isEmpty then some (.createTable table guarded.isSome columns) else none

theorem length_skip (ts : List Token) : (skip ts).length ≤ ts.length :=
  (List.dropWhile_sublist _).length_le

theorem length_after? {p : Token → Bool} {ts rest : List Token} (found : after? p ts = some rest) :
    rest.length < ts.length := by
  have bound := length_skip ts
  unfold after? at found
  split at found
  · rename_i kept
    split at found
    · cases found
      rw [kept] at bound
      exact bound
    · cases found
  · cases found

theorem length_takeList? {ts rest : List Token} {items : List (List Token)}
    (found : takeList? ts = some (items, rest)) : rest.length < ts.length := by
  obtain ⟨inner, opened, found⟩ := Option.bind_eq_some_iff.1 found
  have bound : (inner.dropWhile (!isMark ')' ·)).length ≤ inner.length :=
    (List.dropWhile_sublist _).length_le
  have shorter := length_after? opened
  split at found
  · rename_i kept
    cases found
    rw [kept, List.length_cons] at bound
    omega
  · cases found

/-- Rows with commas between them, up to the end. -/
def rows? (ts : List Token) : Option (List (List Operand)) :=
  match _found : takeList? ts with
  | none => none
  | some (items, rest) =>
    (items.mapM operand?).bind fun row =>
      match _next : after? (isMark ',') rest with
      | some more => (rows? more).map (row :: ·)
      | none => if (skip rest).isEmpty then some [row] else none
  termination_by ts.length
  decreasing_by exact Nat.lt_trans (length_after? _next) (length_takeList? _found)

def insert? (ts : List Token) : Option Statement := do
  let rest ← afterWords? ["INSERT", "INTO"] ts
  let (table, rest) ← takeTable? rest
  match afterWords? ["VALUES"] rest with
  | some values => return .insert table none (← rows? values)
  | none =>
    let (items, rest) ← takeList? rest
    let columns ← items.mapM columnName?
    return .insert table (some columns) (← rows? (← afterWords? ["VALUES"] rest))

/-- The bound on the number of rows, if there is one. A negative one is none. -/
def limit? (ts : List Token) : Option (Option Nat) :=
  match skip ts with
  | [] => some none
  | rest =>
    match (afterWords? ["LIMIT"] rest).bind fun count => literal? (trimTokens count) with
    | some (.integer i) => some (if i < 0 then none else some i.toNatClampNeg)
    | _ => none

def selectAll? (ts : List Token) : Option Statement := do
  let rest ← afterWords? ["SELECT"] ts
  let rest ← afterWords? ["FROM"] (← after? (isMark '*') rest)
  let (table, rest) ← takeTable? rest
  return .selectAll table (← limit? rest)

def selectTableNames? (ts : List Token) : Option Statement := do
  let rest ← afterWords? ["SELECT", "NAME", "FROM", "SQLITE_MASTER", "WHERE", "TYPE"] ts
  let rest ← after? (isMark '=') rest
  let rest ← after? (fun t => t.text == "'table'".toList) rest
  if (skip rest).isEmpty then some .selectTableNames else none

/-- An item of a selection, under its text from its first token on. -/
def item? (ts : List Token) : Option (Text × Value) :=
  (literal? (trimTokens ts)).map fun v =>
    (trimWhile isSpacing ((skip ts).flatMap Token.text), v)

def selectLiterals? (ts : List Token) : Option Statement := do
  let rest ← afterWords? ["SELECT"] ts
  return .selectLiterals (← (rest.splitOnP (isMark ',')).mapM item?)

/-- Reads the tokens of one statement. -/
def read? (ts : List Token) : Option Statement :=
  createTable? ts <|> insert? ts <|> selectAll? ts <|> selectTableNames? ts <|> selectLiterals? ts

end Statement

end QueryDesk.Store
