import QueryDesk.Text.Utf8

/-!
# Files

The files below one directory, and what it means to read one by its path. A directory exists as far
as a file lies in it. The directories above are there, but nothing is known to be in them.
-/

set_option autoImplicit false

namespace QueryDesk

inductive ReadFailure where
  | notFound
  | notADirectory
  | isADirectory
  | notUtf8
  | nulInPath
  | other (reason : Text)
  deriving DecidableEq, Repr

def ReadFailure.message : ReadFailure → Text
  | .notFound => "No such file or directory (os error 2)".toList
  | .notADirectory => "Not a directory (os error 20)".toList
  | .isADirectory => "Is a directory (os error 21)".toList
  | .notUtf8 => "stream did not contain valid UTF-8".toList
  | .nulInPath => "file name contained an unexpected NUL byte".toList
  | .other reason => reason

/-- The steps from the directory to a file or to another directory. -/
abbrev Steps := List Text

/-- Files by their steps. The first entry of a file counts. -/
structure Files where
  entries : List (Steps × Bytes)
  deriving Repr

namespace Files

def empty : Files := ⟨[]⟩

/-- A step that stays where it is. -/
def isIdle (step : Text) : Bool := step == [] || step == ['.']

/-- A step to the directory above. -/
def isUp (step : Text) : Bool := step == ['.', '.']

/-- The name that a path ends in, if it ends in a name. -/
def fileName? (path : Text) : Option Text :=
  ((path.splitOn '/').filter (!isIdle ·)).getLast?.filter (!isUp ·)

/-- The steps with one more. A step up takes back the last one that is not a step up. -/
def next (here : Steps) (step : Text) : Steps :=
  if isIdle step then here
  else if isUp step && !here.all isUp then here.dropLast
  else here ++ [step]

/-- The steps of a path, whatever they lead through. -/
def steps (path : Text) : Steps := (path.splitOn '/').foldl next []

def contents? (f : Files) (steps : Steps) : Option Bytes := f.entries.lookup steps

def isDirectory (f : Files) (steps : Steps) : Bool :=
  steps.all isUp || f.entries.any fun e => steps.isPrefixOf e.1 && e.1.length != steps.length

/-- Takes the steps of a path. Each has to be taken from a directory. -/
def follow (f : Files) (here : Steps) : List Text → Except ReadFailure Steps
  | [] => .ok here
  | step :: more =>
    if f.isDirectory here then f.follow (next here step) more
    else .error (if (f.contents? here).isSome then .notADirectory else .notFound)

/-- Where a path leads. -/
def resolve (f : Files) (path : Text) : Except ReadFailure Steps :=
  if path.contains '\x00' then .error .nulInPath
  else if path.isEmpty || path.head? == some '/' then .error .notFound
  else f.follow [] (path.splitOn '/')

def readBytes (f : Files) (path : Text) : Except ReadFailure Bytes :=
  match f.resolve path with
  | .error e => .error e
  | .ok steps =>
    match f.contents? steps with
    | some bytes => .ok bytes
    | none => .error (if f.isDirectory steps then .isADirectory else .notFound)

/-- Bytes as text. -/
def decode (bytes : Bytes) : Except ReadFailure Text :=
  match Text.decode? bytes with
  | some t => .ok t
  | none => .error .notUtf8

/-- The text in the file at the end of a path. -/
def readText (f : Files) (path : Text) : Except ReadFailure Text := f.readBytes path >>= decode

/-- Puts a file at the end of a path, with the directories on the way. -/
def write (f : Files) (path : Text) (bytes : Bytes) : Files := ⟨(steps path, bytes) :: f.entries⟩

/-- Whether a file is at the end of a path or could be made there. Only the directory that would
hold it has to be there. -/
def canHold (f : Files) (path : Text) : Bool :=
  path.head? != some '/' && !f.isDirectory (steps path) && f.isDirectory (steps path).dropLast

end Files

/-- What can be asked of the files around a desk. -/
structure FileAccess where
  readText : Text → Except ReadFailure Text
  canHold : Text → Bool

def Files.access (f : Files) : FileAccess := ⟨f.readText, f.canHold⟩

end QueryDesk
