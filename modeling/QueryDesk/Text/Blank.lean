import QueryDesk.Text.Basic

/-!
# Blanks

The Unicode property `White_Space`, and what is cut at it: the ends of a text, and its words.
-/

set_option autoImplicit false

namespace QueryDesk.Text

/-- The characters with the Unicode property `White_Space`, as ranges of code points. -/
def blankRanges : List (Nat × Nat) :=
  [(0x09, 0x0D), (0x20, 0x20), (0x85, 0x85), (0xA0, 0xA0), (0x1680, 0x1680), (0x2000, 0x200A),
   (0x2028, 0x2029), (0x202F, 0x202F), (0x205F, 0x205F), (0x3000, 0x3000)]

def isBlank (c : Char) : Bool := inRanges blankRanges c

/-- The byte-order mark. -/
def byteOrderMark : Char := '\uFEFF'

/-- Without the leading characters that have property `p`, and without the trailing ones. -/
def trimWhile (p : Char → Bool) (t : Text) : Text :=
  ((t.dropWhile p).reverse.dropWhile p).reverse

/-- Without the blanks at the front. -/
def trimStart (t : Text) : Text := t.dropWhile isBlank

/-- Without the blanks at either end. -/
def trim (t : Text) : Text := trimWhile isBlank t

def allBlank (t : Text) : Bool := t.all isBlank

/-- The maximal runs of characters that are not blank. -/
def words (t : Text) : List Text := (t.splitOnP isBlank).filter (!·.isEmpty)

/-- Every run of blanks becomes one underscore. -/
def underscoreBlanks (afterBlank : Bool) : Text → Text
  | [] => []
  | c :: cs =>
    if isBlank c then
      if afterBlank then underscoreBlanks true cs else '_' :: underscoreBlanks true cs
    else c :: underscoreBlanks false cs

end QueryDesk.Text
