import QueryDesk.Sql.Layout.ClauseBreaks
import QueryDesk.Sql.Layout.Indented

/-!
# Layout

The styles in which SQL can be laid out anew.
-/

set_option autoImplicit false

namespace QueryDesk.Sql

inductive LayoutStyle where
  /-- The text as it is. -/
  | preserve
  /-- Each major clause on its own line, an empty line between statements. -/
  | clauseBreaks
  /-- Upper-case keywords and one item a line. -/
  | indented
  deriving DecidableEq, Repr

instance : Inhabited LayoutStyle := ⟨.preserve⟩

/-- A text in a style, where the indented one is written by `indent`. -/
def layOutBy (indent : Text → Text) (style : LayoutStyle) (t : Text) : Text :=
  match style with
  | .preserve => t
  | .clauseBreaks => Layout.breakClauses (Text.trim t)
  | .indented => indent t

def layOut (style : LayoutStyle) (t : Text) : Text := layOutBy Layout.Indented.indent style t

end QueryDesk.Sql
