import QueryDesk.Sql.Token

/-!
# Spans

A span is a class with the byte offsets between which it holds. `scan` covers a text by the spans of
its tokens, with neighbouring plain tokens made one. No text is lost between the source, its tokens
and the merged ones (`concat_splitAfter`, `concat_merge`, `concat_scan`).
-/

set_option autoImplicit false

namespace QueryDesk.Sql

open Text

structure Span where
  kind : TokenKind
  start : Nat
  stop : Nat
  deriving DecidableEq, Repr

namespace Span

/-- Tokens laid end to end from a byte offset. -/
def layOut (start : Nat) : List Token → List Span
  | [] => []
  | t :: ts => ⟨t.kind, start, start + byteSize t.text⟩ :: layOut (start + byteSize t.text) ts

/-- The part of a source that a span covers. -/
def text (source : Text) (s : Span) : Text := slice source s.start s.stop

end Span

namespace Token

/-- Puts a token before others, as one with the first of them where both are plain. -/
def joinPlain (t : Token) : List Token → List Token
  | [] => [t]
  | u :: us =>
    if t.kind = .plain ∧ u.kind = .plain then ⟨.plain, t.text ++ u.text⟩ :: us else t :: u :: us

/-- Every run of plain tokens as one. -/
def merge : List Token → List Token
  | [] => []
  | t :: ts => joinPlain t (merge ts)

/-- The tokens of a text in order, runs of plain ones merged. -/
def scan (t : Text) : List Token := merge (split t)

/-- The texts of tokens one after another. -/
def concat (tokens : List Token) : Text := tokens.flatMap Token.text

theorem concat_joinPlain (t : Token) (ts : List Token) :
    concat (joinPlain t ts) = t.text ++ concat ts := by
  cases ts with
  | nil => rfl
  | cons u us =>
    rw [joinPlain]
    split <;> simp [concat]

theorem concat_merge (tokens : List Token) : concat (merge tokens) = concat tokens := by
  induction tokens with
  | nil => rfl
  | cons t ts ih =>
    rw [merge, concat_joinPlain, ih]
    rfl

theorem concat_splitAfter (phrases : List Phrase) (afterWord : Bool) (t : Text) :
    concat (splitAfter phrases afterWord t) = t := by
  fun_induction splitAfter phrases afterWord t with
  | case1 afterWord t none =>
    cases t with
    | nil => rfl
    | cons c cs => simp [cut?, single?] at none
  | case2 afterWord t token rest found ih =>
    rw [concat, List.flatMap_cons, ← concat, ih]
    exact (cut_covers found).2

theorem concat_scan (t : Text) : concat (scan t) = t := by
  rw [scan, concat_merge, split, concat_splitAfter]

end Token

namespace Span

/-- The spans of a text. -/
def scan (t : Text) : List Span := layOut 0 (Token.scan t)

end Span

end QueryDesk.Sql
