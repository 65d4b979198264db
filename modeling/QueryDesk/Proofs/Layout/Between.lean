import QueryDesk.Sql.Layout
import QueryDesk.Proofs.Tokens.Merging
import QueryDesk.Proofs.Tokens.Spaced

/-!
# What a layout with clause breaks puts between tokens

`between` gives the blanks that stand between two tokens in the layout from the blanks that stood
there. The layout itself is written token by token: merged plain tokens are written as their pieces
would be (`foldl_merge`), and each gap with the token after it adds `between` and that token
(`foldl_tokens`).
-/

set_option autoImplicit false

namespace QueryDesk.Sql.Layout

open Text

/-- What ends a line that goes on. -/
def isTrailing (c : Char) : Bool := c == ' ' || c == '\t'

/-- The end of a line in place of a gap after the text `sofar`: the spaces and tabs at the end of
the gap go, and one line feed comes unless the text ends in one already. -/
def lineEnd (sofar gap : Text) : Text :=
  let kept := (gap.reverse.dropWhile isTrailing).reverse
  if (sofar ++ kept).getLast? = some '\n' then kept else kept ++ ['\n']

/-- The blanks put between two tokens, after the text `sofar` that the first of them ends. -/
def between (sofar : Text) (prev : Token) (gap : Text) (next : Token) : Text :=
  if prev.isSemicolon then ['\n', '\n']
  else if startsClause next.kind next.text then lineEnd sofar gap
  else gap

/-- The tokens after `prev` with the blanks that the layout puts between them. -/
def respace (sofar : Text) (prev : Token) : List Spaced → List Spaced
  | [] => []
  | ⟨gap, t⟩ :: ss =>
    ⟨between sofar prev gap t, t⟩ :: respace (sofar ++ between sofar prev gap t ++ t.text) t ss

theorem not_startsClause_plain (t : Text) : startsClause .plain t = false := rfl

theorem write_plain (d : Draft) {t : Token} (plain : t.kind = .plain) : d.write t =
    if d.afterSemicolon then
      if (trimStart t.text).isEmpty then d
      else ⟨(trimStart t.text).reverse ++ '\n' :: '\n' :: d.written, false⟩
    else ⟨t.text.reverse ++ d.written, false⟩ := by
  obtain ⟨written, afterSemicolon⟩ := d
  cases afterSemicolon with
  | true =>
    simp only [Draft.write, plain, not_startsClause_plain, if_true, Bool.true_and]
    rfl
  | false =>
    simp only [Draft.write, plain, not_startsClause_plain]
    rfl

theorem write_pieces (d : Draft) {t u : Token} (plain : t.kind = .plain)
    (plain' : u.kind = .plain) : (d.write t).write u = d.write ⟨.plain, t.text ++ u.text⟩ := by
  rw [write_plain d plain, write_plain d (t := ⟨.plain, t.text ++ u.text⟩) rfl]
  obtain ⟨written, afterSemicolon⟩ := d
  cases afterSemicolon with
  | false =>
    rw [write_plain _ plain']
    simp
  | true =>
    have trimmed : trimStart (t.text ++ u.text) =
        if (trimStart t.text).isEmpty then trimStart u.text else trimStart t.text ++ u.text :=
      List.dropWhile_append
    simp only [if_true, trimmed]
    cases none : (trimStart t.text).isEmpty with
    | true =>
      simp only [if_true]
      rw [write_plain _ plain']
      rfl
    | false =>
      rw [write_plain _ plain']
      simp [List.isEmpty_eq_false_iff.1 none]

/-- Merged tokens are written as the tokens themselves. -/
theorem foldl_merge (d : Draft) (ts : List Token) :
    (Token.merge ts).foldl Draft.write d = ts.foldl Draft.write d := by
  induction ts generalizing d with
  | nil => rfl
  | cons t ts ih =>
    rw [List.foldl_cons, ← ih, Token.merge]
    cases Token.merge ts with
    | nil => rfl
    | cons u us =>
      by_cases both : t.kind = .plain ∧ u.kind = .plain
      · rw [Token.joinPlain_plain both.1 both.2, List.foldl_cons, List.foldl_cons,
          write_pieces d both.1 both.2]
      · rw [Token.joinPlain_apart both]
        rfl

theorem foldl_gap (gap written : Text) :
    (gapTokens gap).foldl Draft.write ⟨written, false⟩ = ⟨gap.reverse ++ written, false⟩ := by
  induction gap generalizing written with
  | nil => rfl
  | cons c cs ih =>
    have here : Draft.write ⟨written, false⟩ ⟨.plain, [c]⟩ = ⟨c :: written, false⟩ :=
      write_plain _ rfl
    rw [gapTokens, List.map_cons, List.foldl_cons, here, ← gapTokens, ih, List.reverse_cons,
      List.append_assoc]
    rfl

/-- After a semicolon blanks are not written. -/
theorem foldl_gap_after {gap : Text} (blank : ∀ c ∈ gap, isBlank c = true) (written : Text) :
    (gapTokens gap).foldl Draft.write ⟨written, true⟩ = ⟨written, true⟩ := by
  induction gap with
  | nil => rfl
  | cons c cs ih =>
    have tail := ih fun d member => blank d (List.mem_cons_of_mem c member)
    have skipped : trimStart [c] = [] := by simp [trimStart, blank c (List.mem_cons_self ..)]
    rw [gapTokens, List.map_cons, List.foldl_cons, ← gapTokens, write_plain _ rfl]
    simp only [skipped, List.isEmpty_nil, if_true]
    exact tail

theorem write_after {t : Token} (full : t.text ≠ [])
    (visible : ∀ c, t.text.head? = some c → isBlank c = false) (written : Text) :
    Draft.write ⟨written, true⟩ t = ⟨t.text.reverse ++ '\n' :: '\n' :: written, t.isSemicolon⟩ := by
  have whole : trimStart t.text = t.text := by
    obtain ⟨c, cs, shape⟩ := List.exists_cons_of_ne_nil full
    rw [shape] at visible ⊢
    exact List.dropWhile_cons_of_neg (by simp [visible c rfl])
  have kept : breakLine ('\n' :: '\n' :: written) = '\n' :: '\n' :: written := rfl
  have some_text : t.text.isEmpty = false := List.isEmpty_eq_false_iff.2 full
  simp only [Draft.write, if_true, whole, some_text, Bool.and_false, kept, ite_self]
  rfl

theorem write_onwards (t : Token) (written : Text) : Draft.write ⟨written, false⟩ t =
    ⟨t.text.reverse ++ if startsClause t.kind t.text then breakLine written else written,
      t.isSemicolon⟩ := rfl

/-- Ending a line takes from the blanks after the last token and leaves the token. -/
theorem breakLine_reverse {sofar gap : Text} (full : sofar ≠ [])
    (last : sofar.getLast?.any isTrailing = false) :
    breakLine (gap.reverse ++ sofar.reverse) = (sofar ++ lineEnd sofar gap).reverse := by
  have more : (gap.reverse ++ sofar.reverse).isEmpty = false := by simp [full]
  have kept : (gap.reverse ++ sofar.reverse).dropWhile isTrailing =
      (sofar ++ (gap.reverse.dropWhile isTrailing).reverse).reverse := by
    have solid : sofar.reverse.dropWhile isTrailing = sofar.reverse := by
      rw [← List.head?_reverse] at last
      have run : ([] ++ sofar.reverse).dropWhile isTrailing = sofar.reverse :=
        dropWhile_run (by simp) last
      exact run
    rw [List.dropWhile_append, solid, List.reverse_append, List.reverse_reverse]
    split
    · rename_i none
      rw [List.isEmpty_iff.1 none]
      rfl
    · rfl
  rw [breakLine, more]
  change (if ((gap.reverse ++ sofar.reverse).dropWhile isTrailing).head? = some '\n' then
    (gap.reverse ++ sofar.reverse).dropWhile isTrailing
    else '\n' :: (gap.reverse ++ sofar.reverse).dropWhile isTrailing) = _
  rw [kept, List.head?_reverse, lineEnd]
  split
  · rfl
  · simp

theorem foldl_step {sofar gap : Text} {prev t : Token} (full : sofar ≠ [])
    (last : sofar.getLast?.any isTrailing = false) (blank : ∀ c ∈ gap, isBlank c = true)
    (full' : t.text ≠ []) (visible : ∀ c, t.text.head? = some c → isBlank c = false) :
    (gapTokens gap ++ [t]).foldl Draft.write ⟨sofar.reverse, prev.isSemicolon⟩ =
      ⟨(sofar ++ between sofar prev gap t ++ t.text).reverse, t.isSemicolon⟩ := by
  rw [List.foldl_append, List.foldl_cons, List.foldl_nil, between]
  cases semicolon : prev.isSemicolon with
  | true =>
    rw [foldl_gap_after blank, write_after full' visible]
    simp
  | false =>
    rw [foldl_gap, write_onwards]
    cases clause : startsClause t.kind t.text with
    | true =>
      simp only [if_true, breakLine_reverse full last, Bool.false_eq_true, if_false,
        List.reverse_append]
    | false => simp

/-- The rest of the tokens are written with the blanks of `respace` before them. -/
theorem foldl_tokens {phrases : List Phrase} (table : Phrase.Table phrases) (front : Text)
    {prev : Token} {ss : List Spaced} (solid : prev.isGap = false) (solids : Spaced.Solid ss)
    (stands : Stands phrases (prev :: Spaced.tokens ss)) :
    ((Spaced.tokens ss).foldl Draft.write
      ⟨(front ++ prev.text).reverse, prev.isSemicolon⟩).written =
      (front ++ prev.text ++ Spaced.text (respace (front ++ prev.text) prev ss)).reverse := by
  induction ss generalizing front prev with
  | nil => simp [Spaced.tokens, respace, Spaced.text]
  | cons s ss ih =>
    obtain ⟨gap, t⟩ := s
    obtain ⟨blank, solid'⟩ := solids _ (List.mem_cons_self ..)
    obtain ⟨obeys, rest⟩ := stands
    rw [Spaced.tokens_cons, stands_gapTokens table blank] at rest
    have here := rest.1
    have full := obeys.ne_nil table
    have more : Token.concat (Spaced.tokens (⟨gap, t⟩ :: ss)) ≠ [] := by
      rw [Spaced.concat_tokens, Spaced.text_cons]
      simp [here.ne_nil table]
    have last : (front ++ prev.text).getLast?.any isTrailing = false := by
      have := obeys.last table solid more
      rw [List.getLast?_append, List.getLast?_eq_some_getLast full]
      rwa [List.getLast?_eq_some_getLast full] at this
    have step : (gapTokens gap ++ [t]).foldl Draft.write
        ⟨(front ++ prev.text).reverse, prev.isSemicolon⟩ = _ :=
      foldl_step (List.append_ne_nil_of_right_ne_nil front full) last blank (here.ne_nil table)
        fun c first => here.visible table solid' first
    have tail := ih (front ++ prev.text ++ between (front ++ prev.text) prev gap t) solid'
      (fun s member => solids s (List.mem_cons_of_mem _ member)) rest
    rw [Spaced.tokens_cons, List.append_cons, List.foldl_append, step, tail, respace,
      Spaced.text_cons]
    simp only [List.append_assoc]

end QueryDesk.Sql.Layout
