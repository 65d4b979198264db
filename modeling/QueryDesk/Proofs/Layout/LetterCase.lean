import QueryDesk.Sql.Layout
import QueryDesk.Proofs.Markup.Page
import QueryDesk.Proofs.Tokens.LetterCase

/-!
# Sources in another case

A source with its letters in another case has the same spans. A layout and markup are written of
those spans, so they change in the letters of the source alone.

* `breakClauses_upper`: the layout of a source in capitals is its layout in capitals.
* `RecasedContent`: two pages with the same tags and entities, and content in another case.
* `letterCase_unread`: all of this for two sources that differ in the case of letters.
-/

set_option autoImplicit false

namespace QueryDesk.Sql

open Text

namespace Layout

theorem canonical_upper (t : Text) : canonical (upper t) = canonical t := by
  have space : upper [' '] = [' '] := rfl
  have joined := join_upper [' '] (words t)
  rw [space] at joined
  rw [canonical, words_upper, joined, upper_upper, canonical]

theorem startsClause_upper (kind : TokenKind) (t : Text) :
    startsClause kind (upper t) = startsClause kind t := by
  rw [startsClause, canonical_upper, startsClause]

theorem breakLine_upper (written : Text) :
    breakLine (upper written) = upper (breakLine written) := by
  have trailing : CaseBlind fun c => c == ' ' || c == '\t' :=
    (caseBlind_beq rfl).or (caseBlind_beq rfl)
  have feed (t : Text) : (upper t).head? = some '\n' ↔ t.head? = some '\n' := by
    rw [head?_upper]
    cases t with
    | nil => rfl
    | cons c cs => simp [toUpper_eq_iff (d := '\n') rfl]
  unfold breakLine
  simp only [isEmpty_upper, dropWhile_upper trailing, feed]
  split
  · rfl
  · split <;> rfl

/-- The same draft in capitals. -/
def Draft.capitals (d : Draft) : Draft := ⟨upper d.written, d.afterSemicolon⟩

theorem Draft.write_capitals (d : Draft) (t : Token) :
    d.capitals.write t.capitals = (d.write t).capitals := by
  obtain ⟨written, afterSemicolon⟩ := d
  obtain ⟨kind, text⟩ := t
  have kept : (if afterSemicolon then trimStart (upper text) else upper text) =
      upper (if afterSemicolon then trimStart text else text) := by
    split
    · exact trimStart_upper text
    · rfl
  have apart : (if afterSemicolon then '\n' :: '\n' :: upper written else upper written) =
      upper (if afterSemicolon then '\n' :: '\n' :: written else written) := by
    split <;> rfl
  have semicolon (text : Text) : (upper text == [';']) = (text == [';']) := by
    rw [Bool.eq_iff_iff, beq_iff_eq, beq_iff_eq, upper_eq_singleton_iff rfl]
  change write ⟨upper written, afterSemicolon⟩ ⟨kind, upper text⟩ = _
  simp only [write, kept, apart]
  generalize (if afterSemicolon then trimStart text else text) = text
  generalize (if afterSemicolon then '\n' :: '\n' :: written else written) = before
  rw [isEmpty_upper, startsClause_upper, breakLine_upper, semicolon, ← upper_reverse]
  split
  · rfl
  · rw [capitals, upper_append]
    split <;> rfl

theorem breakClauses_upper (t : Text) : breakClauses (upper t) = upper (breakClauses t) := by
  have run (ts : List Token) (d : Draft) :
      (ts.map Token.capitals).foldl Draft.write d.capitals = (ts.foldl Draft.write d).capitals := by
    induction ts generalizing d with
    | nil => rfl
    | cons t ts ih => rw [List.map_cons, List.foldl_cons, Draft.write_capitals, ih, List.foldl_cons]
  have whole := run (Token.scan t) ⟨[], false⟩
  rw [breakClauses, Token.scan_upper, breakClauses, upper_reverse]
  exact congrArg (fun d : Draft => d.written.reverse) whole

end Layout

theorem clauseBreaks_upper (sql : Text) :
    layOut .clauseBreaks (upper sql) = upper (layOut .clauseBreaks sql) := by
  change Layout.breakClauses (trim (upper sql)) = upper (Layout.breakClauses (trim sql))
  rw [trim_upper, Layout.breakClauses_upper]

namespace Markup

/-- Two pages with the same tags and entities, that differ in the case of letters of the content. -/
inductive RecasedContent : Text → Text → Prop
  | nil : RecasedContent [] []
  | char {c c' : Char} {t t' : Text} : c ≠ '<' → c ≠ '>' → c ≠ '&' → Recases c c' →
      RecasedContent t t' → RecasedContent (c :: t) (c' :: t')
  | entity {name t t' : Text} : name ∈ entities → RecasedContent t t' →
      RecasedContent (name ++ t) (name ++ t')
  | tag {tag t t' : Text} : tag ∈ pageTags → RecasedContent t t' →
      RecasedContent (tag ++ t) (tag ++ t')

theorem RecasedContent.append {a a' b b' : Text} (recased : RecasedContent a a')
    (recased' : RecasedContent b b') : RecasedContent (a ++ b) (a' ++ b') := by
  induction recased with
  | nil => exact recased'
  | char less greater ampersand recases _ ih => exact .char less greater ampersand recases ih
  | entity member _ ih =>
    rw [List.append_assoc, List.append_assoc]
    exact .entity member ih
  | tag member _ ih =>
    rw [List.append_assoc, List.append_assoc]
    exact .tag member ih

theorem recasedContent_tag {tag : Text} (member : tag ∈ pageTags) : RecasedContent tag tag := by
  have alone := RecasedContent.tag member .nil
  rwa [List.append_nil] at alone

/-- A character that is written as an entity has no case. -/
theorem recasedContent_escapeChar {c c' : Char} (recases : Recases c c') :
    RecasedContent (escapeChar c) (escapeChar c') := by
  have same {d : Char} (caseless : d.isAlpha = false) : c' = d ↔ c = d := by
    rw [← toUpper_eq_iff caseless c', ← (recases_iff c c').1 recases, toUpper_eq_iff caseless]
  have entity {name : Text} (member : name ∈ entities) : RecasedContent name name := by
    have alone := RecasedContent.entity member .nil
    rwa [List.append_nil] at alone
  simp only [escapeChar, same (d := '&') rfl, same (d := '<') rfl, same (d := '>') rfl]
  split
  · exact entity (by decide +kernel)
  · rename_i ampersand
    split
    · exact entity (by decide +kernel)
    · rename_i less
      split
      · exact entity (by decide +kernel)
      · rename_i greater
        exact .char less greater ampersand recases .nil

theorem recasedContent_escape {t t' : Text} (recased : Recased t t') :
    RecasedContent (escape t) (escape t') := by
  induction recased with
  | nil => exact .nil
  | cons here _ ih =>
    rw [escape_cons, escape_cons]
    exact (recasedContent_escapeChar here).append ih

theorem recasedContent_element (kind : TokenKind) {t t' : Text} (recased : Recased t t') :
    RecasedContent (element kind t) (element kind t') := by
  have content := recasedContent_escape recased
  unfold element
  split
  · rename_i style styled
    have first : opening style ∈ pageTags :=
      List.mem_cons_of_mem closing (List.mem_map_of_mem (styleClass?_mem styled))
    exact ((recasedContent_tag first).append content).append (recasedContent_tag List.mem_cons_self)
  · exact content

theorem recasedContent_elements {ts ts' : List Token}
    (capitals : ts.map Token.capitals = ts'.map Token.capitals) :
    RecasedContent (ts.flatMap fun t => element t.kind t.text)
      (ts'.flatMap fun t => element t.kind t.text) := by
  rw [← List.forall₂_eq_eq_eq, List.forall₂_map_left_iff, List.forall₂_map_right_iff] at capitals
  induction capitals with
  | nil => exact .nil
  | @cons t t' _ _ here _ ih =>
    obtain ⟨kind, text⟩ := t
    obtain ⟨kind', text'⟩ := t'
    obtain ⟨rfl, same⟩ := Token.mk.inj here
    rw [List.flatMap_cons, List.flatMap_cons]
    exact (recasedContent_element kind ((recased_iff text text').2 same)).append ih

end Markup

/-- Sources that differ in the case of letters have the same spans and are complete alike. Their
markup has the same tags and entities around the same text in the two cases, and a layout keeps the
case that each letter has. -/
theorem letterCase_unread {sql sql' : Text} (recased : Recased sql sql') :
    Span.raw sql' = Span.raw sql ∧ Span.scan sql' = Span.scan sql ∧
      isComplete sql' = isComplete sql ∧
      Markup.highlight sql' = Markup.render sql' (Span.scan sql) ∧
      Markup.RecasedContent (Markup.highlight sql) (Markup.highlight sql') ∧
      Recased (layOut .clauseBreaks sql) (layOut .clauseBreaks sql') ∧
      layOut .clauseBreaks (upper sql) = upper (layOut .clauseBreaks sql) := by
  have capitals := (recased_iff sql sql').1 recased
  have scanned : Span.scan sql' = Span.scan sql := by
    rw [← Span.scan_upper sql', ← capitals, Span.scan_upper]
  refine ⟨?_, scanned, ?_, ?_, ?_, ?_, clauseBreaks_upper sql⟩
  · rw [← Span.raw_upper sql', ← capitals, Span.raw_upper]
  · rw [← isComplete_upper sql', ← capitals, isComplete_upper]
  · rw [Markup.highlight_eq_render, scanned]
  · refine Markup.recasedContent_elements ?_
    rw [← Token.scan_upper, ← Token.scan_upper, capitals]
  · rw [recased_iff, ← clauseBreaks_upper, ← clauseBreaks_upper, capitals]

theorem letterCase_unread_select :
    Recased "select 'a' from t;".toList "Select 'A' FROM T;".toList ∧
      Span.raw "Select 'A' FROM T;".toList = Span.raw "select 'a' from t;".toList ∧
      isComplete "Select 'A' FROM T;".toList = true ∧
      layOut .clauseBreaks (upper "select 'a' from t;".toList) = "SELECT 'A'\nFROM T;".toList := by
  have recased : Recased "select 'a' from t;".toList "Select 'A' FROM T;".toList :=
    (recased_iff _ _).2 (by decide)
  have same := letterCase_unread recased
  exact ⟨recased, same.1, same.2.2.1.trans (by decide +kernel),
    same.2.2.2.2.2.2.trans (by decide +kernel)⟩

end QueryDesk.Sql
