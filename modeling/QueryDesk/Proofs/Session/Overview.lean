import QueryDesk.Session
import QueryDesk.Engine.Scripted
import QueryDesk.Proofs.Csv.Statements
import QueryDesk.Proofs.Session.Imports
import QueryDesk.Proofs.Tokens.Barrier
import QueryDesk.Proofs.Tokens.Merging

/-!
# The overview of tables

An overview is read by the same tokenizer as any other text. Names are put into it as they are, but
each on a line of its own behind two dashes, and such a comment ends at the first line feed and
nowhere else. So a name without one stays in its comment, and what follows the headings is read as
if nothing stood before it (`split_headings`).

* `tablesOverview_scans`: the tokens of an overview are its headings and those of the preview.
-/

set_option autoImplicit false

namespace QueryDesk

open Text Sql

/-- Two dashes and a text, through the end of the line. -/
def commentLine (body : Text) : Token := ⟨.comment, '-' :: '-' :: (body ++ ['\n'])⟩

/-- What stands before the preview: a heading, the names, a blank line, and another heading. -/
def headings (names : List Text) : List Token :=
  (" Tables in this database:".toList :: names.map (" * ".toList ++ ·)).map commentLine ++
    [⟨.plain, ['\n']⟩, commentLine " Example query:".toList]

theorem overview?_cons (first : Text) (more : List Text) :
    overview? (first :: more) =
      some (Token.concat (headings (first :: more)) ++ previewQuery first) := by
  rw [headings, Token.concat, List.flatMap_append, List.map_cons, List.map_map, List.flatMap_cons,
    List.flatMap_map]
  rfl

theorem kind_commentLine (body : Text) : (commentLine body).kind ≠ .plain := by
  rw [commentLine]
  exact nofun

/-- The token ends where it ends, whatever follows. -/
def Closed (t : Token) : Prop := ∀ after, Obeys Phrase.all [] t after

theorem closed_commentLine {body : Text} (one : '\n' ∉ body) : Closed (commentLine body) :=
  obeys_lineComment one

theorem closed_headings {names : List Text} (bare : ∀ name ∈ names, '\n' ∉ name) :
    ∀ t ∈ headings names, Closed t := by
  intro t member
  rcases List.mem_append.1 member with listed | behind
  · obtain ⟨body, written, rfl⟩ := List.mem_map.1 listed
    refine closed_commentLine ?_
    rcases List.mem_cons.1 written with rfl | named
    · decide
    · obtain ⟨name, given, rfl⟩ := List.mem_map.1 named
      exact List.not_mem_append (by decide) (bare name given)
  · rcases List.mem_cons.1 behind with rfl | behind
    · exact fun _ => obeys_blank Phrase.table_all (by decide)
    · obtain rfl := List.mem_singleton.1 behind
      exact closed_commentLine (by decide)

theorem split_closed_append {ts : List Token} (closed : ∀ t ∈ ts, Closed t) (after : Text) :
    Token.split (Token.concat ts ++ after) = ts ++ Token.split after := by
  induction ts with
  | nil => rfl
  | cons t ts ih =>
    obtain ⟨here, rest⟩ := List.forall_mem_cons.1 closed
    rw [Token.concat, List.flatMap_cons, ← Token.concat, List.append_assoc, split_cons (here _),
      ih rest, List.cons_append]

/-- No name is read further than its line. -/
theorem split_headings {names : List Text} (bare : ∀ name ∈ names, '\n' ∉ name) (after : Text) :
    Token.split (Token.concat (headings names) ++ after) = headings names ++ Token.split after :=
  split_closed_append (closed_headings bare) after

theorem merge_commentLines (bodies : List Text) (ts : List Token) :
    Token.merge (bodies.map commentLine ++ ts) = bodies.map commentLine ++ Token.merge ts := by
  induction bodies with
  | nil => rfl
  | cons body more ih =>
    rw [List.map_cons, List.cons_append, Token.merge_cons_of_kind (kind_commentLine body),
      ih, List.cons_append]

/-- The blank line is between comments and stays a token of its own. -/
theorem merge_headings (names : List Text) (ts : List Token) :
    Token.merge (headings names ++ ts) = headings names ++ Token.merge ts := by
  have last : Token.merge ([⟨.plain, ['\n']⟩, commentLine " Example query:".toList] ++ ts) =
      [⟨.plain, ['\n']⟩, commentLine " Example query:".toList] ++ Token.merge ts := by
    rw [List.cons_append, List.cons_append, List.nil_append, Token.merge,
      Token.merge_cons_of_kind (kind_commentLine _),
      Token.joinPlain_apart fun both => kind_commentLine _ both.2]
    rfl
  rw [headings, List.append_assoc, merge_commentLines, last, List.append_assoc]

theorem idle_headings (names : List Text) :
    ∀ t ∈ headings names, t.isSignificant = false ∧ t.isSemicolon = false := by
  intro t member
  rcases List.mem_append.1 member with listed | behind
  · obtain ⟨body, -, rfl⟩ := List.mem_map.1 listed
    exact ⟨rfl, Token.not_isSemicolon_of_kind nofun⟩
  · rcases List.mem_cons.1 behind with rfl | behind
    · exact ⟨rfl, rfl⟩
    · obtain rfl := List.mem_singleton.1 behind
      exact ⟨rfl, rfl⟩

section Headed

variable {names : List Text} {after : Text}

theorem raw_headings (bare : ∀ name ∈ names, '\n' ∉ name) :
    Span.raw (Token.concat (headings names) ++ after) = Span.layOut 0 (headings names) ++
      (Span.raw after).map (Span.shift (byteSize (Token.concat (headings names)))) := by
  rw [Span.raw, split_headings bare, Span.layOut_append, Span.raw, Span.map_shift_layOut]

theorem scan_headings (bare : ∀ name ∈ names, '\n' ∉ name) :
    Token.scan (Token.concat (headings names) ++ after) = headings names ++ Token.scan after := by
  rw [Token.scan, split_headings bare, merge_headings, Token.scan]

theorem isComplete_headings (bare : ∀ name ∈ names, '\n' ∉ name) :
    isComplete (Token.concat (headings names) ++ after) = isComplete after := by
  have none : (headings names).filter Token.isSignificant = [] :=
    List.filter_eq_nil_iff.2 fun t member => by rw [(idle_headings names t member).1]; decide
  rw [isComplete_eq, isComplete_eq, split_headings bare, endsInSemicolon, List.filter_append, none]
  rfl

theorem singleStatement_headings (bare : ∀ name ∈ names, '\n' ∉ name) :
    SingleStatement (Token.concat (headings names) ++ after) ↔ SingleStatement after := by
  have none : (headings names).countP Token.isSemicolon = 0 :=
    List.countP_eq_zero.2 fun t member => by rw [(idle_headings names t member).2]; decide
  rw [SingleStatement, SingleStatement, isComplete_headings bare, scan_headings bare,
    List.countP_append, none, Nat.zero_add]

end Headed

/-- The preview of a table with an ordinary name is a statement by itself. -/
theorem singleStatement_previewQuery {table : Text} (word : ∀ c ∈ table, isWordChar c = true) :
    SingleStatement (previewQuery table) := by
  have calm := Csv.calm_word word
  have plain := List.all_eq_true.1 (show "SELECT * FROM ".toList.all (· ∉ openers) = true by decide)
  have select : Flat "SELECT * FROM ".toList :=
    flat_of_no_opener fun c member => of_decide_eq_true (plain c member)
  have limit : Csv.Calm " LIMIT 10".toList := by decide
  have semicolon : Flat [';'] := flat_of_no_opener (List.forall_mem_singleton.2 (by decide))
  have flat : Flat ("SELECT * FROM ".toList ++ table ++ " LIMIT 10".toList) :=
    Csv.flat_append_calm (Csv.flat_append_calm select calm) limit
  have stop : " LIMIT 10;".toList = " LIMIT 10".toList ++ [';'] := by decide
  have shape : previewQuery table =
      "SELECT * FROM ".toList ++ table ++ " LIMIT 10".toList ++ [';'] :=
    (congrArg ("SELECT * FROM ".toList ++ table ++ ·) stop).trans (List.append_assoc _ _ _).symm
  rw [shape, singleStatement_iff (flat.append semicolon (.inr (by decide)))]
  simp only [List.mem_append, not_or]
  exact ⟨⟨by decide, fun member => calm _ member List.mem_cons_self⟩, by decide⟩

namespace Session

variable {σ : Type}

/-- The overview is made of the answer to one query. -/
theorem tablesOverview_apply {e : Engine σ} {s : Session σ} {results : List ResultSet}
    {database : σ} (answered : e.query tableNamesQuery s.database = (.ok results, database)) :
    tablesOverview e s = (.ok (overview? (firstTexts results)), { s with database }) := by
  have ran : run e tableNamesQuery s = (.ok results, { s with database }) := by
    change ((e.query tableNamesQuery s.database).1,
      { s with database := (e.query tableNamesQuery s.database).2 }) = _
    rw [answered]
  rw [tablesOverview, map_apply, tableNames, map_apply, ran]
  rfl

/-- There is no overview without a table. Otherwise it has one comment for each heading and for each
name, in order, a blank line before the last of them, and then the tokens of the preview, moved on
and otherwise as they are by themselves. It is complete just if the preview is, and a single
statement if the first name is an ordinary one. -/
theorem tablesOverview_scans {e : Engine σ} {s : Session σ} {results : List ResultSet}
    {database : σ} (answered : e.query tableNamesQuery s.database = (.ok results, database))
    (bare : ∀ name ∈ firstTexts results, '\n' ∉ name) :
    (firstTexts results = [] → tablesOverview e s = (.ok none, { s with database })) ∧
      ∀ first more, firstTexts results = first :: more → ∃ overview,
        tablesOverview e s = (.ok (some overview), { s with database }) ∧
          Token.split overview =
            headings (first :: more) ++ Token.split (previewQuery first) ∧
          Span.raw overview = Span.layOut 0 (headings (first :: more)) ++
            (Span.raw (previewQuery first)).map
              (Span.shift (byteSize (Token.concat (headings (first :: more))))) ∧
          Token.scan overview = headings (first :: more) ++ Token.scan (previewQuery first) ∧
          isComplete overview = isComplete (previewQuery first) ∧
          ((∀ c ∈ first, isWordChar c = true) → SingleStatement overview) := by
  rw [tablesOverview_apply answered]
  refine ⟨fun none => by rw [none]; rfl, fun first more names => ?_⟩
  rw [names] at bare
  rw [names, overview?_cons]
  exact ⟨_, rfl, split_headings bare _, raw_headings bare, scan_headings bare,
    isComplete_headings bare, fun word =>
      (singleStatement_headings bare).2 (singleStatement_previewQuery word)⟩

/-- Names that would open strings and comments, between rows without a name. -/
theorem tablesOverview_scans_hostile :
    ∃ overview, tablesOverview Script.engine ⟨⟨none,
        [⟨["name".toList], [[.text "t_1".toList], [.null], [.text "a';--".toList, .null]]⟩,
         ⟨["name".toList], [[], [.text "/*\"".toList]]⟩]⟩, []⟩ =
          (.ok (some overview), ⟨⟨none, []⟩, []⟩) ∧
      Token.split overview =
        headings ["t_1".toList, "a';--".toList, "/*\"".toList] ++
          Token.split (previewQuery "t_1".toList) ∧
      isComplete overview = isComplete (previewQuery "t_1".toList) ∧ SingleStatement overview := by
  have names : firstTexts
      [⟨["name".toList], [[.text "t_1".toList], [.null], [.text "a';--".toList, .null]]⟩,
       ⟨["name".toList], [[], [.text "/*\"".toList]]⟩] =
        ["t_1".toList, "a';--".toList, "/*\"".toList] := rfl
  have bare : ∀ name ∈ ["t_1".toList, "a';--".toList, "/*\"".toList], '\n' ∉ name := by decide
  have word := List.all_eq_true.1 (show "t_1".toList.all isWordChar = true by decide)
  have scans := tablesOverview_scans (e := Script.engine) (s := ⟨⟨none, _⟩, []⟩) rfl (names ▸ bare)
  obtain ⟨overview, shown, tokens, -, -, complete, single⟩ := scans.2 _ _ names
  exact ⟨overview, shown, tokens, complete, single word⟩

end Session

end QueryDesk
