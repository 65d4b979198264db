import QueryDesk.Engine.Connection
import QueryDesk.Proofs.Text.Cutting
import QueryDesk.Proofs.Tokens.Completeness

/-!
# Batches over a connection

Where a connection cuts a batch at the semicolons that stand alone (`CutsAtSemicolons`), a batch is
run in front of another one as it is on its own, up to the first statement that fails, and after it
the other (`runBatch_append`). A failure that is pointed at shows the text that was handed in. So the
same failure is shown in a longer text there (`Failure.within`).

`Runs` says what becomes of a batch statement by statement, and `runs_runBatch` that this is what an
engine over a connection does.
-/

set_option autoImplicit false

namespace QueryDesk

open Text Sql

namespace Failure

/-- The same failure in a text that goes on in front and behind. -/
def within (f : Failure) (front back : Text) : Failure :=
  ⟨f.reason, f.place.map fun place => (front ++ place.1 ++ back, byteSize front + place.2)⟩

theorem within_nil (f : Failure) : f.within [] [] = f := by
  obtain ⟨reason, _ | ⟨sql, offset⟩⟩ := f
  · rfl
  · simp [within, byteSize]

theorem within_within (f : Failure) (front back front' back' : Text) :
    (f.within front back).within front' back' = f.within (front' ++ front) (back ++ back') := by
  obtain ⟨reason, _ | ⟨sql, offset⟩⟩ := f
  · rfl
  · simp [within, byteSize_append, Nat.add_assoc]

theorem within_ofReason (reason front back : Text) :
    (ofReason reason).within front back = ofReason reason := rfl

end Failure

/-- The semicolon behind the text stands alone, and none before it does. -/
def Closes (text : Text) : Prop :=
  ∃ ts, Token.split (text ++ [';']) = ts ++ [semicolon] ∧ ∀ t ∈ ts, t.isSemicolon = false

/-- The texts in front of the semicolons that stand alone, one after another. -/
def statementTexts (sql : Text) : List Text :=
  (((Token.split sql).splitOnP Token.isSemicolon).map Token.concat).dropLast

/-- The texts with a semicolon behind each. -/
def closed (texts : List Text) : Text := texts.flatMap (· ++ [';'])

theorem closed_cons (p : Text) (ps : List Text) : closed (p :: ps) = p ++ ';' :: closed ps := by
  simp [closed]

/-- The pieces between semicolons, each with the one behind it. -/
theorem flatMap_splitOnP_semicolon (ts : List Token) :
    (ts.splitOnP Token.isSemicolon).flatMap (· ++ [semicolon]) = ts ++ [semicolon] := by
  induction ts with
  | nil => rfl
  | cons t ts ih =>
    rw [List.splitOnP_cons_eq_if_modifyHead]
    split
    case isTrue here =>
      rw [List.flatMap_cons, ih, eq_semicolon here]
      rfl
    case isFalse =>
      obtain ⟨first, rest, shape⟩ := List.exists_cons_of_ne_nil
        (List.splitOnP_ne_nil Token.isSemicolon ts)
      rw [shape] at ih ⊢
      exact congrArg (t :: ·) ih

/-- Pieces with a semicolon behind each are read one by one. -/
theorem barred_of_flatMap {pieces : List (List Token)}
    (stands : Stands Phrase.all (pieces.flatMap (· ++ [semicolon]))) :
    ∀ piece ∈ pieces, Barred piece := by
  induction pieces with
  | nil => exact List.forall_mem_nil _
  | cons piece more ih =>
    rw [List.flatMap_cons, List.append_assoc, List.singleton_append] at stands
    obtain ⟨barred, rest⟩ := (stands_semicolon_iff piece _).1 stands
    exact List.forall_mem_cons.2 ⟨barred, ih rest⟩

theorem closes_concat {ts : List Token} (barred : Barred ts)
    (bare : ∀ t ∈ ts, t.isSemicolon = false) : Closes (Token.concat ts) := by
  have nothing : Token.split [] = [] := Token.splitAfter_nil _ _
  refine ⟨ts, ?_, bare⟩
  rw [split_barred barred, nothing]

/-- A text whose last token is a semicolon is its statements with a semicolon behind each. -/
theorem closed_statementTexts {a : Text} (ends : (Token.split a).getLast? = some semicolon) :
    closed (statementTexts a) = a ∧ ∀ p ∈ statementTexts a, Closes p := by
  obtain ⟨init, shape⟩ := List.getLast?_eq_some_iff.1 ends
  have pieces : statementTexts a = (init.splitOnP Token.isSemicolon).map Token.concat := by
    rw [statementTexts, shape, List.splitOnP_append_cons init [] rfl]
    simp
  have tokens := flatMap_splitOnP_semicolon init
  have barred := barred_of_flatMap (tokens ▸ shape ▸ stands_split a)
  rw [pieces]
  refine ⟨?_, List.forall_mem_map.2 fun piece member =>
    closes_concat (barred piece member) (bare_splitOnP init piece member)⟩
  rw [← Token.concat_split a, shape, ← tokens, closed, List.flatMap_map, Token.concat,
    List.flatMap_assoc]
  exact List.flatMap_congr fun piece _ => (Token.concat_append piece [semicolon]).symm

namespace Statements

variable {σ : Type} {c : Statements σ} {sql rest : Text} {s s' : σ} {st : c.Statement}
  {f : Failure}

theorem runBatch_error (refused : c.next sql s = .error f) : c.runBatch sql s = (.error f, s) := by
  rw [runBatch]
  split
  case h_1 here =>
    cases refused.symm.trans here
    rfl
  case h_2 here => cases refused.symm.trans here
  case h_3 here => cases refused.symm.trans here

theorem runBatch_none (none : c.next sql s = .ok none) : c.runBatch sql s = (.ok [], s) := by
  rw [runBatch]
  split
  case h_1 here => cases none.symm.trans here
  case h_2 => rfl
  case h_3 here => cases none.symm.trans here

theorem runBatch_some (found : c.next sql s = .ok (some (st, rest))) :
    c.runBatch sql s = match c.runOne st s with
      | (.error reason, s₁) => (.error (.ofReason reason), s₁)
      | (.ok result, s₁) =>
        ((c.runBatch rest s₁).1.map (result.toList ++ ·), (c.runBatch rest s₁).2) := by
  rw [runBatch]
  split
  case h_1 here => cases found.symm.trans here
  case h_2 here => cases found.symm.trans here
  case h_3 here =>
    cases found.symm.trans here
    rfl

/-- What a batch comes to behind a text without statements. Its first statement is looked for from
the front of that text on. -/
theorem runBatch_behind {front b : Text} {s : σ}
    (behind : c.next (front ++ b) s = (c.next b s).mapError (·.within front [])) :
    (∀ q s', c.runBatch b s = (.ok q, s') → c.runBatch (front ++ b) s = (.ok q, s')) ∧
    ∀ f s', c.runBatch b s = (.error f, s') → c.runBatch (front ++ b) s = (.error f, s') ∨
      c.runBatch (front ++ b) s = (.error (f.within front []), s') := by
  cases here : c.next b s with
  | error g =>
    rw [here] at behind
    rw [runBatch_error here, runBatch_error behind]
    refine ⟨nofun, fun f s' ran => ?_⟩
    cases ran
    exact .inr rfl
  | ok found =>
    have same : c.runBatch (front ++ b) s = c.runBatch b s := by
      rw [here] at behind
      obtain _ | ⟨st, rest⟩ := found
      · rw [runBatch_none here, runBatch_none behind]
      · rw [runBatch_some here, runBatch_some behind]
    rw [same]
    exact ⟨fun q s' ran => ran, fun f s' ran => .inl ran⟩

/-- What becomes of a batch. Statements run in the order in which they stand, each prepared in the
state that those before it have left. One without columns adds no result and one with columns adds
one. The first failure is all that is returned, and what was done before it stays. -/
inductive Runs (c : Statements σ) :
    Text → σ → Except Failure (List ResultSet) → σ → Prop
  | done {sql : Text} {s : σ} : c.next sql s = .ok none → Runs c sql s (.ok []) s
  | unprepared {sql : Text} {s : σ} {f : Failure} : c.next sql s = .error f →
      Runs c sql s (.error f) s
  | change {sql rest : Text} {s s₁ s' : σ} {st : c.Statement} {n : Nat}
      {outcome : Except Failure (List ResultSet)} : c.next sql s = .ok (some (st, rest)) →
      c.columns st = [] → c.execute st [] s = (.ok n, s₁) → Runs c rest s₁ outcome s' →
      Runs c sql s outcome s'
  | changeFails {sql rest : Text} {s s' : σ} {st : c.Statement} {reason : Text} :
      c.next sql s = .ok (some (st, rest)) → c.columns st = [] →
      c.execute st [] s = (.error reason, s') → Runs c sql s (.error (.ofReason reason)) s'
  | select {sql rest : Text} {s s₁ s' : σ} {st : c.Statement} {rows : List (List Value)}
      {outcome : Except Failure (List ResultSet)} : c.next sql s = .ok (some (st, rest)) →
      c.columns st ≠ [] → (c.query st s).collect (c.columns st).length = (.ok rows, s₁) →
      Runs c rest s₁ outcome s' → Runs c sql s (outcome.map (⟨c.columns st, rows⟩ :: ·)) s'
  | selectFails {sql rest : Text} {s s' : σ} {st : c.Statement} {reason : Text} :
      c.next sql s = .ok (some (st, rest)) → c.columns st ≠ [] →
      (c.query st s).collect (c.columns st).length = (.error reason, s') →
      Runs c sql s (.error (.ofReason reason)) s'

theorem map_nil_append (outcome : Except Failure (List ResultSet)) :
    outcome.map ([] ++ ·) = outcome := by
  cases outcome <;> rfl

theorem runOne_silent (silent : c.columns st = []) (s : σ) :
    c.runOne st s = ((c.execute st [] s).1.map fun _ => none, (c.execute st [] s).2) :=
  if_pos (by rw [silent, List.length_nil])

theorem runOne_rows (columns : c.columns st ≠ []) (s : σ) : c.runOne st s =
    (((c.query st s).collect (c.columns st).length).1.map fun rows => some ⟨c.columns st, rows⟩,
      ((c.query st s).collect (c.columns st).length).2) :=
  if_neg fun none => columns (List.length_eq_zero_iff.1 none)

theorem runs_runBatch (c : Statements σ) (sql : Text) (s : σ) :
    c.Runs sql s (c.runBatch sql s).1 (c.runBatch sql s).2 := by
  induction size : sql.length using Nat.strongRecOn generalizing sql s with
  | ind n ih =>
    subst size
    cases here : c.next sql s with
    | error f =>
      rw [runBatch_error here]
      exact .unprepared here
    | ok found =>
      obtain _ | ⟨st, rest⟩ := found
      · rw [runBatch_none here]
        exact .done here
      · have later (s₁ : σ) := ih _ (c.next_shorter here) rest s₁ rfl
        rw [runBatch_some here]
        by_cases silent : c.columns st = []
        case pos =>
          rw [runOne_silent silent]
          rcases ran : c.execute st [] s with ⟨reason | n, s₁⟩
          · exact .changeFails here silent ran
          · refine .change here silent ran ?_
            change c.Runs rest s₁ ((c.runBatch rest s₁).1.map ([] ++ ·)) _
            rw [map_nil_append]
            exact later s₁
        case neg =>
          rw [runOne_rows silent]
          rcases ran : (c.query st s).collect (c.columns st).length with ⟨reason | rows, s₁⟩
          · exact .selectFails here silent ran
          · exact .select here silent ran (later s₁)

/-- A batch is cut at the semicolons that stand alone, as far as known statements are between
them. -/
structure CutsAtSemicolons (c : Statements σ) (Known : Text → Prop) : Prop where
  /-- There is no statement in no text. -/
  nothing (s : σ) : c.next [] s = .ok none
  /-- A statement ends at its semicolon, whatever comes behind. -/
  statement {p rest : Text} {s : σ} {st : c.Statement} : Known p → Closes p →
    c.next (p ++ [';']) s = .ok (some (st, rest)) →
    ∀ b, c.next (p ++ ';' :: b) s = .ok (some (st, b))
  /-- One that is refused is refused with anything behind. -/
  refused {p : Text} {s : σ} {f : Failure} : Known p → Closes p →
    c.next (p ++ [';']) s = .error f → ∀ b, c.next (p ++ ';' :: b) s = .error (f.within [] b)
  /-- If there is none before a semicolon, it is looked for behind. -/
  empty {p : Text} {s : σ} : Known p → Closes p → c.next (p ++ [';']) s = .ok none →
    ∀ b, c.next (p ++ ';' :: b) s = (c.next b s).mapError (·.within (p ++ [';']) [])

namespace CutsAtSemicolons

variable {Known : Text → Prop} {ps : List Text} (cuts : c.CutsAtSemicolons Known)

include cuts

/-- In front of another text, a batch has the same first statement. If it has none, the first one is
that of the other text. -/
theorem next_append (known : ∀ p ∈ ps, Known p) (closes : ∀ p ∈ ps, Closes p) (s : σ) :
    (∃ f, c.next (closed ps) s = .error f ∧
      ∀ b, c.next (closed ps ++ b) s = .error (f.within [] b)) ∨
    (c.next (closed ps) s = .ok none ∧ (∀ p ∈ ps, c.next (p ++ [';']) s = .ok none) ∧
      ∀ b, c.next (closed ps ++ b) s = (c.next b s).mapError (·.within (closed ps) [])) ∨
    ∃ st back, back <:+ ps ∧ back.length < ps.length ∧
      c.next (closed ps) s = .ok (some (st, closed back)) ∧
      ∀ b, c.next (closed ps ++ b) s = .ok (some (st, closed back ++ b)) := by
  induction ps with
  | nil =>
    refine .inr (.inl ⟨cuts.nothing s, List.forall_mem_nil _, fun b => ?_⟩)
    change c.next b s = (c.next b s).mapError (·.within [] [])
    cases c.next b s with
    | error f => exact congrArg Except.error f.within_nil.symm
    | ok found => rfl
  | cons p ps ih =>
    obtain ⟨known, knowns⟩ := List.forall_mem_cons.1 known
    obtain ⟨closes, closing⟩ := List.forall_mem_cons.1 closes
    have text (b : Text) : closed (p :: ps) ++ b = p ++ ';' :: (closed ps ++ b) := by
      rw [closed_cons, List.append_assoc, List.cons_append]
    have front : p ++ ';' :: closed ps = p ++ [';'] ++ closed ps := by simp
    simp only [text]
    rw [closed_cons]
    cases here : c.next (p ++ [';']) s with
    | error f =>
      refine .inl ⟨_, cuts.refused known closes here _, fun b => ?_⟩
      rw [cuts.refused known closes here, Failure.within_within]
      rfl
    | ok found =>
      obtain _ | ⟨st, rest⟩ := found
      · have behind := cuts.empty known closes here
        rw [behind]
        simp only [behind]
        rcases ih knowns closing with ⟨f, alone, both⟩ | ⟨alone, none, both⟩ |
          ⟨st, back, suffix, shorter, alone, both⟩
        · refine .inl ⟨f.within (p ++ [';']) [], by rw [alone]; rfl, fun b => ?_⟩
          rw [both, Except.mapError, Failure.within_within, Failure.within_within]
          simp
        · refine .inr (.inl ⟨by rw [alone]; rfl, List.forall_mem_cons.2 ⟨here, none⟩, fun b => ?_⟩)
          rw [both]
          cases c.next b s with
          | error f =>
            rw [Except.mapError, Except.mapError, Failure.within_within, ← front]
            rfl
          | ok found => rfl
        · exact .inr (.inr ⟨st, back, suffix.trans (List.suffix_cons p ps),
            Nat.lt_succ_of_lt shorter, by rw [alone]; rfl, fun b => by rw [both]; rfl⟩)
      · exact .inr (.inr ⟨st, ps, List.suffix_cons p ps, Nat.lt_succ_self _,
          cuts.statement known closes here _, fun b => cuts.statement known closes here _⟩)

/-- A batch of known statements in front of another. What fails in it fails in front of the other
one, too. If nothing does, the other one runs behind it, and if that fails the failure is pointed at
behind those semicolons at the end which have no statement before them. -/
theorem runBatch_append (known : ∀ p ∈ ps, Known p) (closes : ∀ p ∈ ps, Closes p) (b : Text)
    (s : σ) :
    (∀ f s', c.runBatch (closed ps) s = (.error f, s') →
      c.runBatch (closed ps ++ b) s = (.error (f.within [] b), s')) ∧
    ∀ r s₁, c.runBatch (closed ps) s = (.ok r, s₁) →
      (∀ q s', c.runBatch b s₁ = (.ok q, s') →
        c.runBatch (closed ps ++ b) s = (.ok (r ++ q), s')) ∧
      ∀ f s', c.runBatch b s₁ = (.error f, s') → ∃ front, front <:+ ps ∧
        (∀ p ∈ front, c.next (p ++ [';']) s₁ = .ok none) ∧
        (c.runBatch (closed ps ++ b) s = (.error f, s') ∨
          c.runBatch (closed ps ++ b) s = (.error (f.within (closed front) []), s')) := by
  induction size : ps.length using Nat.strongRecOn generalizing ps s with
  | ind n ih =>
    subst size
    rcases cuts.next_append known closes s with ⟨f, alone, both⟩ | ⟨alone, none, both⟩ |
      ⟨st, back, suffix, shorter, alone, both⟩
    · rw [runBatch_error alone, runBatch_error (both b)]
      refine ⟨fun g s' ran => ?_, nofun⟩
      cases ran
      rfl
    · rw [runBatch_none alone]
      refine ⟨nofun, fun r s₁ ran => ?_⟩
      cases ran
      obtain ⟨ok, failed⟩ := runBatch_behind (both b)
      exact ⟨ok, fun f s' ran => ⟨ps, List.suffix_refl ps, none, failed f s' ran⟩⟩
    · have later (s₁ : σ) := ih _ shorter (fun p member => known p (suffix.subset member))
        (fun p member => closes p (suffix.subset member)) s₁ rfl
      rw [runBatch_some alone, runBatch_some (both b)]
      rcases c.runOne st s with ⟨reason | result, s₁⟩
      · refine ⟨fun g s' ran => ?_, nofun⟩
        cases ran
        rw [Failure.within_ofReason]
      · obtain ⟨failed, ok⟩ := later s₁
        dsimp only
        rcases rest : c.runBatch (closed back) s₁ with ⟨g | r, s₂⟩
        · refine ⟨fun f s' ran => ?_, nofun⟩
          cases ran
          rw [failed g s₂ rest]
          rfl
        · refine ⟨nofun, fun r' s₂' ran => ?_⟩
          cases ran
          obtain ⟨second, broken⟩ := ok r s₂ rest
          refine ⟨fun q s' ran => ?_, fun f s' ran => ?_⟩
          · rw [second q s' ran, List.append_assoc]
            rfl
          · obtain ⟨front, inside, none, shown⟩ := broken f s' ran
            refine ⟨front, inside.trans suffix, none, shown.imp (fun same => ?_) fun same => ?_⟩
            · rw [same]
              rfl
            · rw [same]
              rfl

end CutsAtSemicolons

end Statements

end QueryDesk
