import QueryDesk.Proofs.Store.Batches
import QueryDesk.Session

/-!
# Batches in sequence

Over any connection that cuts its batches at the semicolons that stand alone, a batch that ends in
such a semicolon and another one behind it run as the one and after it the other (`run_append`). Only
a failure that is pointed at is told from one of the batch alone, by the text it is shown in
(`run_append_shown`).
-/

set_option autoImplicit false

namespace QueryDesk.Session

open Text Sql

variable {σ : Type}

theorem run_engine (c : Connection σ) (sql : Text) (s : Session σ) : run c.engine sql s =
    ((c.runBatch sql s.database).1.mapError Failure.toError,
      ⟨(c.runBatch sql s.database).2, s.imported⟩) := rfl

/-- A batch equals its statements in sequence. Run together after a batch that ends in a semicolon, a
second batch adds its results to those of the first and leaves its own state behind. If the first
fails, so do both together, in the same state with the same failure, which is shown in the longer
text if it is pointed at. If the second fails, its failure is all there is, in the state in which it
failed. If that is pointed at, it may be shown with the end of the first, as far as this holds no
statement. What becomes of any batch is what becomes of its statements in order. -/
theorem run_append {c : Connection σ} {Known : Text → Prop} (cuts : c.CutsAtSemicolons Known)
    (a b : Text) (ends : (Token.split a).getLast? = some semicolon)
    (known : ∀ p ∈ statementTexts a, Known p) (s : Session σ) :
    let first := run c.engine a s
    let second := run c.engine b first.2
    let whole := run c.engine (a ++ b) s
    (∀ r q, first.1 = .ok r → second.1 = .ok q → whole = (.ok (r ++ q), second.2)) ∧
      (∀ e, first.1 = .error e → ∃ f, (c.runBatch a s.database).1 = .error f ∧ e = f.toError ∧
        whole = (.error (f.within [] b).toError, first.2)) ∧
      (∀ r e, first.1 = .ok r → second.1 = .error e → ∃ f front,
        (c.runBatch b first.2.database).1 = .error f ∧ e = f.toError ∧
        front <:+ statementTexts a ∧
        (∀ p ∈ front, c.next (p ++ [';']) first.2.database = .ok none) ∧
        (whole = (.error e, second.2) ∨
          whole = (.error (f.within (closed front) []).toError, second.2))) ∧
      ∀ batch, ∃ outcome database, c.Runs batch s.database outcome database ∧
        run c.engine batch s = (outcome.mapError Failure.toError, ⟨database, s.imported⟩) := by
  obtain ⟨whole, closes⟩ := closed_statementTexts ends
  obtain ⟨failed, ok⟩ := cuts.runBatch_append known closes b s.database
  rw [whole] at failed ok
  simp only [run_engine]
  refine ⟨?_, ?_, ?_, fun batch => ⟨_, _, c.runs_runBatch batch s.database, rfl⟩⟩
  · intro r q
    rcases first : c.runBatch a s.database with ⟨f | r', s₁⟩
    · nofun
    · rintro ⟨⟩
      rcases second : c.runBatch b s₁ with ⟨f | q', s₂⟩
      · nofun
      · rintro ⟨⟩
        rw [(ok r s₁ first).1 q s₂ second]
        rfl
  · intro e
    rcases first : c.runBatch a s.database with ⟨f | r, s₁⟩
    · rintro ⟨⟩
      refine ⟨f, rfl, rfl, ?_⟩
      rw [failed f s₁ first]
      rfl
    · nofun
  · intro r e
    rcases first : c.runBatch a s.database with ⟨f | r', s₁⟩
    · nofun
    · rintro ⟨⟩
      rcases second : c.runBatch b s₁ with ⟨f | q, s₂⟩
      · rintro ⟨⟩
        obtain ⟨front, inside, none, shown⟩ := (ok r s₁ first).2 f s₂ second
        refine ⟨f, front, rfl, rfl, inside, none, shown.imp (fun same => ?_) fun same => ?_⟩
        · rw [same]
          rfl
        · rw [same]
          rfl
      · nofun

theorem ok_of_toOption {ε α : Type} {outcome : Except ε α} {a : α}
    (same : outcome.toOption = some a) : outcome = .ok a := by
  cases outcome with
  | error e => cases same
  | ok b => exact congrArg Except.ok (Option.some.inj same)

/-- A table that the first batch creates is there for the second. -/
theorem run_append_create :
    (Token.split "CREATE TABLE t (n TEXT); SELECT 1;".toList).getLast? = some semicolon ∧
      (run Store.engine ("CREATE TABLE t (n TEXT); SELECT 1;".toList ++ "SELECT * FROM t".toList)
        (start Store.Database.empty)).1 =
        .ok [⟨["1".toList], [[.integer 1]]⟩, ⟨["n".toList], []⟩] := by
  have ends : (Token.split "CREATE TABLE t (n TEXT); SELECT 1;".toList).getLast? =
      some semicolon := by decide +kernel
  have both := run_append Store.cutsAtSemicolons _ "SELECT * FROM t".toList ends
    (fun _ _ => trivial) (start Store.Database.empty)
  refine ⟨ends, congrArg Prod.fst (both.1 [⟨["1".toList], [[.integer 1]]⟩]
    [⟨["n".toList], []⟩] (ok_of_toOption ?_) (ok_of_toOption ?_))⟩
  · decide +kernel
  · decide +kernel

/-- Why a request fails. -/
def failure? {ε α : Type} : Except ε α → Option ε
  | .error e => some e
  | .ok _ => none

theorem error_of_failure? {ε α : Type} {outcome : Except ε α} {e : ε}
    (failed : failure? outcome = some e) : outcome = .error e := by
  cases outcome with
  | error e' => exact congrArg Except.error (Option.some.inj failed)
  | ok a => cases failed

/-- The message of a failure shows what stands behind the batch that fails, if it is pointed at. -/
theorem run_append_shown : ¬ ∀ (σ : Type) (c : Connection σ) (Known : Text → Prop),
    c.CutsAtSemicolons Known → ∀ (a b : Text) (s : Session σ) (e : Error),
    (Token.split a).getLast? = some semicolon → (∀ p ∈ statementTexts a, Known p) →
    (run c.engine a s).1 = .error e → (run c.engine (a ++ b) s).1 = .error e := by
  intro claim
  have alone : (run Store.engine "CREATE TABLE users (id INTEGER);".toList (start Store.demo)).1 =
      .error (.engine ("table users already exists in " ++
        "CREATE TABLE users (id INTEGER); at offset 13").toList) :=
    error_of_failure? (by rw [Store.demo_eq]; decide +kernel)
  have both : (run Store.engine ("CREATE TABLE users (id INTEGER);".toList ++ "SELECT 1;".toList)
      (start Store.demo)).1 = .error (.engine ("table users already exists in " ++
        "CREATE TABLE users (id INTEGER);SELECT 1; at offset 13").toList) :=
    error_of_failure? (by rw [Store.demo_eq]; decide +kernel)
  have same := claim _ Store.connection _ Store.cutsAtSemicolons _ "SELECT 1;".toList _ _
    (by decide +kernel) (fun _ _ => trivial) alone
  exact absurd (Except.error.inj (both.symm.trans same)) (by decide +kernel)

end QueryDesk.Session
