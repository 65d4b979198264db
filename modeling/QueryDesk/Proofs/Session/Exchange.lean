import QueryDesk.Proofs.Session.Imports

/-!
# What a session and its engine say to each other

`Engine.observed` is an engine with a record of the requests made to it and of its answers. A
session cannot tell it from the engine itself: `Shows` says that one action does what another one
does, seen through a view of the state, and has a rule for each step and each action of a session
(`shows_perform`, `shows_performAll`). Without the answers the record is the log of
`Engine.logged`.
-/

set_option autoImplicit false

namespace QueryDesk

variable {σ τ α β : Type}

/-- A request to an engine, with what the engine has answered. -/
inductive Exchange where
  | execute (sql : Text) (answer : Except Error Unit)
  | query (sql : Text) (answer : Except Error (List ResultSet))
  | insertRows (template : Text) (rows : List (List Text)) (answer : Except Error Nat)

namespace Exchange

def call : Exchange → Call
  | .execute sql _ => .execute sql
  | .query sql _ => .query sql
  | .insertRows template rows _ => .insertRows template rows

/-- The error that the engine has answered with. -/
def error? : Exchange → Option Error
  | .execute _ (.error error) | .query _ (.error error) | .insertRows _ _ (.error error) =>
    some error
  | _ => none

/-- The rows that are to be inserted. -/
def rows : Exchange → List (List Text)
  | .insertRows _ rows _ => rows
  | _ => []

end Exchange

/-- The first action does what the second one does, seen through the view. -/
def Shows (view : τ → σ) (action : Action τ α) (action' : Action σ α) : Prop :=
  ∀ s, action' (view s) = ((action s).1, view (action s).2)

theorem Shows.bind {view : τ → σ} {first : Action τ α} {first' : Action σ α}
    {next : α → Action τ β} {next' : α → Action σ β} (shows_first : Shows view first first')
    (shows_next : ∀ a, Shows view (next a) (next' a)) :
    Shows view (first >>= next) (first' >>= next') := by
  intro s
  rw [Session.bind_apply, Session.bind_apply, shows_first s]
  match first s with
  | (.ok a, s') => exact shows_next a s'
  | (.error e, s') => rfl

/-- An action that does not look at the state. -/
theorem shows_given (view : τ → σ) (result : Except Error α) :
    Shows view (ExceptT.mk (pure result)) (ExceptT.mk (pure result)) :=
  fun _ => rfl

theorem shows_return (view : τ → σ) (a : α) : Shows view (return a) (return a) := fun _ => rfl

/-- Each request to the first engine does what it does to the second one. -/
structure Engine.Shows (view : τ → σ) (e : Engine τ) (e' : Engine σ) : Prop where
  execute : ∀ sql, QueryDesk.Shows view (e.execute sql) (e'.execute sql)
  query : ∀ sql, QueryDesk.Shows view (e.query sql) (e'.query sql)
  insertRows : ∀ template rows,
    QueryDesk.Shows view (e.insertRows template rows) (e'.insertRows template rows)

namespace Engine

/-- The same action, which puts an exchange with its result at the end of the record. -/
def observe (exchange : Except Error α → Exchange) (action : Action σ α) :
    Action (σ × List Exchange) α :=
  ExceptT.mk fun s => ((action s.1).1, ((action s.1).2, s.2 ++ [exchange (action s.1).1]))

/-- The same engine with a record of the exchanges with it, oldest first. -/
def observed (e : Engine σ) : Engine (σ × List Exchange) where
  execute sql := observe (.execute sql) (e.execute sql)
  query sql := observe (.query sql) (e.query sql)
  insertRows template rows := observe (.insertRows template rows) (e.insertRows template rows)

theorem observed_shows (e : Engine σ) : e.observed.Shows Prod.fst e :=
  ⟨fun _ _ => rfl, fun _ _ => rfl, fun _ _ _ => rfl⟩

theorem observe_shows_note (call : Call) (exchange : Except Error α → Exchange)
    (action : Action σ α) (same : ∀ result, (exchange result).call = call) :
    QueryDesk.Shows (fun s => (s.1, s.2.map Exchange.call)) (observe exchange action)
      (do note call; besideLog action) := by
  intro s
  have recorded : (s.2 ++ [exchange (action s.1).1]).map Exchange.call =
      s.2.map Exchange.call ++ [call] := by
    rw [List.map_append, List.map_singleton, same]
  change _ = (_, (_, (s.2 ++ [exchange (action s.1).1]).map Exchange.call))
  rw [recorded]
  rfl

/-- The record without the answers. -/
theorem observed_shows_logged (e : Engine σ) :
    e.observed.Shows (fun s => (s.1, s.2.map Exchange.call)) e.logged where
  execute _ := observe_shows_note _ _ _ fun _ => rfl
  query _ := observe_shows_note _ _ _ fun _ => rfl
  insertRows _ _ := observe_shows_note _ _ _ fun _ => rfl

end Engine

namespace Session

/-- The same session over what its database shows. -/
def through (view : τ → σ) (s : Session τ) : Session σ := ⟨view s.database, s.imported⟩

open Csv (Summary Plan)

variable {view : τ → σ} {e : Engine τ} {e' : Engine σ}

theorem shows_onDatabase {action : Action τ α} {action' : Action σ α}
    (shows_action : Shows view action action') :
    Shows (through view) (onDatabase action) (onDatabase action') := by
  intro s
  have same := shows_action s.database
  change ((action' (view s.database)).1,
    (⟨(action' (view s.database)).2, s.imported⟩ : Session σ)) = _
  rw [same]
  rfl

theorem shows_record (summary : Summary) :
    Shows (through view) (record summary) (record summary) := fun _ => rfl

theorem shows_load (shows_e : e.Shows view e') (plan : Plan) :
    Shows (through view) (load e plan) (load e' plan) := by
  refine (shows_onDatabase (shows_e.execute _)).bind fun _ => ?_
  have recorded : Shows (through view) (do record plan.summary; return plan.summary)
      (do record plan.summary; return plan.summary) :=
    (shows_record _).bind fun _ => shows_return _ _
  split
  · exact (shows_onDatabase (shows_e.insertRows _ _)).bind fun _ => recorded
  · exact recorded

theorem shows_importText (shows_e : e.Shows view e') (table t : Text) :
    Shows (through view) (importText e table t) (importText e' table t) :=
  (shows_given _ _).bind fun plan => shows_load shows_e plan

theorem shows_importFile (shows_e : e.Shows view e') (files : FileAccess) (path : Text)
    (table : Option Text) :
    Shows (through view) (importFile e files path table) (importFile e' files path table) :=
  (shows_given _ _).bind fun t => (shows_given _ _).bind fun name => shows_importText shows_e name t

theorem shows_run (shows_e : e.Shows view e') (sql : Text) :
    Shows (through view) (run e sql) (run e' sql) :=
  shows_onDatabase (shows_e.query sql)

theorem shows_tableNames (shows_e : e.Shows view e') :
    Shows (through view) (tableNames e) (tableNames e') :=
  (shows_run shows_e _).bind fun _ => shows_return _ _

theorem shows_tablesOverview (shows_e : e.Shows view e') :
    Shows (through view) (tablesOverview e) (tablesOverview e') :=
  (shows_tableNames shows_e).bind fun _ => shows_return _ _

namespace Request

theorem shows_perform (shows_e : e.Shows view e') (request : Request) :
    Shows (through view) (request.perform e) (request.perform e') := by
  cases request with
  | importText table t => exact (shows_importText shows_e table t).bind fun _ => shows_return _ _
  | importFile files path table =>
    exact (shows_importFile shows_e files path table).bind fun _ => shows_return _ _
  | run sql => exact (shows_run shows_e sql).bind fun _ => shows_return _ _
  | tableNames => exact (shows_tableNames shows_e).bind fun _ => shows_return _ _
  | tablesOverview => exact (shows_tablesOverview shows_e).bind fun _ => shows_return _ _

theorem shows_performAll (shows_e : e.Shows view e') (requests : List Request) (s : Session τ) :
    performAll e' requests (s.through view) =
      ((performAll e requests s).1, (performAll e requests s).2.through view) := by
  induction requests generalizing s with
  | nil => rfl
  | cons request requests ih =>
    simp only [performAll, shows_perform shows_e request s, ih]

end Request

end Session

end QueryDesk
