import QueryDesk.Session

/-!
# The record of imports

A session keeps the summaries of its imports, and a request can fail at many places: at the file, at
its name, at the text, and at each call of the engine. Nothing is supposed of the engine, which may
fail at any call and change its database all the same.

* `Logs`: what an action adds to the record, by how it ends. Every action of a session has one such
  rule, put together from the rules of its steps.
* `logs_perform`: the rule of one request.
* `imported_performAll`: the record after a whole run of requests, and every step of the run.
-/

set_option autoImplicit false

namespace QueryDesk.Session

open Csv (Summary Plan)

variable {σ α β : Type}

/-- The entries for a result. A failure has none. -/
def entries (added : α → List Summary) : Except Error α → List Summary
  | .ok a => added a
  | .error _ => []

/-- The action puts at the end of the record what its result calls for, and touches no other part
of the record. -/
def Logs (added : α → List Summary) (action : Action (Session σ) α) : Prop :=
  ∀ s, (action s).2.imported = s.imported ++ entries added (action s).1

/-- The action leaves the record alone. -/
abbrev Quiet (action : Action (Session σ) α) : Prop := Logs (fun _ => []) action

theorem entries_none (result : Except Error α) : entries (fun _ => []) result = [] := by
  cases result <;> rfl

theorem quiet_onDatabase (action : Action σ α) : Quiet (onDatabase action) := by
  intro s
  rw [entries_none, List.append_nil]
  rfl

theorem quiet_given (result : Except Error α) :
    Quiet (ExceptT.mk (pure result) : Action (Session σ) α) := by
  intro s
  rw [entries_none, List.append_nil]
  rfl

theorem logs_record (summary : Summary) :
    Logs (fun made => [made]) (do record summary; return summary : Action (Session σ) Summary) :=
  fun _ => rfl

theorem bind_apply (first : Action σ α) (next : α → Action σ β) (s : σ) :
    (first >>= next) s = match first s with
      | (.ok a, s') => next a s'
      | (.error e, s') => (.error e, s') := by
  change ExceptT.bindCont next (first s).1 (first s).2 = _
  cases first s with
  | mk result s' => cases result <;> rfl

/-- An action after a quiet one: the second decides, unless the first has failed. -/
theorem Quiet.bind {added : β → List Summary} {first : Action (Session σ) α}
    {next : α → Action (Session σ) β} (quiet : Quiet first) (logs : ∀ a, Logs added (next a)) :
    Logs added (first >>= next) := by
  intro s
  have before := quiet s
  rw [entries_none, List.append_nil] at before
  rw [bind_apply, ← before]
  match first s with
  | (.ok a, s') => exact logs a s'
  | (.error e, s') => exact (List.append_nil _).symm

theorem map_apply (f : α → β) (action : Action σ α) (s : σ) :
    (do return f (← action) : Action σ β) s = ((action s).1.map f, (action s).2) := by
  rw [bind_apply]
  match action s with
  | (.ok a, s') => rfl
  | (.error e, s') => rfl

theorem exists_of_map_ok {f : α → β} {action : Action (Session σ) α} {s : Session σ} {b : β}
    (succeeded : ((do return f (← action) : Action (Session σ) β) s).1 = .ok b) :
    ∃ a, b = f a := by
  rw [map_apply] at succeeded
  match (action s).1, succeeded with
  | .ok a, succeeded => exact ⟨a, (Except.ok.inj succeeded).symm⟩

/-- The rule of an action whose result is put in another form. -/
theorem Logs.map {added : α → List Summary} {added' : β → List Summary} {f : α → β}
    {action : Action (Session σ) α} (logs : Logs added action) (same : ∀ a, added' (f a) = added a) :
    Logs added' (do return f (← action)) := by
  intro s
  rw [map_apply, logs s]
  cases (action s).1 with
  | ok a => exact congrArg _ (same a).symm
  | error e => rfl

theorem logs_load (e : Engine σ) (plan : Plan) : Logs (fun made => [made]) (load e plan) := by
  refine (quiet_onDatabase _).bind fun _ => ?_
  split
  · exact (quiet_onDatabase _).bind fun _ => logs_record _
  · exact logs_record _

theorem logs_importText (e : Engine σ) (table t : Text) :
    Logs (fun made => [made]) (importText e table t) :=
  (quiet_given _).bind fun plan => logs_load e plan

theorem logs_importFile (e : Engine σ) (files : FileAccess) (path : Text) (table : Option Text) :
    Logs (fun made => [made]) (importFile e files path table) :=
  (quiet_given _).bind fun t => (quiet_given _).bind fun name => logs_importText e name t

theorem quiet_run (e : Engine σ) (sql : Text) : Quiet (run e sql) := quiet_onDatabase _

theorem quiet_tableNames (e : Engine σ) : Quiet (tableNames e) :=
  (quiet_run e _).map fun _ => rfl

theorem quiet_tablesOverview (e : Engine σ) : Quiet (tablesOverview e) :=
  (quiet_tableNames e).map fun _ => rfl

/-- What can be asked of a session. Files change from one request to the next, so a request brings
its own. -/
inductive Request where
  | importText (table t : Text)
  | importFile (files : FileAccess) (path : Text) (table : Option Text)
  | run (sql : Text)
  | tableNames
  | tablesOverview

inductive Answer where
  | summary (made : Summary)
  | results (results : List ResultSet)
  | names (names : List Text)
  | overview (overview : Option Text)
  deriving DecidableEq, Repr

namespace Request

def isImport : Request → Bool
  | .importText .. | .importFile .. => true
  | .run _ | .tableNames | .tablesOverview => false

def perform (e : Engine σ) : Request → Action (Session σ) Answer
  | .importText table t => return .summary (← Session.importText e table t)
  | .importFile files path table => return .summary (← Session.importFile e files path table)
  | .run sql => return .results (← Session.run e sql)
  | .tableNames => return .names (← Session.tableNames e)
  | .tablesOverview => return .overview (← Session.tablesOverview e)

/-- Requests one after another, whatever becomes of each: how they ended, in order, and the session
that is left. -/
def performAll (e : Engine σ) : List Request → Session σ → List (Except Error Answer) × Session σ
  | [], s => ([], s)
  | request :: requests, s =>
    let turn := request.perform e s
    let rest := performAll e requests turn.2
    (turn.1 :: rest.1, rest.2)

/-- The summary that a request has returned: there is one if it is an import and has succeeded. -/
def returned? (request : Request) : Except Error Answer → Option Summary
  | .ok (.summary made) => if request.isImport then some made else none
  | _ => none

/-- What one request may do to the record, given how it has ended. -/
structure Step (request : Request) (outcome : Except Error Answer) (before after : List Summary) :
    Prop where
  failure : ∀ error, outcome = .error error → after = before
  other : request.isImport = false → after = before
  success : request.isImport = true → ∀ answer, outcome = .ok answer →
    ∃ made, answer = .summary made ∧ after = before ++ [made]

theorem logs_perform (e : Engine σ) (request : Request) :
    Logs (fun answer => (request.returned? (.ok answer)).toList) (request.perform e) := by
  cases request with
  | importText table t => exact (logs_importText e table t).map fun _ => rfl
  | importFile files path table => exact (logs_importFile e files path table).map fun _ => rfl
  | run sql => exact (quiet_run e sql).map fun _ => rfl
  | tableNames => exact (quiet_tableNames e).map fun _ => rfl
  | tablesOverview => exact (quiet_tablesOverview e).map fun _ => rfl

/-- An import that succeeds returns a summary. -/
theorem summary_of_isImport (e : Engine σ) {request : Request} (isImport : request.isImport = true)
    (s : Session σ) {answer : Answer} (succeeded : (request.perform e s).1 = .ok answer) :
    ∃ made, answer = .summary made := by
  cases request with
  | importText table t => exact exists_of_map_ok succeeded
  | importFile files path table => exact exists_of_map_ok succeeded
  | run sql => cases isImport
  | tableNames => cases isImport
  | tablesOverview => cases isImport

theorem imported_perform (e : Engine σ) (request : Request) (s : Session σ) :
    (request.perform e s).2.imported =
      s.imported ++ (request.returned? (request.perform e s).1).toList := by
  rw [logs_perform e request s]
  cases (request.perform e s).1 with
  | ok answer => rfl
  | error e => rfl

theorem step_perform (e : Engine σ) (request : Request) (s : Session σ) :
    Step request (request.perform e s).1 s.imported (request.perform e s).2.imported := by
  rw [imported_perform e request s]
  constructor
  case failure =>
    intro error failed
    rw [failed]
    exact List.append_nil _
  case other =>
    intro noImport
    have none : request.returned? (request.perform e s).1 = none := by
      unfold returned?
      split
      · rw [noImport]; rfl
      · rfl
    rw [none]
    exact List.append_nil _
  case success =>
    intro isImport answer succeeded
    obtain ⟨made, rfl⟩ := summary_of_isImport e isImport s succeeded
    have one : request.returned? (.ok (.summary made)) = some made := if_pos isImport
    rw [succeeded, one]
    exact ⟨made, rfl, rfl⟩

/-- The summaries that the requests of a run have returned, in order. -/
def allReturned (requests : List Request) (outcomes : List (Except Error Answer)) : List Summary :=
  (requests.zip outcomes).filterMap fun r => r.1.returned? r.2

theorem allReturned_cons (request : Request) (requests : List Request)
    (outcome : Except Error Answer) (outcomes : List (Except Error Answer)) :
    allReturned (request :: requests) (outcome :: outcomes) =
      (request.returned? outcome).toList ++ allReturned requests outcomes := by
  rw [allReturned, List.zip_cons_cons, List.filterMap_cons]
  cases request.returned? outcome with
  | none => rfl
  | some made => rfl

theorem performAll_append (e : Engine σ) (earlier later : List Request) (s : Session σ) :
    performAll e (earlier ++ later) s =
      ((performAll e earlier s).1 ++ (performAll e later (performAll e earlier s).2).1,
        (performAll e later (performAll e earlier s).2).2) := by
  induction earlier generalizing s with
  | nil => rfl
  | cons request requests ih =>
    simp only [List.cons_append, performAll, ih]

theorem length_performAll (e : Engine σ) (requests : List Request) (s : Session σ) :
    (performAll e requests s).1.length = requests.length := by
  induction requests generalizing s with
  | nil => rfl
  | cons request requests ih => exact congrArg (· + 1) (ih _)

/-- A run adds what its requests have returned to whatever was there. -/
theorem performAll_adds (e : Engine σ) (requests : List Request) (s : Session σ) :
    (performAll e requests s).2.imported =
      s.imported ++ allReturned requests (performAll e requests s).1 := by
  induction requests generalizing s with
  | nil => exact (List.append_nil _).symm
  | cons request requests ih =>
    rw [performAll, ih, imported_perform, List.append_assoc, allReturned_cons]

/-- After any requests to a new session over any engine, the record holds exactly the summaries that
the imports among them have returned, in order. Each request has left the record as it was if it
failed or was no import, and has otherwise put its own summary at the end; what was in the record
before a request is in front of all that came later. -/
theorem imported_performAll (e : Engine σ) (database : σ) (requests : List Request) :
    let final := performAll e requests (start database)
    final.1.length = requests.length ∧
      final.2.imported = allReturned requests final.1 ∧
      ∀ earlier request later, requests = earlier ++ request :: later →
        let before := (performAll e earlier (start database)).2
        let turn := request.perform e before
        final.1[earlier.length]? = some turn.1 ∧
          Step request turn.1 before.imported turn.2.imported ∧
          before.imported <+: turn.2.imported ∧ turn.2.imported <+: final.2.imported := by
  refine ⟨length_performAll e requests _, performAll_adds e requests _, ?_⟩
  rintro earlier request later rfl
  refine ⟨?_, step_perform e request _, ?_, ?_⟩
  · rw [performAll_append, List.getElem?_append_right (Nat.le_of_eq (length_performAll e earlier _)),
      length_performAll, Nat.sub_self]
    rfl
  · exact ⟨_, (imported_perform e request _).symm⟩
  · rw [performAll_append]
    exact ⟨_, (performAll_adds e later _).symm⟩

end Request

end QueryDesk.Session
