import QueryDesk.Proofs.Csv.Columns
import QueryDesk.Proofs.Session.Exchange

/-!
# The protocol of an import

Which requests an import makes to its engine, in which order and with what in them, for every engine
and however it answers. `Conversation` lists the ways in which an import can go, `Turn` those of any
request; `speaks_importText` and `speaks_perform` say that there are no others, and
`turns_performAll` carries this over to a run.

What follows from it is read off the record of a run: an insertion comes right after the table was
created, for the same table and the same columns, and has rows of that width (`Orderly`).
-/

set_option autoImplicit false

namespace QueryDesk.Session

open Csv (Summary Plan Fit Creates PlanFor planFor_ofText ofText_error)

variable {σ α β : Type}

/-- Whatever the state, the action puts exchanges at the end of the record that go with its
result. -/
def Speaks (spoken : List Exchange → Except Error α → Prop)
    (action : Action (Session (σ × List Exchange)) α) : Prop :=
  ∀ s, ∃ said, (action s).2.database.2 = s.database.2 ++ said ∧ spoken said (action s).1

/-- An action after another one: either the first fails, or the exchanges of the second follow. -/
theorem Speaks.bind {spoken : List Exchange → Except Error α → Prop}
    {spoken' : α → List Exchange → Except Error β → Prop}
    {both : List Exchange → Except Error β → Prop}
    {first : Action (Session (σ × List Exchange)) α}
    {next : α → Action (Session (σ × List Exchange)) β} (speaks : Speaks spoken first)
    (speaks' : ∀ a, Speaks (spoken' a) (next a))
    (stop : ∀ said error, spoken said (.error error) → both said (.error error))
    (more : ∀ said a said' result, spoken said (.ok a) → spoken' a said' result →
      both (said ++ said') result) : Speaks both (first >>= next) := by
  intro s
  obtain ⟨said, added, here⟩ := speaks s
  rw [bind_apply]
  revert added here
  match first s with
  | (.ok a, s') =>
    intro added here
    obtain ⟨said', added', there⟩ := speaks' a s'
    have whole : (next a s').2.database.2 = s.database.2 ++ (said ++ said') := by
      rw [added', added, List.append_assoc]
    exact ⟨said ++ said', whole, more said a said' _ here there⟩
  | (.error error, s') =>
    intro added here
    exact ⟨said, added, stop said error here⟩

/-- The rule of an action whose result is put in another form. -/
theorem Speaks.map {spoken : List Exchange → Except Error α → Prop}
    {spoken' : List Exchange → Except Error β → Prop} {f : α → β}
    {action : Action (Session (σ × List Exchange)) α} (speaks : Speaks spoken action)
    (same : ∀ said result, spoken said result → spoken' said (result.map f)) :
    Speaks spoken' (do return f (← action)) := by
  intro s
  obtain ⟨said, added, here⟩ := speaks s
  rw [map_apply]
  exact ⟨said, added, same said _ here⟩

theorem speaks_observe (exchange : Except Error α → Exchange) (action : Action σ α) :
    Speaks (fun said result => said = [exchange result])
      (onDatabase (Engine.observe exchange action)) :=
  fun s => ⟨[exchange (action s.database.1).1], rfl, rfl⟩

theorem speaks_record (summary : Summary) :
    Speaks (fun said result => said = [] ∧ result = .ok summary)
      (do record summary; return summary : Action (Session (σ × List Exchange)) Summary) :=
  fun _ => ⟨[], (List.append_nil _).symm, rfl, rfl⟩

/-- The ways in which a plan is carried out: each with the exchanges and the result. -/
inductive Loading (plan : Plan) : List Exchange → Except Error Summary → Prop
  | refused {error : Error} :
      Loading plan [.execute plan.create (.error error)] (.error error)
  | created (none : plan.document.rows = []) :
      Loading plan [.execute plan.create (.ok ())] (.ok plan.summary)
  | broken {error : Error} (some : plan.document.rows ≠ []) :
      Loading plan [.execute plan.create (.ok ()),
        .insertRows plan.insert plan.document.rows (.error error)] (.error error)
  | filled {count : Nat} (some : plan.document.rows ≠ []) :
      Loading plan [.execute plan.create (.ok ()),
        .insertRows plan.insert plan.document.rows (.ok count)] (.ok plan.summary)

/-- The ways in which an import of a text into a table goes. -/
inductive Conversation (table t : Text) : List Exchange → Except Error Summary → Prop
  | unplanned {error : Error} (failed : Plan.ofText table t = .error error) :
      Conversation table t [] (.error error)
  | planned {plan : Plan} {said : List Exchange} {result : Except Error Summary}
      (made : Plan.ofText table t = .ok plan) (loading : Loading plan said result) :
      Conversation table t said result

/-- The part of a load that fills the table. -/
theorem speaks_insertion (e : Engine σ) (plan : Plan) :
    Speaks
      (fun said result => ∃ answer,
        said = [.insertRows plan.insert plan.document.rows answer] ∧
          result = answer.map fun _ => plan.summary)
      (do let _ ← onDatabase (e.observed.insertRows plan.insert plan.document.rows)
          record plan.summary
          return plan.summary) := by
  refine (speaks_observe _ _).bind (fun _ => speaks_record plan.summary) ?_ ?_
  · rintro said error rfl
    exact ⟨.error error, rfl, rfl⟩
  · rintro said count said' result rfl ⟨rfl, rfl⟩
    exact ⟨.ok count, rfl, rfl⟩

theorem speaks_load (e : Engine σ) {plan : Plan}
    (unused : plan.insert = [] ↔ plan.document.rows = []) :
    Speaks (Loading plan) (load e.observed plan) := by
  have executed := speaks_observe (.execute plan.create) (e.execute plan.create)
  by_cases none : plan.insert = []
  case pos =>
    have steps : load e.observed plan = (do
        onDatabase (e.observed.execute plan.create)
        record plan.summary
        return plan.summary) := by
      rw [load, none]
      rfl
    rw [steps]
    refine executed.bind (fun _ => speaks_record plan.summary) ?_ ?_
    · rintro said error rfl
      exact .refused
    · rintro said ⟨⟩ said' result rfl ⟨rfl, rfl⟩
      exact .created (unused.1 none)
  case neg =>
    have some : plan.document.rows ≠ [] := fun empty => none (unused.2 empty)
    have steps : load e.observed plan = (do
        onDatabase (e.observed.execute plan.create)
        let _ ← onDatabase (e.observed.insertRows plan.insert plan.document.rows)
        record plan.summary
        return plan.summary) := by
      rw [load, if_pos (by simp [none])]
    rw [steps]
    refine executed.bind (fun _ => speaks_insertion e plan) ?_ ?_
    · rintro said error rfl
      exact .refused
    · rintro said ⟨⟩ said' result rfl ⟨answer, rfl, rfl⟩
      cases answer with
      | error error => exact .broken some
      | ok count => exact .filled some

theorem importText_unplanned (e : Engine σ) {table t : Text} {error : Error}
    (failed : Plan.ofText table t = .error error) (s : Session σ) :
    importText e table t s = (.error error, s) := by
  rw [importText, failed]
  rfl

theorem speaks_importText (e : Engine σ) (table t : Text) :
    Speaks (Conversation table t) (importText e.observed table t) := by
  intro s
  cases made : Plan.ofText table t with
  | error error =>
    rw [importText_unplanned e.observed made s]
    exact ⟨[], (List.append_nil _).symm, .unplanned made⟩
  | ok plan =>
    have loads : importText e.observed table t = load e.observed plan := by
      rw [importText, made]
      rfl
    rw [loads]
    obtain ⟨said, added, loading⟩ := speaks_load e (planFor_ofText made).insert s
    exact ⟨said, added, .planned made loading⟩

/-- The ways in which a request goes: an import as its text does, a file that cannot be imported
without an exchange, and anything else with one query. -/
inductive Turn : Request → List Exchange → Except Error Answer → Prop
  | text {table t : Text} {said : List Exchange} {result : Except Error Summary}
      (conversation : Conversation table t said result) :
      Turn (.importText table t) said (result.map .summary)
  | unread {files : FileAccess} {path : Text} {table : Option Text} {failure : ReadFailure}
      (unread : files.readText path = .error failure) :
      Turn (.importFile files path table) [] (.error (.io failure.message))
  | unnamed {files : FileAccess} {path t : Text} {table : Option Text} {error : Error}
      (read : files.readText path = .ok t) (unnamed : tableFor path table = .error error) :
      Turn (.importFile files path table) [] (.error error)
  | file {files : FileAccess} {path t name : Text} {table : Option Text} {said : List Exchange}
      {result : Except Error Summary} (read : files.readText path = .ok t)
      (named : tableFor path table = .ok name) (conversation : Conversation name t said result) :
      Turn (.importFile files path table) said (result.map .summary)
  | batch {sql : Text} (answer : Except Error (List ResultSet)) :
      Turn (.run sql) [.query sql answer] (answer.map .results)
  | names (answer : Except Error (List ResultSet)) :
      Turn .tableNames [.query tableNamesQuery answer]
        (answer.map fun results => .names (firstTexts results))
  | overview (answer : Except Error (List ResultSet)) :
      Turn .tablesOverview [.query tableNamesQuery answer]
        (answer.map fun results => .overview (overview? (firstTexts results)))

theorem speaks_run (e : Engine σ) (sql : Text) :
    Speaks (fun said answer => said = [.query sql answer]) (run e.observed sql) :=
  speaks_observe (.query sql) (e.query sql)

theorem map_map {γ : Type} (f : α → β) (g : β → γ) (result : Except Error α) :
    (result.map f).map g = result.map fun a => g (f a) := by
  cases result <;> rfl

theorem speaks_tableNames (e : Engine σ) :
    Speaks (fun said result => ∃ answer,
      said = [.query tableNamesQuery answer] ∧ result = answer.map firstTexts)
      (tableNames e.observed) := by
  refine (speaks_run e tableNamesQuery).map ?_
  rintro said answer rfl
  exact ⟨answer, rfl, rfl⟩

theorem speaks_tablesOverview (e : Engine σ) :
    Speaks (fun said result => ∃ answer, said = [.query tableNamesQuery answer] ∧
      result = answer.map fun results => overview? (firstTexts results))
      (tablesOverview e.observed) := by
  refine (speaks_tableNames e).map ?_
  rintro said result ⟨answer, rfl, rfl⟩
  exact ⟨answer, rfl, map_map ..⟩

theorem speaks_importFile (e : Engine σ) (files : FileAccess) (path : Text)
    (table : Option Text) :
    Speaks (fun said result => Turn (.importFile files path table) said (result.map .summary))
      (importFile e.observed files path table) := by
  intro s
  cases read : files.readText path with
  | error failure =>
    have stopped : importFile e.observed files path table s =
        (.error (.io failure.message), s) := by
      rw [importFile, read]
      rfl
    rw [stopped]
    exact ⟨[], (List.append_nil _).symm, .unread read⟩
  | ok t =>
    cases named : tableFor path table with
    | error error =>
      have stopped : importFile e.observed files path table s = (.error error, s) := by
        rw [importFile, read, named]
        rfl
      rw [stopped]
      exact ⟨[], (List.append_nil _).symm, .unnamed read named⟩
    | ok name =>
      have imports : importFile e.observed files path table = importText e.observed name t := by
        rw [importFile, read, named]
        rfl
      rw [imports]
      obtain ⟨said, added, conversation⟩ := speaks_importText e name t s
      exact ⟨said, added, .file read named conversation⟩

theorem speaks_perform (e : Engine σ) (request : Request) :
    Speaks (Turn request) (request.perform e.observed) := by
  cases request with
  | importText table t =>
    exact (speaks_importText e table t).map fun _ _ conversation => .text conversation
  | importFile files path table =>
    exact (speaks_importFile e files path table).map fun _ _ turn => turn
  | run sql =>
    refine (speaks_run e sql).map ?_
    rintro said answer rfl
    exact .batch answer
  | tableNames =>
    refine (speaks_tableNames e).map ?_
    rintro said result ⟨answer, rfl, rfl⟩
    rw [map_map]
    exact .names answer
  | tablesOverview =>
    refine (speaks_tablesOverview e).map ?_
    rintro said result ⟨answer, rfl, rfl⟩
    rw [map_map]
    exact .overview answer

/-- The ways in which requests go one after another, with everything that is exchanged. -/
inductive Turns : List Request → List Exchange → List (Except Error Answer) → Prop
  | nil : Turns [] [] []
  | cons {request : Request} {requests : List Request} {said more : List Exchange}
      {result : Except Error Answer} {results : List (Except Error Answer)}
      (turn : Turn request said result) (turns : Turns requests more results) :
      Turns (request :: requests) (said ++ more) (result :: results)

theorem turns_performAll (e : Engine σ) (requests : List Request)
    (s : Session (σ × List Exchange)) :
    ∃ said, (Request.performAll e.observed requests s).2.database.2 = s.database.2 ++ said ∧
      Turns requests said (Request.performAll e.observed requests s).1 := by
  induction requests generalizing s with
  | nil => exact ⟨[], (List.append_nil _).symm, .nil⟩
  | cons request requests ih =>
    obtain ⟨said, added, turn⟩ := speaks_perform e request s
    obtain ⟨more, added', turns⟩ := ih (request.perform e.observed s).2
    refine ⟨said ++ more, ?_, .cons turn turns⟩
    rw [Request.performAll, added', added, List.append_assoc]

/-- Every insertion comes right after a statement that has created the table with the same
columns. -/
def Orderly (record : List Exchange) : Prop :=
  ∀ before template rows answer after,
    record = before ++ .insertRows template rows answer :: after →
      ∃ earlier sql table columns,
        before = earlier ++ [.execute sql (.ok ())] ∧ Fit table columns sql template rows

theorem Orderly.append {record record' : List Exchange} (orderly : Orderly record)
    (orderly' : Orderly record') : Orderly (record ++ record') := by
  intro before template rows answer after shape
  rcases List.append_eq_append_iff.1 shape with ⟨front, rfl, rest⟩ | ⟨back, whole, rest⟩
  · obtain ⟨earlier, sql, table, columns, rfl, fit⟩ := orderly' front _ _ _ _ rest
    exact ⟨record ++ earlier, sql, table, columns, (List.append_assoc ..).symm, fit⟩
  · cases back with
    | nil =>
      obtain ⟨earlier, sql, table, columns, shape, -⟩ := orderly' [] _ _ _ _ rest.symm
      simp at shape
    | cons exchange back =>
      obtain ⟨rfl, -⟩ := List.cons.inj rest
      exact orderly before _ _ _ back whole

theorem orderly_without {record : List Exchange}
    (none : ∀ exchange ∈ record, ∀ template rows answer,
      exchange ≠ .insertRows template rows answer) : Orderly record := by
  rintro before template rows answer after rfl
  exact absurd rfl (none _ (List.mem_append_right before List.mem_cons_self) template rows answer)

theorem orderly_filled {table create insert : Text} {columns : List Text}
    {rows : List (List Text)} (fit : Fit table columns create insert rows)
    (answer : Except Error Nat) :
    Orderly [.execute create (.ok ()), .insertRows insert rows answer] := by
  intro before template rows' answer' after shape
  cases before with
  | nil => cases shape
  | cons exchange before =>
    obtain ⟨rfl, rest⟩ := List.cons.inj shape
    cases before with
    | nil =>
      cases rest
      exact ⟨[], create, table, columns, rfl, fit⟩
    | cons exchange before =>
      have impossible := (List.cons.inj rest).2
      simp at impossible

theorem Conversation.orderly {table t : Text} {said : List Exchange}
    {result : Except Error Summary} (conversation : Conversation table t said result) :
    Orderly said := by
  cases conversation with
  | unplanned failed => exact orderly_without nofun
  | planned made loading =>
    have fit := (planFor_ofText made).fit
    cases loading with
    | refused => exact orderly_without (by simp)
    | created none => exact orderly_without (by simp)
    | broken some => exact orderly_filled (fit some) _
    | filled some => exact orderly_filled (fit some) _

theorem Turn.orderly {request : Request} {said : List Exchange} {result : Except Error Answer}
    (turn : Turn request said result) : Orderly said := by
  cases turn with
  | text conversation => exact conversation.orderly
  | unread unread => exact orderly_without nofun
  | unnamed read unnamed => exact orderly_without nofun
  | file read named conversation => exact conversation.orderly
  | batch answer => exact orderly_without (by simp)
  | names answer => exact orderly_without (by simp)
  | overview answer => exact orderly_without (by simp)

theorem Turns.orderly {requests : List Request} {said : List Exchange}
    {results : List (Except Error Answer)} (turns : Turns requests said results) :
    Orderly said := by
  induction turns with
  | nil => exact orderly_without nofun
  | cons turn _ ih => exact turn.orderly.append ih

/-- What a summary says of the exchanges that it comes from. -/
structure Reports (table : Text) (said : List Exchange) (summary : Summary) : Prop where
  name : summary.table = table
  columns : ∃ create columns more, said = .execute create (.ok ()) :: more ∧
    Creates create table columns ∧ summary.columns = columns.length
  rows : summary.rows = (said.flatMap Exchange.rows).length

theorem Conversation.reports {table t : Text} {said : List Exchange} {summary : Summary}
    (conversation : Conversation table t said (.ok summary)) : Reports table said summary := by
  cases conversation with
  | planned made loading =>
    have planFor := planFor_ofText made
    cases loading with
    | created none =>
      refine ⟨planFor.name, ⟨_, _, _, rfl, planFor.creates, rfl⟩, ?_⟩
      exact congrArg List.length none
    | filled some =>
      refine ⟨planFor.name, ⟨_, _, _, rfl, planFor.creates, rfl⟩, ?_⟩
      exact congrArg List.length (List.append_nil _).symm

/-- An error that the engine has answered with is the result. -/
def Propagates (said : List Exchange) (result : Except Error α) : Prop :=
  ∀ exchange ∈ said, ∀ error, exchange.error? = some error → result = .error error

theorem Propagates.map {said : List Exchange} {result : Except Error α}
    (propagates : Propagates said result) (f : α → β) : Propagates said (result.map f) := by
  intro exchange member error failed
  rw [propagates exchange member error failed]
  rfl

theorem propagates_query (sql : Text) (answer : Except Error (List ResultSet)) :
    Propagates [.query sql answer] answer := by
  intro exchange member error failed
  obtain rfl := List.mem_singleton.1 member
  cases answer with
  | error reason => cases failed; rfl
  | ok results => cases failed

theorem Conversation.propagates {table t : Text} {said : List Exchange}
    {result : Except Error Summary} (conversation : Conversation table t said result) :
    Propagates said result := by
  cases conversation with
  | unplanned failed => exact nofun
  | planned made loading =>
    cases loading with
    | refused => simp [Propagates, Exchange.error?]
    | created none => simp [Propagates, Exchange.error?]
    | broken some => simp [Propagates, Exchange.error?]
    | filled some => simp [Propagates, Exchange.error?]

theorem Turn.propagates {request : Request} {said : List Exchange} {result : Except Error Answer}
    (turn : Turn request said result) : Propagates said result := by
  cases turn with
  | text conversation => exact conversation.propagates.map _
  | unread unread => exact nofun
  | unnamed read unnamed => exact nofun
  | file read named conversation => exact conversation.propagates.map _
  | batch answer => exact (propagates_query _ answer).map _
  | names answer => exact (propagates_query _ answer).map _
  | overview answer => exact (propagates_query _ answer).map _

/-- What an import keeps to. -/
structure Kept (table t : Text) (said : List Exchange) (result : Except Error Summary) : Prop where
  conversation : Conversation table t said result
  orderly : Orderly said
  failure : Propagates said result
  success : ∀ summary, result = .ok summary → Reports table said summary

theorem Conversation.kept {table t : Text} {said : List Exchange} {result : Except Error Summary}
    (conversation : Conversation table t said result) : Kept table t said result := by
  refine ⟨conversation, conversation.orderly, conversation.propagates, ?_⟩
  rintro summary rfl
  exact conversation.reports

/-- Whatever the engine and however it answers: an import keeps to the protocol in every state,
without a plan it fails as the plan does and leaves everything as it was, and any request fails with
the error that the engine has answered with. Over any run the requests take turns at the engine, and
insertions come right after their tables. The record that this is read off changes nothing: without
it an import and a run are the same, and without the answers it is the log. -/
theorem import_protocol (e : Engine σ) :
    (∀ (table t : Text) (s : Session (σ × List Exchange)),
      let turn := importText e.observed table t s
      importText e table t (s.through Prod.fst) = (turn.1, turn.2.through Prod.fst) ∧
        ∃ said, turn.2.database.2 = s.database.2 ++ said ∧ Kept table t said turn.1) ∧
    (∀ (table t : Text) (error : Error), Plan.ofText table t = .error error →
      ((table = [] ∧ error = .invalidTableName table) ∨
        (table ≠ [] ∧ (error = .emptyInput ∨ ∃ reason, error = .invalidHeader reason))) ∧
      ∀ s : Session σ, importText e table t s = (.error error, s)) ∧
    (∀ (request : Request) (s : Session (σ × List Exchange)),
      let turn := request.perform e.observed s
      ∃ said, turn.2.database.2 = s.database.2 ++ said ∧ Turn request said turn.1 ∧
        Propagates said turn.1) ∧
    ∀ (database : σ) (requests : List Request),
      let final := Request.performAll e.observed requests (start (database, []))
      Turns requests final.2.database.2 final.1 ∧
        Orderly final.2.database.2 ∧
        Request.performAll e requests (start database) = (final.1, final.2.through Prod.fst) ∧
        (Request.performAll e.logged requests (start (database, []))).2.database.2 =
          final.2.database.2.map Exchange.call := by
  refine ⟨fun table t s => ?_, fun table t error failed => ?_, fun request s => ?_,
    fun database requests => ?_⟩
  · obtain ⟨said, added, conversation⟩ := speaks_importText e table t s
    exact ⟨shows_importText e.observed_shows table t s, said, added, conversation.kept⟩
  · exact ⟨ofText_error failed, importText_unplanned e failed⟩
  · obtain ⟨said, added, turn⟩ := speaks_perform e request s
    exact ⟨said, added, turn, turn.propagates⟩
  · obtain ⟨said, added, turns⟩ := turns_performAll e requests (start (database, []))
    obtain rfl : _ = said := added
    have alike := Request.shows_performAll e.observed_shows requests (start (database, []))
    have logged := Request.shows_performAll e.observed_shows_logged requests
      (start (database, []))
    exact ⟨turns, turns.orderly, alike, congrArg (fun run => run.2.database.2) logged⟩

end QueryDesk.Session
