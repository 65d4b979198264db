import QueryDesk.Engine.Scripted
import QueryDesk.Proofs.Session.Protocol
import QueryDesk.Proofs.Text.Decoding

/-!
# Which failure of an import is reported

Several things can be wrong with a file at once: it cannot be read, its name gives a table none, its
text is empty or its header names nothing, and the engine may fail besides. `Fault` lists those that
lie in the file and in what is asked for, in the order in which they are looked for, each said without
the others. The first of them is reported before the engine is asked for anything
(`importFile_precedence`); without any the import is one of the text into the table, and what can
still go wrong is an answer of the engine.
-/

set_option autoImplicit false

namespace QueryDesk.Session

open Csv (Summary Plan ContentLines Nameless contentLines_eq_iff parse_nil parse_nameless
  parse_document)

/-- What keeps a file from being imported, whatever the engine does. -/
inductive Fault where
  /-- The file is not there or is not text. -/
  | unreadable
  /-- No table is asked for, and nothing of the file name is left for one. -/
  | unnamed
  /-- A table without a name is asked for. -/
  | emptyName
  /-- No line of the text has anything on it. -/
  | emptyText
  /-- The first line of the text names no column. -/
  | namelessHeader
  deriving DecidableEq, Repr

namespace Fault

/-- The faults in the order in which they are looked for. -/
def all : List Fault := [.unreadable, .unnamed, .emptyName, .emptyText, .namelessHeader]

/-- The faults looked for before a given one. -/
def earlier (fault : Fault) : List Fault := all.takeWhile (· != fault)

/-- The name at the end of a path, which is empty if the path ends in none. -/
def fileName (path : Text) : Text := (Files.fileName? path).getD []

/-- Whether a fault is there, with the error that tells of it. No fault looks at another one, but
that a text has to be read for one of its own. -/
inductive Found (files : FileAccess) (path : Text) (table : Option Text) : Fault → Error → Prop
  | unreadable {failure : ReadFailure} : files.readText path = .error failure →
      Found files path table unreadable (.io failure.message)
  | unnamed : table = none → Csv.tableName (fileName path) = [] →
      Found files path table unnamed (.invalidTableName (fileName path))
  | emptyName : table = some [] → Found files path table emptyName (.invalidTableName [])
  | emptyText {t : Text} : files.readText path = .ok t → ContentLines t [] →
      Found files path table emptyText .emptyInput
  | namelessHeader {t first : Text} {rest : List Text} : files.readText path = .ok t →
      ContentLines t (first :: rest) → Nameless first →
      Found files path table namelessHeader (.noColumnNames (Text.trim first))

/-- The error of the first fault that is there. -/
def First (files : FileAccess) (path : Text) (table : Option Text) (error : Error) : Prop :=
  ∃ fault, Found files path table fault error ∧
    ∀ other ∈ earlier fault, ∀ error', ¬ Found files path table other error'

variable {files : FileAccess} {path : Text} {table : Option Text} {error error' : Error}

theorem Found.unique {fault : Fault} (found : Found files path table fault error)
    (found' : Found files path table fault error') : error = error' := by
  cases found with
  | @unreadable failure failed =>
    cases found' with
    | @unreadable failure' failed' =>
      rw [failed, Except.error.injEq] at failed'
      rw [failed']
  | unnamed => cases found'; rfl
  | emptyName => cases found'; rfl
  | emptyText => cases found'; rfl
  | @namelessHeader t first rest read content =>
    cases found' with
    | @namelessHeader t' first' rest' read' content' =>
      obtain rfl := Except.ok.inj (read.symm.trans read')
      have lines := (contentLines_eq_iff t _).2 content
      rw [(contentLines_eq_iff t _).2 content', List.cons.injEq] at lines
      rw [lines.1]

theorem First.unique (first : First files path table error)
    (first' : First files path table error') : error = error' := by
  obtain ⟨fault, found, none⟩ := first
  obtain ⟨fault', found', none'⟩ := first'
  have order : fault = fault' ∨ fault ∈ earlier fault' ∨ fault' ∈ earlier fault := by
    cases fault <;> cases fault' <;> decide
  rcases order with rfl | before | after
  · exact found.unique found'
  · exact absurd found (none' fault before error)
  · exact absurd found' (none fault' after error')

end Fault

open Fault (fileName Found First)

variable {σ α β : Type} {files : FileAccess} {path t : Text} {table : Option Text} {error : Error}

/-- The plan to import a file, as far as it goes without the engine. -/
def planned (files : FileAccess) (path : Text) (table : Option Text) : Except Error Plan := do
  let t ← (files.readText path).mapError fun f => .io f.message
  let name ← tableFor path table
  Plan.ofText name t

theorem importFile_planned (e : Engine σ) (files : FileAccess) (path : Text)
    (table : Option Text) : importFile e files path table =
      (do load e (← ExceptT.mk (pure (planned files path table)))) := by
  rw [importFile, planned]
  cases files.readText path with
  | error failure => rfl
  | ok t =>
    cases tableFor path table with
    | error error => rfl
    | ok name => rfl

/-- A table that is asked for or for which the file name leaves something. -/
theorem tableFor_named (named : table = none → Csv.tableName (fileName path) ≠ []) :
    tableFor path table = .ok (table.getD (Csv.tableName (fileName path))) := by
  cases table with
  | some name => rfl
  | none => exact if_neg fun empty => named rfl (List.isEmpty_iff.1 empty)

theorem tableFor_unnamed (empty : Csv.tableName (fileName path) = []) :
    tableFor path none = .error (.invalidTableName (fileName path)) :=
  if_pos (List.isEmpty_iff.2 empty)

theorem ofText_of_parse {name : Text} (named : name ≠ []) (t : Text) :
    Plan.ofText name t = (Csv.parse t).map (Plan.ofDocument name) :=
  if_neg fun empty => named (List.isEmpty_iff.1 empty)

theorem planned_named {name : Text} (read : files.readText path = .ok t)
    (named : tableFor path table = .ok name) : planned files path table = Plan.ofText name t := by
  rw [planned, read, named]
  rfl

/-- None of some faults is there. -/
def Clear (files : FileAccess) (path : Text) (table : Option Text) (faults : List Fault) : Prop :=
  ∀ fault ∈ faults, ∀ error, ¬ Found files path table fault error

theorem Clear.append {faults : List Fault} (clear : Clear files path table faults) {fault : Fault}
    (none : ∀ error, ¬ Found files path table fault error) :
    Clear files path table (faults ++ [fault]) :=
  List.forall_mem_append.2 ⟨clear, List.forall_mem_singleton.2 none⟩

theorem clear_of_read (read : files.readText path = .ok t) :
    Clear files path table [.unreadable] := by
  refine List.forall_mem_singleton.2 fun error found => ?_
  cases found with
  | unreadable failed =>
    rw [read] at failed
    cases failed

/-- A file has a first fault, and for that reason no plan, or it has none and a plan. -/
def Settled (files : FileAccess) (path : Text) (table : Option Text) : Prop :=
  (∃ error, First files path table error ∧ planned files path table = .error error) ∨
    (Clear files path table Fault.all ∧ ∃ plan, planned files path table = .ok plan)

theorem settled_of_text {name : Text} (read : files.readText path = .ok t)
    (plans : planned files path table = (Csv.parse t).map (Plan.ofDocument name))
    (clear : Clear files path table (Fault.earlier .emptyText)) : Settled files path table := by
  cases shape : Csv.contentLines t with
  | nil =>
    rw [parse_nil shape] at plans
    exact .inl ⟨_, ⟨_, .emptyText read ((contentLines_eq_iff t []).1 shape), clear⟩, plans⟩
  | cons first rest =>
    have content := (contentLines_eq_iff t _).1 shape
    have full : ∀ error, ¬ Found files path table .emptyText error := by
      intro error found
      cases found with
      | emptyText read' empty =>
        obtain rfl := Except.ok.inj (read.symm.trans read')
        rw [(contentLines_eq_iff t []).2 empty] at shape
        cases shape
    by_cases nameless : Nameless first
    case pos =>
      rw [parse_nameless shape nameless] at plans
      exact .inl ⟨_, ⟨_, .namelessHeader read content nameless, clear.append full⟩, plans⟩
    case neg =>
      obtain ⟨d, made, -⟩ := parse_document shape nameless
      rw [made] at plans
      refine .inr ⟨(clear.append full).append fun error found => ?_, _, plans⟩
      cases found with
      | namelessHeader read' content' nameless' =>
        obtain rfl := Except.ok.inj (read.symm.trans read')
        rw [(contentLines_eq_iff t _).2 content', List.cons.injEq] at shape
        exact nameless (shape.1 ▸ nameless')

theorem settled (files : FileAccess) (path : Text) (table : Option Text) :
    Settled files path table := by
  cases read : files.readText path with
  | error failure =>
    refine .inl ⟨_, ⟨_, .unreadable read, List.forall_mem_nil _⟩, ?_⟩
    rw [planned, read]
    rfl
  | ok t =>
    have readable : Clear files path table [.unreadable] := clear_of_read read
    by_cases unnamed : table = none ∧ Csv.tableName (fileName path) = []
    case pos =>
      obtain ⟨rfl, empty⟩ := unnamed
      refine .inl ⟨_, ⟨_, .unnamed rfl empty, readable⟩, ?_⟩
      rw [planned, read, tableFor_unnamed empty]
      rfl
    case neg =>
      have named : Clear files path table (Fault.earlier .emptyName) := by
        refine readable.append fun error found => ?_
        cases found with
        | unnamed absent empty => exact unnamed ⟨absent, empty⟩
      have plans := planned_named read (tableFor_named fun absent empty => unnamed ⟨absent, empty⟩)
      by_cases blank : table = some []
      case pos =>
        subst blank
        exact .inl ⟨_, ⟨_, .emptyName rfl, named⟩, plans⟩
      case neg =>
        have full : table.getD (Csv.tableName (fileName path)) ≠ [] := by
          cases table with
          | none => exact fun empty => unnamed ⟨rfl, empty⟩
          | some name => exact fun empty => blank (congrArg some empty)
        rw [ofText_of_parse full] at plans
        refine settled_of_text read plans (named.append fun error found => ?_)
        cases found with
        | emptyName empty => exact blank empty

theorem first_iff : First files path table error ↔ planned files path table = .error error := by
  constructor
  · intro first
    rcases settled files path table with ⟨error', first', failed⟩ | ⟨clear, -⟩
    · rw [first.unique first', failed]
    · obtain ⟨fault, found, -⟩ := first
      exact absurd found (clear fault (by cases fault <;> decide) error)
  · intro failed
    rcases settled files path table with ⟨error', first, failed'⟩ | ⟨-, plan, made⟩
    · rw [failed', Except.error.injEq] at failed
      exact failed ▸ first
    · rw [made] at failed
      cases failed

theorem ofText_of_planned {plan : Plan} (made : planned files path table = .ok plan) :
    ∃ name t, Plan.ofText name t = .ok plan := by
  rw [planned] at made
  cases read : files.readText path with
  | error failure =>
    rw [read] at made
    cases made
  | ok t =>
    cases named : tableFor path table with
    | error error =>
      rw [read, named] at made
      cases made
    | ok name =>
      rw [read, named] at made
      exact ⟨name, t, made⟩

theorem importFile_failed (e : Engine σ) (failed : planned files path table = .error error)
    (s : Session σ) : importFile e files path table s = (.error error, s) := by
  rw [importFile_planned, failed]
  rfl

theorem importFile_load (e : Engine σ) {plan : Plan}
    (made : planned files path table = .ok plan) :
    importFile e files path table = load e plan := by
  rw [importFile_planned, made]
  rfl

/-- A text cannot be read from a file that is not there or whose octets are those of no text. -/
theorem unreadable_iff (f : Files) (path : Text) (table : Option Text) :
    (∃ error, Found f.access path table .unreadable error) ↔
      ∀ t, f.readBytes path ≠ .ok (Text.encode t) := by
  have read (t : Text) : f.access.readText path = .ok t ↔ f.readBytes path = .ok (Text.encode t) :=
    f.readText_eq_ok_iff path t
  constructor
  · rintro ⟨error, found⟩ t octets
    cases found with
    | unreadable failed =>
      rw [(read t).2 octets] at failed
      cases failed
  · intro none
    cases found : f.access.readText path with
    | error failure => exact ⟨_, .unreadable found⟩
    | ok t => exact absurd ((read t).1 found) (none t)

/-- To carry out a plan is to ask the engine, and an error is one that it has answered with. -/
theorem Loading.answered {plan : Plan} {said : List Exchange} {result : Except Error Csv.Summary}
    (loading : Loading plan said result) : said ≠ [] ∧
      ∀ error, result = .error error → ∃ exchange ∈ said, exchange.error? = some error := by
  refine ⟨by cases loading <;> exact List.cons_ne_nil _ _, ?_⟩
  rintro error rfl
  cases loading with
  | refused => exact ⟨_, List.mem_singleton_self _, rfl⟩
  | broken some => exact ⟨_, List.mem_cons_of_mem _ (List.mem_singleton_self _), rfl⟩

/-- The import of a file fails with its first fault, if it has one: the engine is asked for nothing
and the session stays as it was, in whatever way the engine would fail. If the file can be read and
there is a name for its table, the import is that of the text into this table. Whatever the error, it
is that of the first fault, and then nothing has happened, or the engine has answered with it: an
engine may answer with any error, and it is passed on. Only octets that are those of no text cannot
be read. -/
theorem importFile_precedence (e : Engine σ) (files : FileAccess) (path : Text)
    (table : Option Text) :
    (∀ error, First files path table error →
      (∀ s, importFile e files path table s = (.error error, s)) ∧
        ∀ s, importFile e.logged files path table s = (.error error, s)) ∧
    (∀ t, files.readText path = .ok t →
      (table = none → Csv.tableName (fileName path) ≠ []) →
        importFile e files path table =
            importText e (table.getD (Csv.tableName (fileName path))) t ∧
          importFile e.logged files path table =
            importText e.logged (table.getD (Csv.tableName (fileName path))) t) ∧
    (∀ s, ∃ said,
      (importFile e.observed files path table s).2.database.2 = s.database.2 ++ said ∧
        ((∃ error, First files path table error ∧ said = [] ∧
            importFile e.observed files path table s = (.error error, s)) ∨
          (Clear files path table Fault.all ∧ said ≠ [] ∧
            ∀ error, (importFile e.observed files path table s).1 = .error error →
              ∃ exchange ∈ said, exchange.error? = some error))) ∧
    ∀ f : Files, (∃ error, Found f.access path table .unreadable error) ↔
      ∀ t, f.readBytes path ≠ .ok (Text.encode t) := by
  refine ⟨fun error first => ?_, fun t read named => ?_, fun s => ?_,
    fun f => unreadable_iff f path table⟩
  · have failed := first_iff.1 first
    exact ⟨importFile_failed e failed, importFile_failed e.logged failed⟩
  · have found := tableFor_named named
    constructor
    · rw [importFile, read, found]
      rfl
    · rw [importFile, read, found]
      rfl
  · rcases settled files path table with ⟨error, first, failed⟩ | ⟨clear, plan, made⟩
    · have stopped := importFile_failed e.observed failed s
      exact ⟨[], by rw [stopped, List.append_nil], .inl ⟨error, first, rfl, stopped⟩⟩
    · obtain ⟨name, t, planned⟩ := ofText_of_planned made
      rw [importFile_load e.observed made]
      obtain ⟨said, added, loading⟩ := speaks_load e (Csv.planFor_ofText planned).insert s
      exact ⟨said, added, .inr ⟨clear, loading.answered⟩⟩

/-- A blank file, without a name for its table, for an engine that refuses every statement: what is
told is that there is no name, and the engine is asked for nothing. A file that can be read is
imported as its text is. -/
theorem importFile_precedence_blank :
    let f : Files := ⟨[(["---.csv".toList], Text.encode " \n".toList)]⟩
    let s := start (⟨some (.execute, "locked".toList), []⟩, ([] : List Call))
    (∃ error, Found f.access "---.csv".toList none .emptyText error) ∧
      First f.access "---.csv".toList none (.invalidTableName "---.csv".toList) ∧
      importFile Script.engine.logged f.access "---.csv".toList none s =
        (.error (.invalidTableName "---.csv".toList), s) ∧
      importFile Script.engine.logged f.access "---.csv".toList (some ['t']) =
        importText Script.engine.logged ['t'] " \n".toList := by
  intro f s
  have read : f.access.readText "---.csv".toList = .ok " \n".toList := by decide +kernel
  have blank : ContentLines " \n".toList [] := (contentLines_eq_iff _ _).1 (by decide +kernel)
  have first : First f.access "---.csv".toList none (.invalidTableName "---.csv".toList) :=
    ⟨.unnamed, .unnamed rfl (by decide +kernel), clear_of_read read⟩
  have unnamed := importFile_precedence Script.engine f.access "---.csv".toList none
  have named := importFile_precedence Script.engine f.access "---.csv".toList (some ['t'])
  exact ⟨⟨_, .emptyText read blank⟩, first, (unnamed.1 _ first).2 s, (named.2.1 _ read nofun).2⟩

/-- An engine that answers every request with the error of an empty text. -/
def blankEngine : Engine Unit where
  execute _ := throw .emptyInput
  query _ := throw .emptyInput
  insertRows _ _ := throw .emptyInput

/-- The error of an empty text may be the answer to a call. -/
theorem importFile_foreign_error : ¬ ∀ (e : Engine Unit) (files : FileAccess) (path : Text)
    (table : Option Text) (s : Session (Unit × List Call)) (error : Error),
    (importFile e.logged files path table s).1 = .error error →
    (∀ reason, error ≠ .engine reason) →
    importFile e.logged files path table s = (.error error, s) := by
  intro claim
  let files : FileAccess := ⟨fun _ => .ok "a\n1\n".toList, fun _ => true⟩
  have made : planned files "t.csv".toList (some ['t']) =
      .ok (.ofDocument ['t'] ⟨[['a']], [[['1']]]⟩) := rfl
  have quiet := claim blankEngine files "t.csv".toList (some ['t']) (start ((), [])) .emptyInput
  rw [importFile_load blankEngine.logged made] at quiet
  cases quiet rfl nofun

end QueryDesk.Session
