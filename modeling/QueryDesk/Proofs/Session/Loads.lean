import QueryDesk.Proofs.Csv.Columns
import QueryDesk.Proofs.Engine.Batches
import QueryDesk.Proofs.Engine.Tables
import QueryDesk.Proofs.Session.Imports

/-!
# Loads and selections

An import of a text as the requests that it makes to the engine, in full, and the selection of a
whole table over a connection that reads it.
-/

set_option autoImplicit false

namespace QueryDesk.Session

open Text Csv

variable {σ : Type}

theorem onDatabase_apply {α : Type} (action : Action σ α) (s : Session σ) :
    onDatabase action s = ((action s.database).1, ⟨(action s.database).2, s.imported⟩) := rfl

/-- A load in full: the table, then its rows if there are any, and the record at the end. -/
theorem load_apply (e : Engine σ) (plan : Plan) (s : Session σ) :
    load e plan s = match e.execute plan.create s.database with
      | (.error error, d) => (.error error, ⟨d, s.imported⟩)
      | (.ok _, d) =>
        if plan.insert.isEmpty then (.ok plan.summary, ⟨d, s.imported ++ [plan.summary]⟩)
        else match e.insertRows plan.insert plan.document.rows d with
          | (.error error, d) => (.error error, ⟨d, s.imported⟩)
          | (.ok _, d) => (.ok plan.summary, ⟨d, s.imported ++ [plan.summary]⟩) := by
  rw [load, bind_apply, onDatabase_apply]
  rcases e.execute plan.create s.database with ⟨error | -, d⟩
  · rfl
  · dsimp only
    by_cases none : plan.insert.isEmpty = true
    case pos =>
      rw [if_pos none, none]
      rfl
    case neg =>
      rw [if_neg none, if_pos (by simp [none]), bind_apply, onDatabase_apply]
      rcases e.insertRows plan.insert plan.document.rows d with ⟨error | -, d'⟩
      · rfl
      · rfl

/-- The two steps of a load that succeeds and has rows to insert. -/
theorem exists_of_load {e : Engine σ} {plan : Plan} {s s' : Session σ} {summary : Summary}
    (used : plan.insert ≠ []) (loaded : load e plan s = (.ok summary, s')) :
    ∃ d n, e.execute plan.create s.database = (.ok (), d) ∧
      e.insertRows plan.insert plan.document.rows d = (.ok n, s'.database) := by
  rw [load_apply] at loaded
  rcases executed : e.execute plan.create s.database with ⟨error | _, d⟩
  · rw [executed] at loaded
    cases loaded
  · rw [executed] at loaded
    dsimp only at loaded
    rw [if_neg (by simpa using used)] at loaded
    rcases inserted : e.insertRows plan.insert plan.document.rows d with ⟨error | n, d'⟩
    · rw [inserted] at loaded
      cases loaded
    · rw [inserted] at loaded
      cases loaded
      exact ⟨d, n, rfl, inserted⟩

variable {table t : Text} {doc : Document}

theorem ofText_parse (named : table ≠ []) (read : parse t = .ok doc) :
    Plan.ofText table t = .ok (.ofDocument table doc) := by
  rw [Plan.ofText, if_neg (by simpa using named), read]
  rfl

/-- A text that is read is loaded as it is read, if the table has a name. -/
theorem importText_parse (e : Engine σ) (named : table ≠ []) (read : parse t = .ok doc)
    (s : Session σ) : importText e table t s = load e (.ofDocument table doc) s := by
  rw [importText, ofText_parse named read]
  rfl

/-- An import that succeeds is a load of the document that is read. -/
theorem exists_of_importText {e : Engine σ} {s s' : Session σ} {summary : Summary}
    (imported : importText e table t s = (.ok summary, s')) :
    ∃ doc, parse t = .ok doc ∧ load e (.ofDocument table doc) s = (.ok summary, s') := by
  cases planned : Plan.ofText table t with
  | error error =>
    rw [importText, planned] at imported
    cases imported
  | ok plan =>
    have named : table ≠ [] := by
      rintro rfl
      cases planned
    cases read : parse t with
    | error error =>
      rw [Plan.ofText, if_neg (by simpa using named), read] at planned
      cases planned
    | ok doc => exact ⟨doc, rfl, importText_parse e named read s ▸ imported⟩

theorem exists_documentOf_parse (read : parse t = .ok doc) :
    ∃ first rest, DocumentOf first rest doc := by
  obtain ⟨doc', first, rest, same, documentOf⟩ :=
    exists_documentOf (ofText_parse (List.cons_ne_nil 't' []) read)
  obtain rfl : doc = doc' := congrArg Plan.document same
  exact ⟨first, rest, documentOf⟩

theorem length_inferAll (doc : Document) :
    (ColumnType.inferAll doc).length = doc.headers.length := by
  rw [ColumnType.inferAll, List.length_map, List.length_range, Document.columnCount]

theorem create_ofDocument (table : Text) (doc : Document) : (Plan.ofDocument table doc).create =
    createText table (doc.headers.zip (ColumnType.inferAll doc)) :=
  createStatement_eq_createText table doc.headers _

theorem insert_ofDocument (full : doc.rows ≠ []) :
    (Plan.ofDocument table doc).insert = insertText table doc.headers :=
  insertStatement_eq_insertText table doc.headers full

theorem perform_importText {e : Engine σ} {s s' : Session σ} {summary : Summary}
    (imported : importText e table t s = (.ok summary, s')) :
    (Request.importText table t).perform e s = (.ok (.summary summary), s') := by
  rw [Request.perform, map_apply, imported]
  rfl

/-- The selection of a whole table returns its rows under the names of its columns. -/
theorem run_select {c : Connection σ} {find? : σ → Text → Option TableView}
    {Readable : Text → Prop} (reads : c.Reads find? Readable) (readable : Readable table)
    {s : Session σ} {view : TableView} (there : find? s.database table = some view)
    (plain : view.plain = true) (some : view.columns ≠ [])
    (filled : ∀ row ∈ view.rows, row.length = view.columns.length) :
    (run c.engine (selectText table) s).1 = .ok [⟨view.names, view.rows⟩] := by
  obtain ⟨st, rest, d, found, columns, yields, nothing⟩ :=
    reads.select readable there plain some filled
  have full : c.columns st ≠ [] := by
    rw [columns]
    simpa [TableView.names] using some
  have width : (c.columns st).length = view.columns.length := by
    rw [columns, TableView.names, List.length_map]
  have ran : c.runBatch (selectText table) s.database = (.ok [⟨view.names, view.rows⟩], d) := by
    rw [Statements.runBatch_some found, Statements.runOne_rows full, width,
      yields.collect filled, columns]
    dsimp only [Except.map]
    rw [Statements.runBatch_none nothing]
    rfl
  change (c.runBatch (selectText table) s.database).1.mapError Failure.toError = _
  rw [ran]
  rfl

end QueryDesk.Session
