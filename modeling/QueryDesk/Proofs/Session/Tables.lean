import Mathlib.Algebra.GroupWithZero.Nat
import QueryDesk.Proofs.Session.Loads
import QueryDesk.Proofs.Store.Imports

/-!
# Tables that are imported into

Texts with the same headers are imported into one table, of which nothing is known but what is
assumed of any database (`Connection.Stores`). The first import creates the table, later ones find
it, and each puts its rows at the end (`load_stores`). So after any number of imports the table has
all their rows in order, as its columns keep them (`performAll_imports`).
-/

set_option autoImplicit false

namespace QueryDesk.Session

open Text Csv

variable {σ : Type} {c : Connection σ} {find? : σ → Text → Option TableView}
  {stored : ColumnType → Text → Value} {reserved : Text → Prop} {table : Text}
  {headers : List Text} {types : List ColumnType} {s : Session σ} {doc : Document}
  {rows : List (List Value)}

/-- A table with the given columns and rows. -/
def viewOf (headers : List Text) (types : List ColumnType) (rows : List (List Value)) : TableView :=
  ⟨headers.zip types, rows, true⟩

theorem names_viewOf (typed : types.length = headers.length) :
    (viewOf headers types rows).names = headers :=
  List.map_fst_zip (Nat.le_of_eq typed.symm)

theorem types_viewOf (typed : types.length = headers.length) :
    (viewOf headers types rows).types = types :=
  List.map_snd_zip (Nat.le_of_eq typed)

theorem length_columns_viewOf (typed : types.length = headers.length) :
    (viewOf headers types rows).columns.length = headers.length := by
  rw [viewOf, List.length_zip, typed, Nat.min_self]

/-- What an import with the given headers needs of a table and of its columns. -/
structure Fillable (reserved : Text → Prop) (table : Text) (headers : List Text) : Prop where
  named : Usable reserved table
  listing : headers ≠ []
  names : ∀ header ∈ headers, Usable reserved header
  distinct : Distinct headers

theorem Fillable.ne_nil (fillable : Fillable reserved table headers) : table ≠ [] := by
  obtain ⟨c, cs, rfl, -⟩ := fillable.named.begins
  exact List.cons_ne_nil c cs

theorem Fillable.columns (fillable : Fillable reserved table headers)
    (typed : types.length = headers.length) : headers.zip types ≠ [] ∧
      (∀ column ∈ headers.zip types, Usable reserved column.1) ∧
      Distinct ((headers.zip types).map Prod.fst) := by
  refine ⟨?_, fun column member => fillable.names _ (List.of_mem_zip member).1, ?_⟩
  · rw [← List.length_pos_iff, List.length_zip, typed, Nat.min_self]
    exact List.length_pos_iff.2 fillable.listing
  · rw [List.map_fst_zip (Nat.le_of_eq typed.symm)]
    exact fillable.distinct

/-- Once the table is there with its columns, the rows of a document come to stand behind those it
has. -/
theorem load_stores (stores : c.Stores find? stored reserved)
    (fillable : Fillable reserved table headers) (typed : types.length = headers.length)
    (alike : doc.headers = headers) (width : ∀ row ∈ doc.rows, row.length = doc.headers.length)
    {d : σ} (created : c.executeBatch (createText table (headers.zip (ColumnType.inferAll doc)))
      s.database = (.ok (), d))
    (there : find? d table = some (viewOf headers types rows))
    (same : SameBut find? table s.database d) :
    ∃ s', load c.engine (.ofDocument table doc) s =
        (.ok ⟨table, headers.length, doc.rowCount⟩, s') ∧
      find? s'.database table =
        some (viewOf headers types (rows ++ doc.rows.map (List.zipWith stored types))) ∧
      SameBut find? table s.database s'.database := by
  subst alike
  have create : c.engine.execute (Plan.ofDocument table doc).create s.database = (.ok (), d) := by
    rw [Connection.execute_engine, create_ofDocument, created]
    rfl
  rw [load_apply, create]
  dsimp only
  by_cases none : doc.rows = []
  case pos =>
    have unused : (Plan.ofDocument table doc).insert.isEmpty = true :=
      List.isEmpty_iff.2 ((insertStatement_eq_nil_iff doc.rows).2 none)
    rw [if_pos unused, none, List.map_nil, List.append_nil]
    exact ⟨_, rfl, there, same⟩
  case neg =>
    have used : ¬ (Plan.ofDocument table doc).insert.isEmpty = true := fun empty =>
      none ((insertStatement_eq_nil_iff doc.rows).1 (List.isEmpty_iff.1 empty))
    have size : (viewOf doc.headers types rows).columns.length = doc.headers.length :=
      length_columns_viewOf typed
    have titles : (viewOf doc.headers types rows).names = doc.headers := names_viewOf typed
    obtain ⟨st, prepared, each⟩ := stores.insert fillable.named (fillable.columns typed).1
      (by rw [titles]; exact fillable.names) (by rw [titles]; exact fillable.distinct) there rfl
    obtain ⟨d', inserted, found, same'⟩ := Connection.insertEach_stores each there rfl rfl
      fun row member => (width row member).trans size.symm
    rw [titles] at prepared
    rw [types_viewOf typed] at found
    have insert : c.engine.insertRows (Plan.ofDocument table doc).insert
        (Plan.ofDocument table doc).document.rows d = (.ok doc.rows.length, d') := by
      have ran := Connection.insertRows_prepared prepared doc.rows
      rw [inserted] at ran
      rw [insert_ofDocument none, Connection.insertRows_engine, Plan.ofDocument, ran]
      rfl
    rw [if_neg used, insert]
    exact ⟨_, rfl, found, same.trans same'⟩

/-- An import into a table that is there, once it is created. -/
theorem importText_stores (stores : c.Stores find? stored reserved)
    (fillable : Fillable reserved table headers) (typed : types.length = headers.length)
    {t : Text} (read : parse t = .ok doc) (alike : doc.headers = headers) {d : σ}
    (created : c.executeBatch (createText table (headers.zip (ColumnType.inferAll doc)))
      s.database = (.ok (), d))
    (there : find? d table = some (viewOf headers types rows))
    (same : SameBut find? table s.database d) :
    ∃ s', importText c.engine table t s = (.ok ⟨table, headers.length, doc.rowCount⟩, s') ∧
      find? s'.database table =
        some (viewOf headers types (rows ++ doc.rows.map (List.zipWith stored types))) ∧
      SameBut find? table s.database s'.database := by
  obtain ⟨_, _, documentOf⟩ := exists_documentOf_parse read
  rw [importText_parse c.engine fillable.ne_nil read]
  exact load_stores stores fillable typed alike documentOf.width created there same

theorem typed_inferAll (alike : doc.headers = headers) :
    (ColumnType.inferAll doc).length = headers.length :=
  (length_inferAll doc).trans (congrArg List.length alike)

/-- An import into a table that is missing. -/
theorem importText_creates (stores : c.Stores find? stored reserved)
    (fillable : Fillable reserved table headers) (missing : find? s.database table = none)
    {t : Text} (read : parse t = .ok doc) (alike : doc.headers = headers) :
    ∃ s', importText c.engine table t s = (.ok ⟨table, headers.length, doc.rowCount⟩, s') ∧
      find? s'.database table = some (viewOf headers (ColumnType.inferAll doc)
        (doc.rows.map (List.zipWith stored (ColumnType.inferAll doc)))) ∧
      SameBut find? table s.database s'.database := by
  have typed := typed_inferAll alike
  obtain ⟨some, usable, distinct⟩ := fillable.columns typed
  obtain ⟨d, created, made, unchanged⟩ :=
    stores.create fillable.named some usable distinct missing
  exact importText_stores stores fillable typed read alike created made unchanged

/-- Imports with the same headers, one after another into a table that is there. -/
theorem performAll_stores (stores : c.Stores find? stored reserved)
    (fillable : Fillable reserved table headers) (typed : types.length = headers.length)
    {texts : List Text} {docs : List Document}
    (read : List.Forall₂ (fun t doc => parse t = .ok doc) texts docs)
    (alike : ∀ doc ∈ docs, doc.headers = headers)
    (there : find? s.database table = some (viewOf headers types rows)) :
    ∃ s', Request.performAll c.engine (texts.map (.importText table)) s =
        (docs.map fun doc => .ok (.summary ⟨table, headers.length, doc.rowCount⟩), s') ∧
      find? s'.database table = some (viewOf headers types
        (rows ++ (docs.flatMap Document.rows).map (List.zipWith stored types))) ∧
      SameBut find? table s.database s'.database := by
  induction read generalizing s rows with
  | nil =>
    refine ⟨s, rfl, ?_, .refl find? table _⟩
    rw [List.flatMap_nil, List.map_nil, List.append_nil, there]
  | cons here rest ih =>
    obtain ⟨first, others⟩ := List.forall_mem_cons.1 alike
    obtain ⟨some, usable, distinct⟩ := fillable.columns (typed_inferAll first)
    obtain ⟨d, created, kept⟩ := stores.again fillable.named some usable distinct there rfl
    have unchanged : SameBut find? table s.database d := fun other _ => congrFun kept other
    obtain ⟨s₁, ran, found, same⟩ := importText_stores stores fillable typed here first created
      ((congrFun kept table).trans there) unchanged
    obtain ⟨s₂, ran', found', same'⟩ := ih others found
    refine ⟨s₂, ?_, ?_, same.trans same'⟩
    · rw [List.map_cons, Request.performAll, perform_importText ran, ran']
      rfl
    · rw [found', List.flatMap_cons, List.map_append, List.append_assoc]

/-- Imports with the same headers, of which the first creates the table. -/
theorem performAll_creates (stores : c.Stores find? stored reserved)
    (fillable : Fillable reserved table headers) (missing : find? s.database table = none)
    {texts : List Text} {first : Document} {more : List Document}
    (read : List.Forall₂ (fun t doc => parse t = .ok doc) texts (first :: more))
    (alike : ∀ doc ∈ first :: more, doc.headers = headers) :
    ∃ s', Request.performAll c.engine (texts.map (.importText table)) s =
        ((first :: more).map fun doc => .ok (.summary ⟨table, headers.length, doc.rowCount⟩), s') ∧
      find? s'.database table = some (viewOf headers (ColumnType.inferAll first)
        (((first :: more).flatMap Document.rows).map
          (List.zipWith stored (ColumnType.inferAll first)))) ∧
      SameBut find? table s.database s'.database := by
  obtain ⟨same, others⟩ := List.forall_mem_cons.1 alike
  cases read with
  | cons here rest =>
    obtain ⟨s₁, ran, found, same₁⟩ := importText_creates stores fillable missing here same
    obtain ⟨s₂, ran', found', same₂⟩ :=
      performAll_stores stores fillable (typed_inferAll same) rest others found
    refine ⟨s₂, ?_, ?_, same₁.trans same₂⟩
    · rw [List.map_cons, Request.performAll, perform_importText ran, ran']
      rfl
    · rw [found', List.flatMap_cons, List.map_append]

/-- No number is written with no character. -/
theorem not_literal_nil : ¬ Numeral.Literal [] := by
  rw [← Numeral.isSome_parse?_iff]
  decide +kernel

/-- Imports of texts that have one and the same usable names for headers, into a table that is
missing before. All of them succeed, and the other tables stay as they are. The table is read back
under the headers with the rows of all texts in order, as many as the summaries say. What the first
text has made a text column returns its fields as they are, and every column returns an empty field
as empty text. -/
theorem performAll_imports (stores : c.Stores find? stored reserved) (keeps : KeepsText stored)
    (s : Session σ) (named : Usable reserved table)
    (names : ∀ header ∈ headers, Usable reserved header) (distinct : Distinct headers)
    (missing : find? s.database table = none) {texts : List Text} {first : Document}
    {more : List Document}
    (read : List.Forall₂ (fun t doc => parse t = .ok doc) texts (first :: more))
    (alike : ∀ doc ∈ first :: more, doc.headers = headers) :
    let types := ColumnType.inferAll first
    let fields := (first :: more).flatMap Document.rows
    let rows := fields.map (List.zipWith stored types)
    let final := Request.performAll c.engine (texts.map (.importText table)) s
    final.1 = (first :: more).map (fun doc =>
        .ok (.summary ⟨table, headers.length, doc.rowCount⟩)) ∧
      (∀ other, sameWord other table = false →
        find? final.2.database other = find? s.database other) ∧
      (run c.engine ("SELECT * FROM ".toList ++ table) final.2).1 = .ok [⟨headers, rows⟩] ∧
      rows.length = ((first :: more).map Document.rowCount).sum ∧
      ∀ (i j : Nat) (row : List Text) (field : Text), fields[i]? = some row → row[j]? = some field →
        ∃ value, rows[i]?.bind (·[j]?) = some value ∧
          (types[j]? = some .text → value = .text field) ∧ (field = [] → value = .text []) := by
  have documents : ∀ doc ∈ first :: more, ∃ first rest, DocumentOf first rest doc := by
    intro doc member
    obtain ⟨t, -, here⟩ := exists_of_mem_right read member
    exact exists_documentOf_parse here
  have width : ∀ doc ∈ first :: more, ∀ row ∈ doc.rows, row.length = headers.length := by
    intro doc member row listed
    obtain ⟨_, _, documentOf⟩ := documents doc member
    rw [documentOf.width row listed, alike doc member]
  have listing : headers ≠ [] := by
    obtain ⟨_, _, documentOf⟩ := documents first List.mem_cons_self
    obtain ⟨header, member, -⟩ := documentOf.named
    exact alike first List.mem_cons_self ▸ List.ne_nil_of_mem member
  have typed := typed_inferAll (alike first List.mem_cons_self)
  have fillable : Fillable reserved table headers := ⟨named, listing, names, distinct⟩
  obtain ⟨s', ran, found, same⟩ := performAll_creates stores fillable missing read alike
  intro types fields rows final
  have reached : final = _ := ran
  rw [reached]
  refine ⟨rfl, same, ?_, ?_, ?_⟩
  · have filled : ∀ row ∈ rows, row.length = (headers.zip types).length := by
      refine List.forall_mem_map.2 fun row member => ?_
      obtain ⟨doc, inside, listed⟩ := List.mem_flatMap.1 member
      rw [List.length_zipWith, List.length_zip, width doc inside row listed, Nat.min_comm]
    have selected := run_select stores.toReads named found rfl (fillable.columns typed).1 filled
    rw [names_viewOf typed] at selected
    exact selected
  · rw [List.length_map]
    exact List.length_flatMap
  · intro i j row field here inside
    obtain ⟨doc, member, listed⟩ := List.mem_flatMap.1 (List.mem_of_getElem? here)
    obtain ⟨type, type_here, value⟩ := getElem?_zipWith stored
      (typed.trans (width doc member row listed).symm) inside
    refine ⟨stored type field, ?_, ?_, ?_⟩
    · rw [List.getElem?_map, here]
      exact value
    · intro text
      obtain rfl := Option.some.inj (type_here.symm.trans text)
      exact keeps.text field
    · rintro rfl
      exact keeps.other type ⟨rfl, rfl⟩ not_literal_nil

/-- The words that stand out in an editor, as the names that are reserved. -/
def IsReserved (name : Text) : Prop := Sql.isReserved (upper name) = true

instance (name : Text) : Decidable (IsReserved name) :=
  inferInstanceAs (Decidable (Sql.isReserved (upper name) = true))

/-- A field that is no number stays text in a column of integers. -/
theorem performAll_imports_people :
    let texts := ["id,name\n1,Ann\n".toList, "id,name\nx,\n".toList]
    let final := Request.performAll Store.engine (texts.map (.importText "people".toList))
      (start Store.demo)
    (run Store.engine "SELECT * FROM people".toList final.2).1 = .ok [⟨["id".toList, "name".toList],
      [[.integer 1, .text "Ann".toList], [.text "x".toList, .text []]]⟩] := by
  have read : List.Forall₂ (fun t doc => parse t = .ok doc)
      ["id,name\n1,Ann\n".toList, "id,name\nx,\n".toList]
      [⟨["id".toList, "name".toList], [["1".toList, "Ann".toList]]⟩,
        ⟨["id".toList, "name".toList], [["x".toList, []]]⟩] := .cons rfl (.cons rfl .nil)
  have missing : Store.lookUp Store.demo "people".toList = none := by
    rw [Store.demo_eq]
    decide +kernel
  have types : ColumnType.inferAll ⟨["id".toList, "name".toList], [["1".toList, "Ann".toList]]⟩ =
      [.integer, .text] := by decide +kernel
  have rows : [["1".toList, "Ann".toList], ["x".toList, []]].map
      (List.zipWith Store.storedText [.integer, .text]) =
      [[.integer 1, .text "Ann".toList], [.text "x".toList, .text []]] := by decide +kernel
  have usable : Usable IsReserved "people".toList := by decide
  have names : ∀ header ∈ ["id".toList, "name".toList], Usable IsReserved header := by decide
  have distinct : Distinct ["id".toList, "name".toList] := by decide
  obtain ⟨-, -, selected, -⟩ := performAll_imports (Store.stores_connection IsReserved)
    Store.affinity_storedText.toKeepsText (start Store.demo) usable names distinct missing read
    (by decide)
  rw [types] at selected
  exact rows ▸ selected

end QueryDesk.Session
