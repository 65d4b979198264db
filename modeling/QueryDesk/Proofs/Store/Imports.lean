import QueryDesk.Proofs.Store.Affinity
import QueryDesk.Proofs.Store.Loading
import QueryDesk.Proofs.Store.Rows
import QueryDesk.Proofs.Text.Decoding

/-!
# Imports into a store

A store does what is assumed of a database that is imported into: it creates tables, fills them and
returns their rows (`reads_connection`, `stores_connection`), whatever names are reserved. A table is
looked up by a name that need not be quoted (`lookUp`).
-/

set_option autoImplicit false

namespace QueryDesk.Store

open Text Sql Csv Statement

def Table.view (t : Table) : TableView := ⟨t.columns.map fun c => (c.name, c.type), t.rows, true⟩

/-- The table that a name stands for. Other texts stand for none. -/
def lookUp (d : Database) (name : Text) : Option TableView :=
  if Name name then (d.find? name).map Table.view else none

variable {t : Table} {d d' : Database} {table : Text} {sql : Text} {body after : List Token}
  {p : Prepared}

theorem lookUp_name (named : Name table) (d : Database) :
    lookUp d table = (d.find? table).map Table.view := if_pos named

theorem lookUp_eq_none_iff (named : Name table) : lookUp d table = none ↔ d.find? table = none := by
  rw [lookUp_name named, Option.map_eq_none_iff]

theorem exists_of_lookUp {view : TableView} (found : lookUp d table = some view) :
    Name table ∧ ∃ t, d.find? table = some t ∧ t.view = view := by
  rw [lookUp] at found
  split at found
  case isTrue named => exact ⟨named, Option.map_eq_some_iff.1 found⟩
  case isFalse => cases found

/-- Where the same tables are found, they look the same. -/
theorem lookUp_congr {other : Text} (same : d'.find? other = d.find? other) :
    lookUp d' other = lookUp d other := by
  rw [lookUp, lookUp, same]

theorem names_view (t : Table) : t.view.names = t.columns.map Column.name := by
  simp [Table.view, TableView.names]

theorem types_view (t : Table) : t.view.types = t.columns.map Column.type := by
  simp [Table.view, TableView.types]

/-- A value comes back from the cell that it is handed out as. -/
theorem ofCell_cellOf (v : Value) : Value.ofCell (cellOf v) = v := by
  cases v with
  | text t =>
    have read : decodeEach (encode t) = t.map some := (decodeEach_eq_iff _ t).2 rfl
    change Value.text ((decodeEach (encode t)).map (·.getD '\uFFFD')) = _
    rw [read, List.map_map]
    exact congrArg Value.text (List.map_id t)
  | _ => rfl

/-- A batch of one statement that has no result. -/
theorem runBatch_silent {n : Nat} (begins : Begins [] body after (tokens sql))
    (last : after.tail = []) (prepared : prepareTokens d body = .ok p) (silent : p.columns = [])
    (ran : executePrepared p [] d = (.ok n, d')) : connection.runBatch sql d = (.ok [], d') := by
  have found : connection.next sql d = .ok (some (p, [])) := by
    change prepareNext sql d = _
    rw [begins.prepareNext_eq, prepared, last]
    rfl
  have one : connection.runOne p d = (.ok none, d') := by
    refine (Statements.runOne_silent silent d).trans ?_
    change ((executePrepared p [] d).1.map _, (executePrepared p [] d).2) = _
    rw [ran]
    rfl
  rw [Statements.runBatch_some found, one]
  dsimp only
  rw [Statements.runBatch_none (cutsAtSemicolons.nothing d')]
  rfl

/-- A batch whose first statement is refused. -/
theorem runBatch_refused {refusal : Refusal} (begins : Begins [] body after (tokens sql))
    (refused : prepareTokens d body = .error refusal) :
    connection.runBatch sql d = (.error (refusal.failure sql), d) := by
  refine Statements.runBatch_error ?_
  change prepareNext sql d = _
  rw [begins.prepareNext_eq, refused]
  rfl

theorem executePrepared_ok (texts : List Text) (count : texts.length = p.statement.parameters)
    (ran : runStatement d texts p.statement = .ok (d', [])) :
    executePrepared p texts d = (.ok p.statement.added, d') := by
  rw [executePrepared, if_pos count, ran]

variable {names : List Text} {items : List (List Token)} {types : List ColumnType}

theorem prepareTokens_create (named : Name table) (headings : List.Forall₂ Heading names items)
    (listing : names ≠ []) (typed : names.length = types.length) (d : Database) :
    prepareTokens d (createTokens table items types) =
      (createTable d table true (List.zipWith Column.mk names types)).map fun _ =>
        ⟨.createTable table true (List.zipWith Column.mk names types), []⟩ := by
  rw [prepareTokens, read?_create named headings listing typed]
  dsimp only
  rw [runStatement]
  cases createTable d table true (List.zipWith Column.mk names types) <;> rfl

/-- A creation, by the names that its headers are read as. -/
theorem executeBatch_create (named : Name table) (headings : List.Forall₂ Heading names items)
    (listing : names ≠ []) (typed : names.length = types.length) (d : Database) :
    connection.executeBatch (createText table ((items.map Token.concat).zip types)) d =
      match createTable d table true (List.zipWith Column.mk names types) with
      | .error refusal => (.error (refusal.failure (createText table
          ((items.map Token.concat).zip types))), d)
      | .ok d' => (.ok (), d') := by
  have begins := begins_create named headings types
  have prepared := prepareTokens_create named headings listing typed d
  change (((connection.runBatch _ d).1.map fun _ => ()), (connection.runBatch _ d).2) = _
  cases created : createTable d table true (List.zipWith Column.mk names types) with
  | error refusal =>
    rw [created] at prepared
    rw [runBatch_refused begins prepared]
    rfl
  | ok d' =>
    rw [created] at prepared
    have ran := executePrepared_ok
      (p := ⟨.createTable table true (List.zipWith Column.mk names types), []⟩) [] rfl
      (by rw [runStatement, created]; rfl)
    rw [runBatch_silent begins rfl prepared rfl ran]
    rfl

/-- An insertion of a row of parameters into the given columns. -/
def insertion (table : Text) (names : List Text) : Prepared :=
  ⟨.insert table (some names) [List.replicate names.length .parameter], []⟩

theorem prepareTokens_insert (named : Name table) (headings : List.Forall₂ Heading names items)
    (listing : names ≠ []) (found : d.find? table = some t)
    (columns : t.columns.map Column.name = names) :
    prepareTokens d (insertTokens table items) = .ok (insertion table names) := by
  subst columns
  have width : (bindRow (List.replicate (t.columns.map Column.name).length .parameter) []).length =
      t.columns.length := by
    rw [length_bindRow, List.length_replicate, List.length_map]
  have inserted := insertRows_fits found width
  rw [prepareTokens, read?_insert named headings listing]
  dsimp only
  rw [runStatement, bindRows, bindRows, inserted]
  rfl

/-- A prepared insertion puts a row of texts at the end of the table. -/
theorem execute_insertion {row : List Text} (found : d.find? table = some t)
    (distinct : Distinct (t.columns.map Column.name)) (width : row.length = t.columns.length) :
    executePrepared (insertion table (t.columns.map Column.name)) row d =
      (.ok 1, d.append table [kept t row]) := by
  have places : (t.columns.map Column.name).length = row.length := by rw [List.length_map, width]
  refine executePrepared_ok row ?_ ?_
  · simp [insertion, Statement.parameters, parameterCount, List.countP_replicate, width]
  · rw [insertion, runStatement, bindRows, bindRows, places, bindRow_replicate,
      insertRows_texts found distinct width]
    rfl

theorem kept_eq (t : Table) (row : List Text) :
    kept t row = List.zipWith storedText t.view.types row := by
  rw [types_view, List.zipWith_map_left]
  rfl

theorem lookUp_add (named : Name table) (missing : d.find? table = none)
    (columns : List (Text × ColumnType)) :
    lookUp (d.add ⟨table, columns.map fun c => ⟨c.1, c.2⟩, []⟩) table =
      some ⟨columns, [], true⟩ := by
  have view : (Table.mk table (columns.map fun c => ⟨c.1, c.2⟩) []).view =
      ⟨columns, [], true⟩ := by
    simp [Table.view, Function.comp_def]
  rw [lookUp_name named, find?_add missing, Option.map_some, view]

theorem lookUp_append {view : TableView} (found : lookUp d table = some view)
    (rows : List (List Value)) : lookUp (d.append table rows) table = some (view.add rows) := by
  obtain ⟨named, t, there, rfl⟩ := exists_of_lookUp found
  rw [lookUp_name named, find?_append_same there]
  rfl

theorem sameBut_add (table : Text) (columns : List Column) (d : Database) :
    SameBut lookUp table d (d.add ⟨table, columns, []⟩) :=
  fun _ apart => lookUp_congr (find?_add_other apart columns)

theorem sameBut_append (table : Text) (rows : List (List Value)) (d : Database) :
    SameBut lookUp table d (d.append table rows) :=
  fun _ apart => lookUp_congr (find?_append_other apart rows)

/-- A cursor over rows that are there yields them as they are. -/
theorem yields_rows (rows : List (List Value)) (d : Database) : RowCursor.Yields
    (rows.foldr (fun row more => .row (row.map cellOf) d more) (.done d)) rows d := by
  induction rows with
  | nil => exact .done
  | cons row rows ih =>
    have values : (row.map cellOf).map Value.ofCell = row := by
      rw [List.map_map]
      exact (List.map_congr_left fun v _ => ofCell_cellOf v).trans (List.map_id row)
    conv => arg 2; rw [← values]
    exact .row ih

/-- A store returns the rows of every table that can be named without quotes. -/
theorem reads_connection (Readable : Text → Prop) : connection.Reads lookUp Readable where
  select {d table view} _ found _ _ _ := by
    obtain ⟨named, t, there, rfl⟩ := exists_of_lookUp found
    have begins := begins_select named
    have selected : selectAll d table none = .ok ⟨t.columns.map Column.name, t.rows⟩ := by
      rw [selectAll, there]
    have prepared : prepareTokens d (selectTokens table) =
        .ok ⟨.selectAll table none, t.columns.map Column.name⟩ := by
      rw [prepareTokens, read?_select named]
      dsimp only
      rw [runStatement, selected]
      rfl
    refine ⟨⟨.selectAll table none, t.columns.map Column.name⟩, [], d, ?_, ?_, ?_, ?_⟩
    · change prepareNext _ d = _
      rw [begins.prepareNext_eq, prepared]
      rfl
    · exact (names_view t).symm
    · change (queryPrepared _ d).Yields t.rows d
      rw [queryPrepared, runStatement, selected]
      dsimp only [Except.map]
      rw [List.flatMap_singleton]
      exact yields_rows t.rows d
    · exact cutsAtSemicolons.nothing d

/-- The headers of which a store makes names are names themselves. -/
theorem forall_heading {headers : List Text} (names : ∀ header ∈ headers, Name header) :
    List.Forall₂ Heading headers (headers.map fun header => [nameToken header]) :=
  List.forall₂_map_right_iff.2 (List.forall₂_same.2 fun header member =>
    ⟨names header member, [], [], rfl, List.forall_mem_nil _, List.forall_mem_nil _⟩)

theorem map_concat_nameToken (headers : List Text) :
    (headers.map fun header => [nameToken header]).map Token.concat = headers := by
  rw [List.map_map]
  conv => rhs; rw [← List.map_id headers]
  exact List.map_congr_left fun header _ => List.append_nil header

/-- A name that need not be quoted is one that a store reads, whatever names are reserved. -/
theorem name_of_usable {reserved : Text → Prop} {name : Text} (usable : Usable reserved name) :
    Name name := by
  obtain ⟨c, cs, rfl, digit⟩ := usable.begins
  refine ⟨fun x member => ?_, c, cs, rfl, ?_, digit, ?_⟩
  · rcases usable.chars x member with letter | rfl
    · exact isNameChar_of_isAlphanumeric letter
    · decide
  · rcases usable.chars c List.mem_cons_self with letter | rfl
    · exact not_isBlank_of_isAlphanumeric letter
    · decide
  · rintro rfl
    rcases usable.chars '$' List.mem_cons_self with letter | same
    · exact absurd letter (by decide +kernel)
    · exact absurd same (by decide)

theorem executeBatch_names {columns : List (Text × ColumnType)} (named : Name table)
    (some : columns ≠ []) (names : ∀ column ∈ columns, Name column.1) (d : Database) :
    connection.executeBatch (createText table columns) d =
      match createTable d table true (columns.map fun c => ⟨c.1, c.2⟩) with
      | .error refusal => (.error (refusal.failure (createText table columns)), d)
      | .ok d' => (.ok (), d') := by
  have zipped : (columns.map Prod.fst).zip (columns.map Prod.snd) = columns := by
    rw [List.zip_map', List.map_id']
  have made : List.zipWith Column.mk (columns.map Prod.fst) (columns.map Prod.snd) =
      columns.map fun c => ⟨c.1, c.2⟩ := by
    rw [List.zipWith_map, List.zipWith_self]
  have typed : (columns.map Prod.fst).length = (columns.map Prod.snd).length := by simp
  have created := executeBatch_create named (forall_heading (List.forall_mem_map.2 names))
    (by simpa using some) typed d
  rwa [map_concat_nameToken, zipped, made] at created

/-- A store does what is assumed of a database, whatever names are reserved. -/
theorem stores_connection (reserved : Text → Prop) :
    connection.Stores lookUp storedText reserved where
  toReads := reads_connection _
  create {d table columns} usable some names distinct missing := by
    have named := name_of_usable usable
    rw [lookUp_eq_none_iff named] at missing
    have apart : Distinct ((columns.map fun c => Column.mk c.1 c.2).map Column.name) := by
      rw [List.map_map]
      exact distinct
    have created := createTable_new missing apart
    refine ⟨_, ?_, lookUp_add named missing columns, sameBut_add table _ d⟩
    rw [executeBatch_names named some (fun c member => name_of_usable (names c member)), created]
  again {d table columns view} usable some names _ found _ := by
    obtain ⟨named, t, there, -⟩ := exists_of_lookUp found
    refine ⟨d, ?_, rfl⟩
    rw [executeBatch_names named some (fun c member => name_of_usable (names c member)),
      createTable_again there]
  insert {d table view} usable some names distinct found _ := by
    obtain ⟨named, t, there, rfl⟩ := exists_of_lookUp found
    rw [names_view] at names distinct
    have listing : t.columns.map Column.name ≠ [] := by
      simpa [Table.view] using some
    have headings := forall_heading fun header member => name_of_usable (names header member)
    have begins := begins_insert named headings
    rw [map_concat_nameToken] at begins
    refine ⟨insertion table (t.columns.map Column.name), ?_, ?_⟩
    · change prepareFirst _ d = _
      rw [names_view, begins.prepareFirst_eq, prepareTokens_insert named headings listing there rfl]
      rfl
    · intro d₁ view₁ row found₁ alike _ width
      obtain ⟨-, t₁, there₁, rfl⟩ := exists_of_lookUp found₁
      have names₁ : t₁.columns.map Column.name = t.columns.map Column.name := by
        rw [← names_view, ← names_view, TableView.names, alike, TableView.names]
      have types₁ : t₁.view.types = t.view.types := by
        rw [TableView.types, alike, TableView.types]
      have width₁ : row.length = t₁.columns.length := by
        rw [width, ← alike]
        exact List.length_map _
      have ran := execute_insertion there₁ (names₁.symm ▸ distinct) width₁
      rw [names₁] at ran
      refine ⟨_, ran, ?_, sameBut_append table _ d₁⟩
      rw [lookUp_append found₁, kept_eq, types₁]

end QueryDesk.Store
