import QueryDesk.Proofs.Csv.Statements
import QueryDesk.Proofs.Number.Grammar
import QueryDesk.Proofs.Session.Imports
import QueryDesk.Engine.Connection
import QueryDesk.Text.Alphanumeric

/-!
# Tables behind a connection

What a database is assumed to do with the statements of an import and with the selection of a whole
table. Nothing is assumed of how it does so: `find?` looks up in a state what a name stands for, and
`stored` is what a column of a type makes of a text. Of tables with constraints or triggers and of
what else can have a name nothing is assumed but that the name is taken.

* `Reads`: a selection returns the rows of a table in the order in which they were inserted.
* `Stores`: a missing table is created, one that is there is left as it is, and an insertion puts a
  row at the end.
* `Declares`: as much for headers that need not be names, so long as the database takes them.
* `KeepsText` and `Affinity`: which texts stay text, and which become numbers.
-/

set_option autoImplicit false

namespace QueryDesk

open Text Csv

/-- A table as it looks from outside. Its oldest row comes first. -/
structure TableView where
  columns : List (Text × ColumnType)
  rows : List (List Value)
  /-- Whether that is all there is to it, with no constraint, no trigger and no order of its own. -/
  plain : Bool
  deriving DecidableEq, Repr

def TableView.names (t : TableView) : List Text := t.columns.map Prod.fst

def TableView.types (t : TableView) : List ColumnType := t.columns.map Prod.snd

/-- The table with more rows. -/
def TableView.add (t : TableView) (rows : List (List Value)) : TableView :=
  ⟨t.columns, t.rows ++ rows, t.plain⟩

@[simp] theorem TableView.add_nil (t : TableView) : t.add [] = t :=
  congrArg (mk t.columns · t.plain) (List.append_nil t.rows)

theorem TableView.add_add (t : TableView) (rows more : List (List Value)) :
    (t.add rows).add more = t.add (rows ++ more) :=
  congrArg (mk t.columns · t.plain) (List.append_assoc t.rows rows more)

/-- Names of which no two are the same up to case. -/
def Distinct (names : List Text) : Prop := names.Pairwise fun a b => sameWord a b = false

instance (names : List Text) : Decidable (Distinct names) :=
  inferInstanceAs (Decidable (names.Pairwise fun a b => sameWord a b = false))

/-- A name that need not be quoted: of letters, digits and underscores, without a digit in front,
and no reserved word. -/
structure Usable (reserved : Text → Prop) (name : Text) : Prop where
  chars : ∀ c ∈ name, isAlphanumeric c = true ∨ c = '_'
  begins : ∃ c cs, name = c :: cs ∧ c.isDigit = false
  free : ¬ reserved name

theorem usable_iff (reserved : Text → Prop) (name : Text) : Usable reserved name ↔
    name.all (fun c => isAlphanumeric c || c == '_') = true ∧
      name.head?.any (fun c => !c.isDigit) = true ∧ ¬ reserved name := by
  constructor
  · rintro ⟨chars, ⟨c, cs, rfl, begins⟩, free⟩
    exact ⟨List.all_eq_true.2 fun x member => by simpa using chars x member, by simp [begins], free⟩
  · rintro ⟨chars, begins, free⟩
    cases name with
    | nil => cases begins
    | cons c cs =>
      exact ⟨fun x member => by simpa using List.all_eq_true.1 chars x member,
        ⟨c, cs, rfl, by simpa using begins⟩, free⟩

instance (reserved : Text → Prop) (name : Text) [Decidable (reserved name)] :
    Decidable (Usable reserved name) :=
  decidable_of_iff _ (usable_iff reserved name).symm

/-- A creation of a table, unless it is there. -/
def createText (table : Text) (columns : List (Text × ColumnType)) : Text :=
  "CREATE TABLE IF NOT EXISTS ".toList ++ table ++ " (".toList ++
    join [',', ' '] (columns.map fun column => column.1 ++ ' ' :: column.2.sqlName) ++ ");".toList

/-- An insertion of one row, with a parameter for each column. -/
def insertText (table : Text) (names : List Text) : Text :=
  "INSERT INTO ".toList ++ table ++ " (".toList ++ join [',', ' '] names ++
    ") VALUES (".toList ++ join [',', ' '] (names.map fun _ => ['?']) ++ ");".toList

def selectText (table : Text) : Text := "SELECT * FROM ".toList ++ table

theorem createStatement_eq_createText (table : Text) (headers : List Text)
    (types : List ColumnType) :
    createStatement table headers types = createText table (headers.zip types) := by
  have columns : (headers.zip types).map (fun column => column.1 ++ ' ' :: column.2.sqlName) =
      List.zipWith (fun header type => header ++ ' ' :: ColumnType.sqlName type) headers types :=
    List.map_zip_eq_zipWith
  unfold createStatement createText
  rw [columns]

theorem insertStatement_eq_insertText (table : Text) (headers : List Text) {rows : List (List Text)}
    (full : rows ≠ []) : insertStatement table headers rows = insertText table headers :=
  if_neg (by simp [full])

variable {σ : Type}

/-- The cursor hands out the rows one after another and leaves the last state behind. -/
inductive RowCursor.Yields : RowCursor σ → List (List Value) → σ → Prop
  | done {s : σ} : Yields (.done s) [] s
  | row {cells : List Cell} {s s' : σ} {more : RowCursor σ} {rows : List (List Value)} :
      Yields more rows s' → Yields (.row cells s more) (cells.map Value.ofCell :: rows) s'

theorem mapM_ok {α β ε : Type} {f : α → Except ε β} {g : α → β} {xs : List α}
    (each : ∀ x ∈ xs, f x = .ok (g x)) : xs.mapM f = .ok (xs.map g) := by
  induction xs with
  | nil => rfl
  | cons x xs ih =>
    obtain ⟨here, rest⟩ := List.forall_mem_cons.1 each
    rw [List.mapM_cons, here, ih rest]
    rfl

/-- A row has a value for each of its cells. -/
theorem RowCursor.values_eq (cells : List Cell) :
    values cells.length cells = .ok (cells.map Value.ofCell) := by
  refine (mapM_ok (g := fun i => (cells[i]?.map Value.ofCell).getD .null)
    fun i inside => ?_).trans (congrArg Except.ok (List.ext_getElem (by simp) fun i _ inside => ?_))
  · rw [List.getElem?_eq_getElem (List.mem_range.1 inside)]
    rfl
  · rw [List.length_map] at inside
    simp [inside]

/-- Rows that fill the columns are collected as they come. -/
theorem RowCursor.Yields.collect {cursor : RowCursor σ} {rows : List (List Value)} {s' : σ}
    (yields : cursor.Yields rows s') {width : Nat} (filled : ∀ row ∈ rows, row.length = width) :
    cursor.collect width = (.ok rows, s') := by
  induction yields with
  | done => rfl
  | row _ ih =>
    obtain ⟨here, rest⟩ := List.forall_mem_cons.1 filled
    rw [List.length_map] at here
    rw [RowCursor.collect, ← here, values_eq]
    dsimp only
    rw [here, ih rest]
    rfl

/-- Every table but one is in both states the same. -/
def SameBut (find? : σ → Text → Option TableView) (table : Text) (s s' : σ) : Prop :=
  ∀ other, sameWord other table = false → find? s' other = find? s other

theorem SameBut.refl (find? : σ → Text → Option TableView) (table : Text) (s : σ) :
    SameBut find? table s s := fun _ _ => rfl

theorem SameBut.trans {find? : σ → Text → Option TableView} {table : Text} {s s₁ s₂ : σ}
    (first : SameBut find? table s s₁) (second : SameBut find? table s₁ s₂) :
    SameBut find? table s s₂ :=
  fun other apart => (second other apart).trans (first other apart)

/-- Columns of text keep a text, and other columns keep one that is not written as a number. -/
structure KeepsText (stored : ColumnType → Text → Value) : Prop where
  text (t : Text) : stored .text t = .text t
  other (type : ColumnType) {t : Text} : Trimmed t → ¬ Numeral.Literal t → stored type t = .text t

def IsNumber (v : Value) : Prop := (∃ i, v = .integer i) ∨ ∃ x, v = .real x

/-- A text in a column of numbers becomes a number just if it is written as an ordinary decimal
number. -/
structure Affinity (stored : ColumnType → Text → Value) : Prop extends KeepsText stored where
  number {type : ColumnType} {t : Text} : type ≠ .text → Trimmed t → Numeral.Literal t →
    IsNumber (stored type t)

theorem getElem?_zipWith (stored : ColumnType → Text → Value) {types : List ColumnType}
    {row : List Text} (typed : types.length = row.length) {j : Nat} {field : Text}
    (here : row[j]? = some field) : ∃ type, types[j]? = some type ∧
      (List.zipWith stored types row)[j]? = some (stored type field) := by
  obtain ⟨inside, rfl⟩ := List.getElem?_eq_some_iff.1 here
  have inside' : j < types.length := typed ▸ inside
  refine ⟨types[j], List.getElem?_eq_getElem inside', ?_⟩
  rw [List.getElem?_zipWith, List.getElem?_eq_getElem inside', here]

namespace Connection

/-- The selection of a whole table returns its rows, oldest first, and is all there is in its
text. -/
structure Reads (c : Connection σ) (find? : σ → Text → Option TableView)
    (Readable : Text → Prop) : Prop where
  select {s : σ} {table : Text} {t : TableView} : Readable table → find? s table = some t →
    t.plain = true → t.columns ≠ [] → (∀ row ∈ t.rows, row.length = t.columns.length) →
    ∃ st rest s', c.next (selectText table) s = .ok (some (st, rest)) ∧ c.columns st = t.names ∧
      (c.query st s).Yields t.rows s' ∧ c.next rest s' = .ok none

/-- What becomes of tables and columns with usable names. -/
structure Stores (c : Connection σ) (find? : σ → Text → Option TableView)
    (stored : ColumnType → Text → Value) (reserved : Text → Prop) : Prop
    extends c.Reads find? (Usable reserved) where
  /-- A missing table is created. -/
  create {s : σ} {table : Text} {columns : List (Text × ColumnType)} : Usable reserved table →
    columns ≠ [] → (∀ column ∈ columns, Usable reserved column.1) →
    Distinct (columns.map Prod.fst) → find? s table = none →
    ∃ s', c.executeBatch (createText table columns) s = (.ok (), s') ∧
      find? s' table = some ⟨columns, [], true⟩ ∧ SameBut find? table s s'
  /-- One that is there is left as it is. -/
  again {s : σ} {table : Text} {columns : List (Text × ColumnType)} {t : TableView} :
    Usable reserved table → columns ≠ [] → (∀ column ∈ columns, Usable reserved column.1) →
    Distinct (columns.map Prod.fst) → find? s table = some t → t.plain = true →
    ∃ s', c.executeBatch (createText table columns) s = (.ok (), s') ∧ find? s' = find? s
  /-- An insertion into all columns is prepared once and may then be run with one row after another.
  It puts each at the end, with every text in the column that is named in its place. -/
  insert {s : σ} {table : Text} {t : TableView} : Usable reserved table → t.columns ≠ [] →
    (∀ name ∈ t.names, Usable reserved name) → Distinct t.names → find? s table = some t →
    t.plain = true → ∃ st, c.prepare (insertText table t.names) s = .ok st ∧
      ∀ (s₁ : σ) (t₁ : TableView) (row : List Text), find? s₁ table = some t₁ →
        t₁.columns = t.columns → t₁.plain = true → row.length = t.columns.length →
        ∃ s₂, c.execute st row s₁ = (.ok 1, s₂) ∧
          find? s₂ table = some (t₁.add [List.zipWith stored t.types row]) ∧
          SameBut find? table s₁ s₂

/-- An insertion that has been prepared for a table which a creation with the same headers has just
made. A header may be anything that the header of a document can be. -/
structure Prepares (c : Connection σ) (find? : σ → Text → Option TableView) (table : Text)
    (headers : List Text) (types : List ColumnType) (s : σ) (st : c.Statement) : Prop where
  listing : headers ≠ []
  typed : types.length = headers.length
  bare : ∀ header ∈ headers, ∀ x ∈ header, isBlank x = false ∧ x ≠ ',' ∧ x ≠ '"' ∧ x ≠ '\''
  created : ∃ before, find? before table = none ∧
    c.executeBatch (createText table (headers.zip types)) before = (.ok (), s)
  prepared : c.prepare (insertText table headers) s = .ok st

/-- What becomes of a table that is imported into for the first time. Here `find?` takes what a
statement has for the table, as it is written. -/
structure Declares (c : Connection σ) (find? : σ → Text → Option TableView)
    (stored : ColumnType → Text → Value) : Prop extends c.Reads find? (fun _ => True) where
  /-- It has a column for each header, of the type that is declared, no rows and nothing else. -/
  columns {table : Text} {headers : List Text} {types : List ColumnType} {s : σ} {st : c.Statement}
    {t : TableView} : c.Prepares find? table headers types s st → find? s table = some t →
    t.types = types ∧ t.rows = [] ∧ t.plain = true
  /-- An insertion puts a row at the end, with every text in the column in its place. -/
  fills {table : Text} {headers : List Text} {types : List ColumnType} {s s₁ s₂ : σ}
    {st : c.Statement} {t t₁ : TableView} {row : List Text} {n : Nat} :
    c.Prepares find? table headers types s st → find? s table = some t →
    find? s₁ table = some t₁ → t₁.columns = t.columns → t₁.plain = true →
    row.length = headers.length → c.execute st row s₁ = (.ok n, s₂) →
    find? s₂ table = some (t₁.add [List.zipWith stored types row])
  /-- It creates no table. -/
  creates {table : Text} {headers : List Text} {types : List ColumnType} {s s₁ s₂ : σ}
    {st : c.Statement} {row : List Text} {n : Nat} : c.Prepares find? table headers types s st →
    find? s₁ table = none → c.execute st row s₁ = (.ok n, s₂) → find? s₂ table = none

variable {c : Connection σ} {find? : σ → Text → Option TableView}
  {stored : ColumnType → Text → Value} {reserved : Text → Prop} {table : Text}
  {headers : List Text} {types : List ColumnType} {s s₁ s₂ : σ} {st : c.Statement}
  {t t₁ : TableView} {rows : List (List Text)} {n : Nat}

theorem execute_engine (c : Connection σ) (sql : Text) (s : σ) : c.engine.execute sql s =
    ((c.executeBatch sql s).1.mapError Failure.toError, (c.executeBatch sql s).2) := rfl

theorem insertRows_engine (c : Connection σ) (template : Text) (rows : List (List Text)) (s : σ) :
    c.engine.insertRows template rows s =
      ((c.insertRows template rows s).1.mapError Failure.toError,
        (c.insertRows template rows s).2) := rfl

theorem insertRows_prepared {template : Text} (prepared : c.prepare template s = .ok st)
    (rows : List (List Text)) : c.insertRows template rows s =
      ((c.insertEach st rows s).1.mapError .ofReason, (c.insertEach st rows s).2) := by
  rw [insertRows, prepared]

theorem executeBatch_of_execute {sql : Text} {s' : σ}
    (ran : c.engine.execute sql s = (.ok (), s')) : c.executeBatch sql s = (.ok (), s') := by
  rw [execute_engine] at ran
  rcases batch : c.executeBatch sql s with ⟨failure | _, s₁⟩
  · rw [batch] at ran
    cases ran
  · rw [batch] at ran
    cases ran
    rfl

/-- An insertion of rows that succeeds has been prepared. -/
theorem exists_of_insertRows {template : Text} {s' : σ}
    (ran : c.engine.insertRows template rows s = (.ok n, s')) :
    ∃ st, c.prepare template s = .ok st ∧ c.insertEach st rows s = (.ok n, s') := by
  rw [insertRows_engine] at ran
  cases prepared : c.prepare template s with
  | error failure =>
    rw [insertRows, prepared] at ran
    cases ran
  | ok st =>
    rw [insertRows_prepared prepared] at ran
    rcases inserted : c.insertEach st rows s with ⟨reason | m, s₁⟩
    · rw [inserted] at ran
      cases ran
    · rw [inserted] at ran
      cases ran
      exact ⟨st, rfl, inserted⟩

/-- Where each row that is inserted comes to stand at the end, so do any number of them. -/
theorem insertEach_stores
    (each : ∀ (s₁ : σ) (t₁ : TableView) (row : List Text), find? s₁ table = some t₁ →
      t₁.columns = t.columns → t₁.plain = true → row.length = t.columns.length →
      ∃ s₂, c.execute st row s₁ = (.ok 1, s₂) ∧
        find? s₂ table = some (t₁.add [List.zipWith stored t.types row]) ∧
        SameBut find? table s₁ s₂)
    (there : find? s₁ table = some t₁) (alike : t₁.columns = t.columns) (plain : t₁.plain = true)
    (width : ∀ row ∈ rows, row.length = t.columns.length) :
    ∃ s₂, c.insertEach st rows s₁ = (.ok rows.length, s₂) ∧
      find? s₂ table = some (t₁.add (rows.map (List.zipWith stored t.types))) ∧
      SameBut find? table s₁ s₂ := by
  induction rows generalizing s₁ t₁ with
  | nil => exact ⟨s₁, rfl, by rw [List.map_nil, TableView.add_nil, there], .refl find? table s₁⟩
  | cons row rows ih =>
    obtain ⟨here, rest⟩ := List.forall_mem_cons.1 width
    obtain ⟨s₂, ran, found, same⟩ := each s₁ t₁ row there alike plain here
    obtain ⟨s₃, ran', found', same'⟩ := ih found alike plain rest
    refine ⟨s₃, ?_, ?_, same.trans same'⟩
    · rw [Statements.insertEach, ran]
      dsimp only
      rw [ran', List.length_cons, Nat.add_comm]
      rfl
    · rw [found', TableView.add_add]
      rfl

/-- The first step of insertions that succeed, and the others. -/
theorem exists_of_insertEach {row : List Text}
    (ran : c.insertEach st (row :: rows) s₁ = (.ok n, s₂)) :
    ∃ m k s', c.execute st row s₁ = (.ok m, s') ∧ c.insertEach st rows s' = (.ok k, s₂) := by
  rw [Statements.insertEach] at ran
  rcases here : c.execute st row s₁ with ⟨reason | m, s'⟩
  · rw [here] at ran
    cases ran
  · rw [here] at ran
    dsimp only at ran
    rcases rest : c.insertEach st rows s' with ⟨reason | k, s''⟩
    · rw [rest] at ran
      cases ran
    · rw [rest] at ran
      cases ran
      exact ⟨m, k, s', rfl, rest⟩

namespace Declares

theorem insertEach (declares : c.Declares find? stored)
    (prepares : c.Prepares find? table headers types s st) (made : find? s table = some t)
    (there : find? s₁ table = some t₁) (alike : t₁.columns = t.columns) (plain : t₁.plain = true)
    (width : ∀ row ∈ rows, row.length = headers.length)
    (ran : c.insertEach st rows s₁ = (.ok n, s₂)) :
    find? s₂ table = some (t₁.add (rows.map (List.zipWith stored types))) := by
  induction rows generalizing s₁ t₁ n with
  | nil =>
    cases ran
    rw [List.map_nil, TableView.add_nil, there]
  | cons row rows ih =>
    obtain ⟨here, rest⟩ := List.forall_mem_cons.1 width
    obtain ⟨m, k, s', ran, more⟩ := exists_of_insertEach ran
    have found := declares.fills prepares made there alike plain here ran
    rw [ih found alike plain rest more, TableView.add_add]
    rfl

theorem insertEach_missing (declares : c.Declares find? stored)
    (prepares : c.Prepares find? table headers types s st) (missing : find? s₁ table = none)
    (ran : c.insertEach st rows s₁ = (.ok n, s₂)) : find? s₂ table = none := by
  induction rows generalizing s₁ n with
  | nil =>
    cases ran
    exact missing
  | cons row rows ih =>
    obtain ⟨m, k, s', ran, more⟩ := exists_of_insertEach ran
    exact ih (declares.creates prepares missing ran) more

end Declares

end Connection

end QueryDesk
