import QueryDesk.Proofs.Engine.Tables
import QueryDesk.Proofs.Store.Batches
import QueryDesk.Proofs.Store.Reading

/-!
# The statements of an import as a store reads them

A header is read as a name if it is one, with closed comments around it at most (`Heading`). If all
headers are, the statements of an import are read as the creation of the table with a typed column
for each of them (`begins_create`, `read?_create`) and as the insertion of one row of parameters into
these columns (`begins_insert`, `read?_insert`).
-/

set_option autoImplicit false

namespace QueryDesk.Store.Statement

open Text Sql Csv

/-- Closed comments. -/
def Remarks (ts : List Token) : Prop :=
  ∀ t ∈ ts, ∃ body, ¬ ['*', '/'] <:+: body ++ ['*'] ∧ t = remark body

/-- The tokens of a header that is read as the given name. -/
structure Heading (name : Text) (ts : List Token) : Prop where
  named : Name name
  shape : ∃ front back, ts = front ++ nameToken name :: back ∧ Remarks front ∧ Remarks back

variable {name : Text} {ts : List Token}

theorem Remarks.idle (remarks : Remarks ts) : ∀ t ∈ ts, t.isSignificant = false := by
  intro t member
  obtain ⟨body, -, rfl⟩ := remarks t member
  rfl

theorem Remarks.regular (remarks : Remarks ts) (after : Text) : Regular ts after := by
  induction ts with
  | nil => trivial
  | cons t ts ih =>
    obtain ⟨⟨body, first, rfl⟩, rest⟩ := List.forall_mem_cons.1 remarks
    exact regular_remark first (ih rest)

theorem Remarks.stops (remarks : Remarks ts) {after : Text} (stops : Stops after) :
    Stops (Token.concat ts ++ after) := by
  cases ts with
  | nil => exact stops
  | cons t ts =>
    obtain ⟨⟨body, first, rfl⟩, -⟩ := List.forall_mem_cons.1 remarks
    rintro c ⟨⟩
    decide

namespace Heading

theorem regular (heading : Heading name ts) {after : Text} (stops : Stops after) :
    Regular ts after := by
  obtain ⟨named, front, back, rfl, remarks, remarks'⟩ := heading
  exact regular_append.2 ⟨remarks.regular _, .name named, fun _ => remarks'.stops stops,
    remarks'.regular after⟩

/-- What is left of a header without the comments around it. -/
theorem trim (heading : Heading name ts) : trimTokens ts = [nameToken name] := by
  obtain ⟨named, front, back, rfl, remarks, remarks'⟩ := heading
  refine trimTokens_append [nameToken name] remarks.idle remarks'.idle ?_ ?_ (by simp)
  · rintro u ⟨⟩
    exact isSignificant_nameToken named
  · rintro u ⟨⟩
    exact isSignificant_nameToken named

theorem columnName? (heading : Heading name ts) : columnName? (trimTokens ts) = some name := by
  rw [heading.trim]
  exact name?_nameToken heading.named

/-- A header with a type behind it is a column. -/
theorem column? (heading : Heading name ts) (type : ColumnType) :
    column? (trimTokens (ts ++ [space, nameToken type.sqlName])) = some ⟨name, type⟩ := by
  obtain ⟨named, front, back, rfl, remarks, remarks'⟩ := heading
  have last : (nameToken name :: (back ++ [space, nameToken type.sqlName])).getLast? =
      some (nameToken type.sqlName) := by
    rw [← List.cons_append, List.getLast?_append]
    rfl
  have trimmed : trimTokens (front ++ ((nameToken name ::
      (back ++ [space, nameToken type.sqlName])) ++ [])) =
      nameToken name :: (back ++ [space, nameToken type.sqlName]) := by
    refine trimTokens_append _ remarks.idle (by simp) ?_ ?_ (List.cons_ne_nil _ _)
    · rintro u ⟨⟩
      exact isSignificant_nameToken named
    · rw [last]
      rintro u ⟨⟩
      exact isSignificant_nameToken (name_sqlName type)
  rw [List.append_nil] at trimmed
  rw [List.append_assoc, List.cons_append, trimmed]
  exact column?_typed named remarks'.idle type

theorem bare (heading : Heading name ts) : ∀ t ∈ ts,
    isMark ',' t = false ∧ isMark ')' t = false ∧ t.isSemicolon = false := by
  obtain ⟨named, front, back, rfl, remarks, remarks'⟩ := heading
  have remark {us : List Token} (remarks : Remarks us) : ∀ t ∈ us,
      isMark ',' t = false ∧ isMark ')' t = false ∧ t.isSemicolon = false := by
    intro t member
    obtain ⟨body, -, rfl⟩ := remarks t member
    exact ⟨rfl, rfl, rfl⟩
  exact List.forall_mem_append.2 ⟨remark remarks, List.forall_mem_cons.2
    ⟨⟨isMark_nameToken _ _, isMark_nameToken _ _, isSemicolon_nameToken _⟩, remark remarks'⟩⟩

end Heading

variable {names : List Text} {items : List (List Token)} {types : List ColumnType}

theorem concat_intercalate (separator : List Token) (items : List (List Token)) :
    Token.concat (separator.intercalate items) =
      join (Token.concat separator) (items.map Token.concat) := by
  cases items with
  | nil => rfl
  | cons item more =>
    have others : Token.concat (more.flatMap (separator ++ ·)) =
        more.flatMap fun piece => Token.concat separator ++ Token.concat piece := by
      rw [Token.concat, List.flatMap_assoc]
      exact List.flatMap_congr fun piece _ => Token.concat_append separator piece
    rw [intercalate_cons, Token.concat_append, others, List.map_cons, join, intercalate_cons,
      List.flatMap_map]

theorem concat_listed (items : List (List Token)) :
    Token.concat (listed items) = join [',', ' '] (items.map Token.concat) :=
  concat_intercalate [mark ',', space] items

theorem regular_listed {after : Text} (stops : Stops after)
    (each : ∀ item ∈ items, ∀ behind, Stops behind → Regular item behind) :
    Regular (listed items) after := by
  induction items with
  | nil => trivial
  | cons item more ih =>
    obtain ⟨here, rest⟩ := List.forall_mem_cons.1 each
    cases more with
    | nil =>
      rw [listed, List.intercalate_singleton]
      exact here after stops
    | cons second more =>
      rw [listed_cons]
      exact regular_append.2 ⟨here _ (stops_cons (by decide) _),
        regular_mark (by decide) (by decide) (by decide) (regular_space (ih rest))⟩

/-- The columns of a creation. -/
def typedItems (items : List (List Token)) (types : List ColumnType) : List (List Token) :=
  (items.zip types).map fun item => item.1 ++ [space, nameToken item.2.sqlName]

theorem concat_typedItems : (typedItems items types).map Token.concat =
    typedColumns (items.map Token.concat) types := by
  rw [typedItems, typedColumns, List.zip_map_left, List.map_map, List.map_map]
  refine List.map_congr_left fun item _ => ?_
  rw [Function.comp_apply, Token.concat_append]
  simp [Token.concat, space, nameToken]

theorem mapM_column? (headings : List.Forall₂ Heading names items)
    (typed : names.length = types.length) :
    ((typedItems items types).map trimTokens).mapM column? =
      some (List.zipWith Column.mk names types) := by
  induction headings generalizing types with
  | nil => rfl
  | cons heading headings ih =>
    cases types with
    | nil => cases typed
    | cons type types =>
      have rest := ih (Nat.succ.inj typed)
      rw [typedItems] at rest ⊢
      rw [List.zip_cons_cons, List.map_cons, List.map_cons, List.mapM_cons, heading.column?, rest]
      rfl

theorem mapM_columnName? (headings : List.Forall₂ Heading names items) :
    (items.map trimTokens).mapM columnName? = some names := by
  induction headings with
  | nil => rfl
  | cons heading headings ih =>
    rw [List.map_cons, List.mapM_cons, heading.columnName?, ih]
    rfl

variable {table : Text} {after : Text}

theorem regular_spaced (named : Name name) (rest : Regular ts after) :
    Regular (nameToken name :: space :: ts) after :=
  regular_name named (stops_cons (by decide) _) (regular_space rest)

theorem regular_createHead (named : Name table) (after : Text) :
    Regular (createHead table) after :=
  regular_spaced (by decide) (regular_spaced (by decide) (regular_spaced (by decide)
    (regular_spaced (by decide) (regular_spaced (by decide) (regular_spaced named
      (regular_mark (by decide) (by decide) (by decide) trivial))))))

theorem regular_insertHead (named : Name table) (after : Text) :
    Regular (insertHead table) after :=
  regular_spaced (by decide) (regular_spaced (by decide) (regular_spaced named
    (regular_mark (by decide) (by decide) (by decide) trivial)))

theorem regular_insertTail (places : Nat) (after : Text) : Regular (insertTail places) after := by
  have inner : Regular (listed (List.replicate places [mark '?']) ++ [mark ')']) after := by
    refine regular_append.2 ⟨regular_listed (stops_cons (c := ')') (by decide) _) ?_,
      regular_mark (by decide) (by decide) (by decide) trivial⟩
    intro item member behind _
    rw [List.eq_of_mem_replicate member]
    exact regular_mark (by decide) (by decide) (by decide) trivial
  exact regular_space (regular_spaced (by decide)
    (regular_mark (by decide) (by decide) (by decide) inner))

/-- A creation with the given columns, without its semicolon. -/
def createTokens (table : Text) (items : List (List Token)) (types : List ColumnType) : List Token :=
  createHead table ++ (listed (typedItems items types) ++ [mark ')'])

/-- An insertion of one row into the given columns, without its semicolon. -/
def insertTokens (table : Text) (items : List (List Token)) : List Token :=
  insertHead table ++ (listed items ++ (mark ')' :: insertTail items.length))

theorem regular_createTokens (named : Name table) (headings : List.Forall₂ Heading names items) :
    Regular (createTokens table items types) [';'] := by
  refine regular_append.2 ⟨regular_createHead named _, regular_append.2 ⟨?_, ?_⟩⟩
  · refine regular_listed (stops_cons (by decide) _) fun item member behind stops => ?_
    obtain ⟨⟨ts, type⟩, inside, rfl⟩ := List.mem_map.1 member
    obtain ⟨name, -, heading⟩ := exists_of_mem_right headings (List.of_mem_zip inside).1
    exact regular_append.2 ⟨heading.regular (stops_cons (by decide) _),
      regular_space (regular_name (name_sqlName type) stops trivial)⟩
  · exact regular_mark (by decide) (by decide) (by decide) trivial

theorem regular_insertTokens (named : Name table) (headings : List.Forall₂ Heading names items) :
    Regular (insertTokens table items) [';'] := by
  refine regular_append.2 ⟨regular_insertHead named _, regular_append.2 ⟨?_, ?_⟩⟩
  · refine regular_listed (stops_cons (by decide) _) fun item member behind stops => ?_
    obtain ⟨name, -, heading⟩ := exists_of_mem_right headings member
    exact heading.regular stops
  · exact regular_mark (by decide) (by decide) (by decide) (regular_insertTail _ _)

theorem joined_last : joined (Token.wordwise [';']) = [semicolon] := by decide +kernel

/-- A statement with its semicolon is the first statement of its text. -/
theorem begins_statement (regular : Regular ts [';']) (one : ∀ t ∈ ts, t.isSemicolon = false)
    (seen : ∃ t rest, ts = t :: rest ∧ isIdle t = false) :
    Begins [] ts [semicolon] (tokens (Token.concat ts ++ [';'])) := by
  refine ⟨?_, List.forall_mem_nil _, seen, one, .inr ⟨[], rfl⟩⟩
  change joined (Token.wordwise (Token.concat ts ++ [';'])) = _
  rw [joined_regular regular, joined_last]
  rfl

theorem concat_createHead (table : Text) : Token.concat (createHead table) =
    "CREATE TABLE IF NOT EXISTS ".toList ++ table ++ " (".toList := rfl

theorem concat_insertHead (table : Text) : Token.concat (insertHead table) =
    "INSERT INTO ".toList ++ table ++ " (".toList := rfl

theorem concat_insertTail (places : Nat) : Token.concat (mark ')' :: insertTail places) =
    ") VALUES (".toList ++ join [',', ' '] (List.replicate places ['?']) ++ [')'] := by
  have places : (List.replicate places [mark '?']).map Token.concat =
      List.replicate places ['?'] := by
    rw [List.map_replicate]
    rfl
  rw [← places, ← concat_listed, insertTail, ← List.cons_append, Token.concat_append,
    Token.concat_append, List.append_assoc]
  rfl

/-- No item of a list of columns has a mark that would end it. -/
theorem bare_typedItems (headings : List.Forall₂ Heading names items) :
    ∀ item ∈ typedItems items types, ∀ t ∈ item,
      isMark ',' t = false ∧ isMark ')' t = false ∧ t.isSemicolon = false := by
  intro item member
  obtain ⟨⟨ts, type⟩, inside, rfl⟩ := List.mem_map.1 member
  obtain ⟨name, -, heading⟩ := exists_of_mem_right headings (List.of_mem_zip inside).1
  refine List.forall_mem_append.2 ⟨heading.bare, List.forall_mem_cons.2 ⟨⟨rfl, rfl, rfl⟩, ?_⟩⟩
  exact List.forall_mem_singleton.2
    ⟨isMark_nameToken _ _, isMark_nameToken _ _, isSemicolon_nameToken _⟩

theorem bare_items (headings : List.Forall₂ Heading names items) : ∀ item ∈ items, ∀ t ∈ item,
    isMark ',' t = false ∧ isMark ')' t = false ∧ t.isSemicolon = false := by
  intro item member
  obtain ⟨name, -, heading⟩ := exists_of_mem_right headings member
  exact heading.bare

theorem bare_createHead (table : Text) : ∀ t ∈ createHead table, t.isSemicolon = false := by
  simp only [createHead, List.forall_mem_cons]
  exact ⟨isSemicolon_nameToken _, rfl, isSemicolon_nameToken _, rfl, isSemicolon_nameToken _, rfl,
    isSemicolon_nameToken _, rfl, isSemicolon_nameToken _, rfl, isSemicolon_nameToken _, rfl, rfl,
    List.forall_mem_nil _⟩

theorem bare_insertHead (table : Text) : ∀ t ∈ insertHead table, t.isSemicolon = false := by
  simp only [insertHead, List.forall_mem_cons]
  exact ⟨isSemicolon_nameToken _, rfl, isSemicolon_nameToken _, rfl, isSemicolon_nameToken _, rfl,
    rfl, List.forall_mem_nil _⟩

theorem bare_insertTail (places : Nat) : ∀ t ∈ insertTail places, t.isSemicolon = false := by
  have inner : ∀ t ∈ listed (List.replicate places [mark '?']), t.isSemicolon = false := by
    refine forall_listed rfl rfl fun item member t inside => ?_
    rw [List.eq_of_mem_replicate member, List.mem_singleton] at inside
    rw [inside]
    rfl
  simp only [insertTail, List.forall_mem_append, List.forall_mem_cons]
  exact ⟨⟨rfl, isSemicolon_nameToken _, rfl, rfl, List.forall_mem_nil _⟩, inner, rfl,
    List.forall_mem_nil _⟩

theorem begins_create (named : Name table) (headings : List.Forall₂ Heading names items)
    (types : List ColumnType) : Begins [] (createTokens table items types) [semicolon]
      (tokens (createText table ((items.map Token.concat).zip types))) := by
  have text : createText table ((items.map Token.concat).zip types) =
      Token.concat (createTokens table items types) ++ [';'] := by
    rw [← createStatement_eq_createText, createStatement_eq, ← concat_typedItems, ← concat_listed,
      createTokens, Token.concat_append, Token.concat_append, concat_createHead]
    simp [Token.concat, mark]
  rw [text]
  refine begins_statement (regular_createTokens named headings) ?_ ⟨_, _, rfl, by decide⟩
  have columns : ∀ t ∈ listed (typedItems items types), t.isSemicolon = false :=
    forall_listed rfl rfl fun item member t inside =>
      (bare_typedItems headings item member t inside).2.2
  simp only [createTokens, List.forall_mem_append, List.forall_mem_singleton]
  exact ⟨bare_createHead table, columns, rfl⟩

theorem begins_insert (named : Name table) (headings : List.Forall₂ Heading names items) :
    Begins [] (insertTokens table items) [semicolon]
      (tokens (insertText table (items.map Token.concat))) := by
  have text : insertText table (items.map Token.concat) =
      Token.concat (insertTokens table items) ++ [';'] := by
    rw [← insertStatement_eq_insertText table _ (List.cons_ne_nil [] []),
      insertStatement_eq _ _ (List.cons_ne_nil [] []), ← concat_listed, insertTokens,
      Token.concat_append, Token.concat_append, concat_insertHead, concat_insertTail,
      List.map_const', List.length_map]
    simp
  rw [text]
  refine begins_statement (regular_insertTokens named headings) ?_ ⟨_, _, rfl, by decide⟩
  have columns : ∀ t ∈ listed items, t.isSemicolon = false :=
    forall_listed rfl rfl fun item member t inside => (bare_items headings item member t inside).2.2
  simp only [insertTokens, List.forall_mem_append, List.forall_mem_cons]
  exact ⟨bare_insertHead table, columns, rfl, bare_insertTail _⟩

theorem read?_create (named : Name table) (headings : List.Forall₂ Heading names items)
    (listing : names ≠ []) (typed : names.length = types.length) :
    read? (createTokens table items types) =
      some (.createTable table true (List.zipWith Column.mk names types)) := by
  have full : typedItems items types ≠ [] := by
    have columns := headings.length_eq
    have counts := List.length_pos_iff.2 listing
    rw [← List.length_pos_iff, typedItems, List.length_map, List.length_zip]
    omega
  have list := takeList?_listed full (fun item member t inside =>
    have bare := bare_typedItems headings item member t inside
    ⟨bare.1, bare.2.1⟩) []
  rw [createTokens, read?_createHead, createTable?_head named, list, Option.bind_some]
  dsimp only
  rw [mapM_column? headings typed]
  rfl

theorem read?_insert (named : Name table) (headings : List.Forall₂ Heading names items)
    (listing : names ≠ []) : read? (insertTokens table items) =
      some (.insert table (some names) [List.replicate names.length .parameter]) := by
  have columns : names.length = items.length := headings.length_eq
  have full : items.length ≠ 0 := by
    rw [← columns]
    exact Nat.ne_of_gt (List.length_pos_iff.2 listing)
  have list := takeList?_listed (List.length_pos_iff.1 (Nat.pos_of_ne_zero full))
    (fun item member t inside =>
      have bare := bare_items headings item member t inside
      ⟨bare.1, bare.2.1⟩) (insertTail items.length)
  rw [insertTokens, read?_insertHead, insert?_head named, list, Option.bind_some]
  dsimp only
  rw [mapM_columnName? headings, Option.bind_some, afterWords?_insertTail, Option.bind_some,
    rows?_places full, columns]
  rfl

theorem begins_select (named : Name table) :
    Begins [] (selectTokens table) [] (tokens (selectText table)) := by
  have text : Token.concat (selectTokens table) = selectText table :=
    congrArg ("SELECT * FROM ".toList ++ ·) (List.append_nil table)
  have regular : Regular (selectTokens table) [] :=
    regular_spaced (by decide) (regular_mark (by decide) (by decide) (by decide)
      (regular_space (regular_spaced (by decide) (regular_name named stops_nil trivial))))
  rw [← text, tokens_concat regular]
  refine ⟨(List.append_nil _).symm, List.forall_mem_nil _, ⟨_, _, rfl, by decide⟩, ?_, .inl rfl⟩
  simp only [selectTokens, List.forall_mem_cons]
  exact ⟨isSemicolon_nameToken _, rfl, rfl, rfl, isSemicolon_nameToken _, rfl,
    isSemicolon_nameToken _, List.forall_mem_nil _⟩

theorem read?_select (named : Name table) :
    read? (selectTokens table) = some (.selectAll table none) := by
  have create : createTable? (selectTokens table) = none :=
    createTable?_other (by decide) (by decide) _
  have insert : insert? (selectTokens table) = none := insert?_other (by decide) (by decide) _
  rw [read?, create, insert, selectAll?_tokens named]
  rfl

end QueryDesk.Store.Statement
