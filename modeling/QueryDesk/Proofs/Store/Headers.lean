import QueryDesk.Proofs.Csv.Columns
import QueryDesk.Proofs.Store.Imports
import QueryDesk.Proofs.Store.Typing

/-!
# The headers of an import that succeeds

Headers are written into the statements of an import as they are, and could be anything. But if the
creation of the table has succeeded and the insertion is prepared, each header is one name, with
closed comments around it at most (`headings_of_prepares`): what else an insertion could be read as,
the creation of the table is not. So a store does what is assumed of a database that takes any
headers (`declares_connection`).
-/

set_option autoImplicit false

namespace QueryDesk.Store

open Text Sql Csv

namespace Statement

variable {table : Text} {inner : List Token}

/-- The items of a list that are read as names, in order. -/
def Names (ts : List Token) (names : List Text) : Prop :=
  List.Forall₂ (fun item name => columnName? (trimTokens item) = some name)
    (ts.splitOnP (isMark ',')) names

theorem Names.named {ts : List Token} {names : List Text} (items : Names ts names) :
    ∀ item ∈ ts.splitOnP (isMark ','), ∃ name, columnName? (trimTokens item) = some name := by
  intro item member
  obtain ⟨name, -, read⟩ := exists_of_mem_right items.flip member
  exact ⟨name, read⟩

theorem forall₂_of_mapM {α β : Type} {f : α → Option β} {xs : List α} {ys : List β}
    (mapped : xs.mapM f = some ys) : List.Forall₂ (fun x y => f x = some y) xs ys := by
  induction xs generalizing ys with
  | nil =>
    cases mapped
    exact .nil
  | cons x xs ih =>
    rw [List.mapM_cons] at mapped
    obtain ⟨y, here, mapped⟩ := Option.bind_eq_some_iff.1 mapped
    obtain ⟨rest, there, mapped⟩ := Option.bind_eq_some_iff.1 mapped
    cases mapped
    exact .cons here (ih there)

theorem exists_of_takeList? {items : List (List Token)} {rest : List Token}
    (taken : takeList? (mark '(' :: inner) = some (items, rest)) :
    ∃ ts, inner = ts ++ mark ')' :: rest ∧ (∀ t ∈ ts, isMark ')' t = false) ∧
      items = (ts.splitOnP (isMark ',')).map trimTokens := by
  rw [takeList?, after?_mark, if_pos (by decide), Option.bind_some] at taken
  split at taken
  case h_1 close _ left =>
    cases taken
    have whole := List.takeWhile_append_dropWhile (p := (!isMark ')' ·)) (l := inner)
    rw [left] at whole
    have ends : isMark ')' close = true := by
      have first := List.head?_dropWhile_not (!isMark ')' ·) inner
      rw [left] at first
      simpa using first
    rw [eq_mark ends] at whole
    refine ⟨_, whole.symm, fun t member => ?_, rfl⟩
    simpa using List.all_eq_true.1 List.all_takeWhile t member
  case h_2 => cases taken

/-- An insertion that is read: its list ends at the first parenthesis and holds names. -/
theorem exists_of_insert (named : Name table) {statement : Statement}
    (read : read? (insertHead table ++ inner) = some statement) :
    ∃ ts rest names values rows, inner = ts ++ mark ')' :: rest ∧
      (∀ t ∈ ts, isMark ')' t = false) ∧ Names ts names ∧
      afterWords? ["VALUES"] rest = some values ∧ rows? values = some rows ∧
      statement = .insert table (some names) rows := by
  rw [read?_insertHead, insert?_head named] at read
  obtain ⟨⟨items, rest⟩, taken, read⟩ := Option.bind_eq_some_iff.1 read
  obtain ⟨names, mapped, read⟩ := Option.bind_eq_some_iff.1 read
  obtain ⟨values, behind, read⟩ := Option.bind_eq_some_iff.1 read
  obtain ⟨rows, operands, made⟩ := Option.bind_eq_some_iff.1 read
  cases made
  obtain ⟨ts, shape, within, rfl⟩ := exists_of_takeList? taken
  exact ⟨ts, rest, names, values, rows, shape, within,
    List.forall₂_map_left_iff.1 (forall₂_of_mapM mapped), behind, operands, rfl⟩

theorem exists_of_takeWhile {α : Type} {p : α → Bool} {xs front behind : List α}
    (taken : xs.takeWhile p = front ++ behind) :
    ∃ after, xs = front ++ after ∧ after.takeWhile p = behind := by
  have inside : ∀ x ∈ front, p x = true := fun x member =>
    List.all_eq_true.1 List.all_takeWhile x (taken ▸ List.mem_append_left behind member)
  have whole : front ++ (behind ++ xs.dropWhile p) = xs := by
    rw [← List.append_assoc, ← taken, List.takeWhile_append_dropWhile]
  refine ⟨_, whole.symm, ?_⟩
  rw [← whole, List.takeWhile_append_of_pos inside] at taken
  exact List.append_cancel_left taken

/-- What an insertion has behind its list of columns. -/
def insertRest (places : Nat) : Text := Token.concat (insertTail places) ++ [';']

theorem insertText_eq (table : Text) (headers : List Text) :
    insertText table headers = Token.concat (insertHead table) ++
      (join [',', ' '] headers ++ ')' :: insertRest headers.length) := by
  have tail : ')' :: insertRest headers.length =
      Token.concat (mark ')' :: insertTail headers.length) ++ [';'] := rfl
  rw [tail, concat_insertTail, concat_insertHead]
  unfold insertText
  rw [List.map_const']
  simp

/-- The first statement goes on as far as a semicolon behind its beginning. -/
theorem firstStatement_append {front : List Token} {back : Text} (regular : Regular front back)
    (seen : ∃ t rest, front = t :: rest ∧ isIdle t = false)
    (bare : ∀ t ∈ front, t.isSemicolon = false) :
    firstStatement (tokens (Token.concat front ++ back)) =
      front ++ (joined (Token.wordwise back)).takeWhile (!Token.isSemicolon ·) := by
  have text : tokens (Token.concat front ++ back) = front ++ joined (Token.wordwise back) :=
    joined_regular regular
  have kept : ∀ t ∈ front, (!t.isSemicolon) = true := fun t member => by simp [bare t member]
  obtain ⟨t, rest, rfl, seen⟩ := seen
  rw [firstStatement, text, List.cons_append, List.dropWhile_cons_of_neg (by simp [seen]),
    ← List.cons_append, List.takeWhile_append_of_pos kept]

/-- The first statement of an insertion, as far as a semicolon among the headers. -/
theorem firstStatement_insertText (named : Name table) (headers : List Text) :
    firstStatement (tokens (insertText table headers)) =
      insertHead table ++ (joined (Token.wordwise (join [',', ' '] headers ++
        ')' :: insertRest headers.length))).takeWhile (!Token.isSemicolon ·) := by
  rw [insertText_eq]
  exact firstStatement_append (regular_insertHead named _) ⟨_, _, rfl, by decide⟩
    (bare_insertHead table)

theorem takeWhile_insertRest (places : Nat) :
    (joined (Token.wordwise (insertRest places))).takeWhile (!Token.isSemicolon ·) =
      insertTail places := by
  have bare : ∀ t ∈ insertTail places, (!t.isSemicolon) = true :=
    fun t member => by simp [bare_insertTail places t member]
  rw [insertRest, joined_regular (regular_insertTail places _), joined_last,
    List.takeWhile_append_of_pos bare, List.takeWhile_cons_of_neg (by decide), List.append_nil]

/-- Spaces, and characters that are neither blanks nor slashes. -/
def isTame (c : Char) : Bool := c == ' ' || !isBlank c && c != '/'

theorem space_of_tame {c : Char} (tame : isTame c = true) (blank : isBlank c = true) : c = ' ' := by
  simpa [isTame, blank] using tame

theorem tame_insertRest (places : Nat) : ∀ c ∈ insertRest places, isTame c = true := by
  have whole : insertRest places = " VALUES (".toList ++
      Token.concat (listed (List.replicate places [mark '?'])) ++ [')', ';'] := by
    rw [insertRest, insertTail, Token.concat_append, Token.concat_append, List.append_assoc,
      List.append_assoc]
    rfl
  have inner : ∀ c ∈ Token.concat (listed (List.replicate places [mark '?'])),
      isTame c = true := by
    intro c member
    rw [concat_listed, List.map_replicate] at member
    rcases mem_join member with here | ⟨piece, inside, here⟩
    · exact List.all_eq_true.1 (by decide : [',', ' '].all isTame = true) c here
    · rw [List.eq_of_mem_replicate inside] at here
      exact List.all_eq_true.1 (by decide : ['?'].all isTame = true) c here
  rw [whole, List.forall_mem_append, List.forall_mem_append]
  exact ⟨⟨List.all_eq_true.1 (by decide), inner⟩, List.all_eq_true.1 (by decide)⟩

theorem spacious_listing {headers : List Text}
    (solid : ∀ header ∈ headers, ∀ c ∈ header, isBlank c = false) (places : Nat) :
    Spacious (join [',', ' '] headers ++ ')' :: insertRest places) := by
  intro c member blank
  rcases List.mem_append.1 member with here | here
  · rcases mem_join here with here | ⟨header, inside, here⟩
    · have tame := List.all_eq_true.1 (by decide : [',', ' '].all isTame = true) c here
      exact space_of_tame tame blank
    · rw [solid header inside c here] at blank
      cases blank
  · rcases List.mem_cons.1 here with rfl | here
    · cases blank
    · exact space_of_tame (tame_insertRest places c here) blank

/-- What stands behind the list of an insertion as it is written is a row with a parameter for every
header. -/
theorem rows_of_places {places : Nat} (some : places ≠ 0) {values : List Token}
    {rows : List (List Operand)} (after : afterWords? ["VALUES"] (insertTail places) = .some values)
    (read : rows? values = .some rows) : rows = [List.replicate places .parameter] := by
  rw [afterWords?_insertTail] at after
  cases after
  rw [rows?_places some] at read
  exact (Option.some.inj read).symm

end Statement

open Statement

variable {table : Text} {names headers : List Text} {types : List ColumnType} {sql : Text}
  {d d' : Database} {p : Prepared}

/-- What is prepared is read, and runs without texts for its parameters. -/
theorem exists_of_prepareFirst (prepared : prepareFirst sql d = .ok p) :
    ∃ r, read? (firstStatement (tokens sql)) = some p.statement ∧
      runStatement d [] p.statement = .ok r := by
  rw [prepareFirst, prepareTokens] at prepared
  cases read : read? (firstStatement (tokens sql)) with
  | none =>
    rw [read] at prepared
    cases prepared
  | some statement =>
    rw [read] at prepared
    dsimp only at prepared
    cases ran : runStatement d [] statement with
    | error refusal =>
      rw [ran] at prepared
      cases prepared
    | ok r =>
      rw [ran] at prepared
      cases prepared
      exact ⟨r, rfl, ran⟩

/-- One row is put into as many columns as it has values. -/
theorem width_of_insert {operands : List Operand} {r : Database × List ResultSet}
    (ran : runStatement d [] (.insert table (some names) [operands]) = .ok r) :
    operands.length = names.length := by
  rw [runStatement, bindRows, bindRows] at ran
  cases inserted : insertRows d table (some names) [bindRow operands []] with
  | error refusal =>
    rw [inserted] at ran
    cases ran
  | ok d' =>
    obtain ⟨_, -, width, -⟩ := exists_of_insertRows inserted
    rwa [length_bindRow] at width

/-- What an insertion that is prepared says of the headers it lists. The list ends where they
end, with a name for each, or at a parenthesis among them. -/
structure Listing (headers : List Text) (ts : List Token) (names : List Text) (back : Text) :
    Prop where
  items : Names ts names
  elements : ∀ t ∈ ts, Element t
  regular : ∃ after, Regular ts after
  whole : join [',', ' '] headers = Token.concat ts ++ back
  ends : back = [] ∧ names.length = headers.length ∨ ∃ more, back = ')' :: more

theorem exists_listing (named : Name table)
    (solid : ∀ header ∈ headers, ∀ c ∈ header, isBlank c = false) (listing : headers ≠ [])
    (prepared : prepareFirst (insertText table headers) d = .ok p) :
    ∃ ts names back, Listing headers ts names back := by
  obtain ⟨r, read, ran⟩ := exists_of_prepareFirst prepared
  rw [firstStatement_insertText named] at read
  obtain ⟨ts, behind, names, values, rows, shape, within, items, after, operands, shown⟩ :=
    exists_of_insert named read
  rw [shown] at ran
  obtain ⟨more, source, follow⟩ := exists_of_takeWhile (shape.trans (List.append_cons ts _ behind))
  rw [List.append_assoc, List.singleton_append] at source
  obtain ⟨rest, same, tail, elements, regular⟩ :=
    regular_of_joined (spacious_listing solid _) source (listable_of_items items.named)
  have slashless : '/' ∉ insertRest headers.length := fun member =>
    absurd (tame_insertRest _ _ member) (by decide)
  obtain ⟨back, whole, ends⟩ := exists_of_paren elements slashless same
  refine ⟨ts, names, back, items, elements, ⟨_, regular⟩, whole, ?_⟩
  rcases ends with ⟨none, last⟩ | within
  · -- Behind the headers comes what the insertion has there, with a value for each of them.
    have places : headers.length ≠ 0 := fun zero => listing (List.length_eq_zero_iff.1 zero)
    rw [tail, ← last, takeWhile_insertRest] at follow
    rw [← follow] at after
    obtain rfl := rows_of_places places after operands
    rw [← width_of_insert ran, List.length_replicate]
    exact .inl ⟨none, rfl⟩
  · exact .inr within

/-- A creation is not read if its list is that of names alone with types before its commas: the last
column has no type. -/
theorem read?_untyped {ts us : List Token} (named : Name table) (typed : TypedTokens ts us)
    (items : Names ts names) (rest : List Token) :
    read? (createHead table ++ (us ++ mark ')' :: rest)) = none := by
  rw [read?_createHead, createTable?_head named,
    takeList?_until fun t member => (typed.bare t member).1, Option.bind_some]
  dsimp only
  cases defined : ((us.splitOnP (isMark ',')).map trimTokens).mapM column? with
  | none => rfl
  | some columns =>
    have each := List.forall₂_map_left_iff.1 (forall₂_of_mapM defined)
    refine absurd (fun item member => ?_) (untyped_last typed items.named)
    obtain ⟨column, -, read⟩ := exists_of_mem_right each.flip member
    exact ⟨column, read⟩

/-- A batch whose first statement is not read fails. -/
theorem executeBatch_unread (some : firstStatement (tokens sql) ≠ [])
    (unread : read? (firstStatement (tokens sql)) = none) (d : Database) :
    (connection.executeBatch sql d).1 ≠ .ok () := by
  have failed : ∃ failure, prepareNext sql d = .error failure := by
    rw [prepareNext, if_neg (by simpa using some), prepareFirst, prepareTokens, unread]
    exact ⟨_, rfl⟩
  obtain ⟨failure, failed⟩ : ∃ failure, connection.next sql d = .error failure := failed
  have ran := Statements.runBatch_error failed
  change ((connection.runBatch sql d).1.map fun _ => ()) ≠ _
  rw [ran]
  rintro ⟨⟩

/-- Where the list of the insertion ends within the headers, the creation is not read. -/
theorem unreadable_create {ts : List Token} {more : Text} (named : Name table)
    (bare : ∀ header ∈ headers, ',' ∉ header) (listed : headers ≠ [])
    (typed : types.length = headers.length) (listing : Listing headers ts names (')' :: more))
    (d : Database) :
    (connection.executeBatch (createText table (headers.zip types)) d).1 ≠ .ok () := by
  obtain ⟨u, last, columns, annotated⟩ := typedText_join listed typed bare
  rw [listing.whole] at annotated
  obtain ⟨front, back, rfl, head, tail⟩ := annotated.split
  obtain ⟨us, rfl, tokens⟩ := exists_typedTokens listing.elements head
  obtain ⟨after, regular⟩ := listing.regular
  cases tail with
  | @other _ _ z _ _ =>
    have text : createText table (headers.zip types) =
        Token.concat (createHead table ++ (us ++ [mark ')'])) ++
          (z ++ ' ' :: last.sqlName ++ [')'] ++ [';']) := by
      rw [← createStatement_eq_createText, createStatement_eq, columns, Token.concat_append,
        Token.concat_append, concat_createHead]
      simp [Token.concat, mark]
    have read : Regular (createHead table ++ (us ++ [mark ')']))
        (z ++ ' ' :: last.sqlName ++ [')'] ++ [';']) :=
      regular_append.2 ⟨regular_createHead named _, regular_append.2
        ⟨tokens.regular regular (stops_cons (by decide) _),
          regular_mark (by decide) (by decide) (by decide) trivial⟩⟩
    have one : ∀ t ∈ createHead table ++ (us ++ [mark ')']), t.isSemicolon = false :=
      List.forall_mem_append.2 ⟨bare_createHead table, List.forall_mem_append.2
        ⟨fun t member => (tokens.bare t member).2, List.forall_mem_singleton.2 rfl⟩⟩
    have first := firstStatement_append read ⟨_, _, rfl, by decide⟩ one
    rw [text]
    refine executeBatch_unread (by rw [first]; exact List.cons_ne_nil _ _) ?_ d
    rw [first, List.append_assoc, List.append_assoc, List.singleton_append]
    exact read?_untyped named tokens listing.items _

theorem countP_le_count (ts : List Token) :
    ts.countP (isMark ',') ≤ (Token.concat ts).count ',' := by
  induction ts with
  | nil => exact Nat.le_refl 0
  | cons t ts ih =>
    rw [Token.concat, List.flatMap_cons, List.count_append, List.countP_cons, ← Token.concat]
    split
    case isTrue comma =>
      rw [eq_mark comma]
      change _ ≤ 1 + _
      omega
    case isFalse => omega

/-- If the text has no more commas than there are comma tokens, no other token has one. -/
theorem bare_of_count {ts : List Token}
    (count : (Token.concat ts).count ',' ≤ ts.countP (isMark ',')) :
    ∀ t ∈ ts, isMark ',' t = false → ',' ∉ t.text := by
  induction ts with
  | nil => exact List.forall_mem_nil _
  | cons t ts ih =>
    have rest := countP_le_count ts
    rw [Token.concat, List.flatMap_cons, List.count_append, List.countP_cons, ← Token.concat]
      at count
    refine List.forall_mem_cons.2 ⟨fun other member => ?_, ih ?_⟩
    · have one := List.count_pos_iff.2 member
      rw [other] at count
      simp at count
      omega
    · split at count
      case isTrue comma =>
        rw [eq_mark comma] at count
        change 1 + _ ≤ _ at count
        omega
      case isFalse => omega

theorem mem_of_splitOnP {ts item : List Token} {t : Token} (member : item ∈ ts.splitOnP (isMark ','))
    (inside : t ∈ item) : t ∈ ts := by
  rw [← intercalate_splitOnP ts]
  exact mem_intercalate_of_mem member inside

/-- If no other token has a comma, the pieces of the text are the texts of the items. -/
theorem splitOn_concat {ts : List Token}
    (count : (Token.concat ts).count ',' ≤ ts.countP (isMark ',')) :
    (Token.concat ts).splitOn ',' = (ts.splitOnP (isMark ',')).map Token.concat := by
  refine (splitOn_eq_iff _ _ _).2 ⟨by simp [List.splitOnP_ne_nil], ?_, ?_⟩
  · intro piece member comma
    obtain ⟨item, within, rfl⟩ := List.mem_map.1 member
    obtain ⟨t, here, comma⟩ := List.mem_flatMap.1 comma
    exact bare_of_count count t (mem_of_splitOnP within here) (bare_splitOnP ts item within t here)
      comma
  · exact (concat_intercalate [mark ','] _).symm.trans (congrArg _ (intercalate_splitOnP ts))

/-- Elements whose text begins with a blank begin with a space. -/
theorem space_of_concat {item : List Token} {rest : Text} (elements : ∀ t ∈ item, Element t)
    (text : Token.concat item = ' ' :: rest) :
    ∃ more, item = space :: more ∧ Token.concat more = rest := by
  cases item with
  | nil => cases text
  | cons t more =>
    refine ⟨more, ?_⟩
    cases elements t List.mem_cons_self with
    | comma => cases text
    | space =>
      cases text
      exact ⟨rfl, rfl⟩
    | remark => cases text
    | name named =>
      obtain ⟨c, cs, rfl, visible, -⟩ := named.begins
      obtain ⟨rfl, -⟩ := List.cons.inj text
      cases visible

/-- Items that begin with a space each are read as the headers behind these. -/
theorem headings_spaced {items : List (List Token)} {headers : List Text}
    (read : List.Forall₂ (fun item name => columnName? (trimTokens item) = some name) items names)
    (text : items.map Token.concat = headers.map (' ' :: ·))
    (elements : ∀ item ∈ items, ∀ t ∈ item, Element t)
    (solid : ∀ header ∈ headers, ∀ c ∈ header, isBlank c = false) :
    ∃ items', List.Forall₂ Heading names items' ∧ headers = items'.map Token.concat := by
  induction read generalizing headers with
  | nil =>
    obtain rfl := List.map_eq_nil_iff.1 text.symm
    exact ⟨[], .nil, rfl⟩
  | @cons item name items names here _ ih =>
    cases headers with
    | nil => cases text
    | cons header headers =>
      obtain ⟨first, rest⟩ := List.cons.inj text
      obtain ⟨inside, others⟩ := List.forall_mem_cons.1 elements
      obtain ⟨visible, solid⟩ := List.forall_mem_cons.1 solid
      obtain ⟨items', headings, shown⟩ := ih rest others solid
      obtain ⟨more, rfl, rfl⟩ := space_of_concat inside first
      rw [trimTokens_space] at here
      exact ⟨more :: items', .cons (heading_of_elements
        (fun t member => inside t (List.mem_cons_of_mem _ member)) visible here) headings,
        by rw [shown]; rfl⟩

/-- A list that ends with the headers and has a name for each of them is the list of the headers. -/
theorem headings_of_listing {headers : List Text} {ts : List Token}
    (bare : ∀ header ∈ headers, ',' ∉ header)
    (solid : ∀ header ∈ headers, ∀ c ∈ header, isBlank c = false) (listed : headers ≠ [])
    (listing : Listing headers ts names []) (count : names.length = headers.length) :
    ∃ items, List.Forall₂ Heading names items ∧ headers = items.map Token.concat := by
  obtain ⟨items, elements, -, whole, -⟩ := listing
  rw [List.append_nil] at whole
  obtain ⟨header, more, rfl⟩ := List.exists_cons_of_ne_nil listed
  have pieces : Pieces ',' (Token.concat ts) (header :: more.map (' ' :: ·)) :=
    Lists.pieces ⟨listed, bare, whole⟩
  have commas : (Token.concat ts).count ',' ≤ ts.countP (isMark ',') := by
    have texts := pieces.length
    have tokens := length_splitOnP ts
    rw [items.length_eq, count] at tokens
    simp only [List.length_cons, List.length_map] at texts tokens
    omega
  have texts := (splitOn_concat commas).symm.trans ((splitOn_eq_iff _ _ _).2 pieces)
  obtain ⟨visible, apart⟩ := List.forall_mem_cons.1 solid
  have within : ∀ item ∈ ts.splitOnP (isMark ','), ∀ t ∈ item, Element t :=
    fun item member t here => elements t (mem_of_splitOnP member here)
  rw [Names] at items
  generalize ts.splitOnP (isMark ',') = pieces at items texts within
  cases items with
  | nil => cases texts
  | cons here rest =>
    obtain ⟨rfl, others⟩ := List.cons.inj texts
    obtain ⟨first, within⟩ := List.forall_mem_cons.1 within
    obtain ⟨items, headings, rfl⟩ := headings_spaced rest others within apart
    exact ⟨_ :: items, .cons (heading_of_elements first visible here) headings, rfl⟩

/-- The headers of a table that has been created, and into which an insertion is prepared, are
different names, but for comments. -/
theorem headings_of_prepares (named : Name table)
    (prepares : connection.Prepares lookUp table headers types d p) :
    ∃ names items before, List.Forall₂ Heading names items ∧ headers = items.map Token.concat ∧
      names ≠ [] ∧ before.find? table = none ∧
      createTable before table true (List.zipWith Column.mk names types) = .ok d := by
  obtain ⟨listed, typed, all, ⟨before, missing, created⟩, prepared⟩ := prepares
  rw [lookUp_eq_none_iff named] at missing
  have bare : ∀ header ∈ headers, ',' ∉ header :=
    fun header member comma => (all header member ',' comma).2.1 rfl
  have solid : ∀ header ∈ headers, ∀ c ∈ header, isBlank c = false :=
    fun header member c here => (all header member c here).1
  obtain ⟨ts, names, back, listing⟩ := exists_listing named solid listed prepared
  rcases listing.ends with ⟨rfl, count⟩ | ⟨more, rfl⟩
  · obtain ⟨items, headings, rfl⟩ := headings_of_listing bare solid listed listing count
    have some : names ≠ [] := by
      rw [← List.length_pos_iff, count]
      exact List.length_pos_iff.2 listed
    rw [executeBatch_create named headings some (count.trans typed.symm)] at created
    split at created
    case h_1 => cases created
    case h_2 made =>
      cases created
      exact ⟨names, items, before, headings, rfl, some, missing, made⟩
  · exact absurd (congrArg Prod.fst created)
      (unreadable_create named bare listed typed listing before)

/-- What is there once the insertion is prepared: an empty table with a column of its own name for
every header, and the insertion into all columns. -/
theorem exists_of_prepares (named : Name table)
    (prepares : connection.Prepares lookUp table headers types d p) :
    ∃ names : List Text, Distinct names ∧ names.length = headers.length ∧
      lookUp d table = some ⟨names.zip types, [], true⟩ ∧ p = insertion table names := by
  obtain ⟨names, items, before, headings, rfl, listing, missing, made⟩ :=
    headings_of_prepares named prepares
  have count : names.length = types.length := by
    rw [prepares.typed, List.length_map, headings.length_eq]
  have columns : (List.zipWith Column.mk names types).map Column.name = names := by
    apply List.ext_getElem
    · simp [count]
    · simp
  have distinct := distinct_of_createTable missing made
  rw [createTable_new missing distinct] at made
  cases made
  have prepared : prepareFirst _ _ = _ := prepares.prepared
  rw [(begins_insert named headings).prepareFirst_eq,
    prepareTokens_insert named headings listing (find?_add missing _) columns] at prepared
  cases prepared
  refine ⟨names, columns ▸ distinct, by rw [List.length_map, headings.length_eq], ?_, rfl⟩
  have zipped : List.zipWith Column.mk names types =
      (names.zip types).map fun c => ⟨c.1, c.2⟩ := by
    rw [List.map_zip_eq_zipWith]
    rfl
  rw [zipped]
  exact lookUp_add named missing _

/-- A store does what is assumed of a database that takes any headers. -/
theorem declares_connection : connection.Declares lookUp storedText where
  toReads := reads_connection _
  columns {table headers types d p view} prepares found := by
    obtain ⟨named, -⟩ := exists_of_lookUp found
    obtain ⟨names, -, count, there, -⟩ := exists_of_prepares named prepares
    cases found.symm.trans there
    exact ⟨List.map_snd_zip (prepares.typed.trans count.symm).le, rfl, rfl⟩
  fills {table headers types d d₁ d₂ p view view₁ row n} prepares found found₁ alike _ width
      ran := by
    obtain ⟨named, -⟩ := exists_of_lookUp found
    obtain ⟨names, distinct, count, there, rfl⟩ := exists_of_prepares named prepares
    cases found.symm.trans there
    obtain ⟨-, t₁, there₁, rfl⟩ := exists_of_lookUp found₁
    have typed := prepares.typed.trans count.symm
    have names₁ : t₁.columns.map Column.name = names := by
      rw [← names_view, TableView.names, alike, List.map_fst_zip typed.ge]
    have types₁ : t₁.view.types = types := by
      rw [TableView.types, alike, List.map_snd_zip typed.le]
    subst names₁
    rw [List.length_map] at count
    have inserted := execute_insertion there₁ distinct (width.trans count.symm)
    have same : executePrepared (insertion table (t₁.columns.map Column.name)) row d₁ = _ := ran
    cases same.symm.trans inserted
    rw [lookUp_append found₁, kept_eq, types₁]
  creates {table headers types d d₁ d₂ p row n} prepares missing ran := by
    by_cases named : Name table
    case neg => exact if_neg named
    case pos =>
      obtain ⟨names, -, -, -, rfl⟩ := exists_of_prepares named prepares
      rw [lookUp_eq_none_iff named] at missing
      have failed : insertRows d₁ table (some names) (bindRows [.replicate names.length .parameter]
          row) = .error (.noSuchTable table) := by
        rw [insertRows, missing]
      have same : executePrepared (insertion table names) row d₁ = (.ok n, d₂) := ran
      rw [executePrepared, insertion, runStatement, failed] at same
      split at same
      case isTrue => cases same
      case isFalse => cases same

end QueryDesk.Store
