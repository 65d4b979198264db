import QueryDesk.Proofs.Store.Tokens
import QueryDesk.Proofs.Text.Cutting
import QueryDesk.Store.Batch

/-!
# Reading statements

How the statements of an import and the selection of a whole table are read from their tokens. Each
reader is followed word by word; the items of a list are those between its commas, without blanks
and comments around them (`takeList?_listed`).
-/

set_option autoImplicit false

namespace QueryDesk.Store.Statement

open Text Sql

variable {t : Token} {ts : List Token}

theorem skip_idle (idle : t.isSignificant = false) (ts : List Token) : skip (t :: ts) = skip ts :=
  List.dropWhile_cons_of_pos (by simp [idle])

theorem skip_significant (seen : t.isSignificant = true) (ts : List Token) :
    skip (t :: ts) = t :: ts :=
  List.dropWhile_cons_of_neg (by simp [seen])

@[simp] theorem skip_space (ts : List Token) : skip (space :: ts) = skip ts :=
  skip_idle (by decide) ts

@[simp] theorem skip_mark (c : Char) (ts : List Token) : skip (mark c :: ts) = mark c :: ts :=
  skip_significant rfl ts

theorem skip_name {text : Text} (name : Name text) (ts : List Token) :
    skip (nameToken text :: ts) = nameToken text :: ts :=
  skip_significant (isSignificant_nameToken name) ts

@[simp] theorem after?_space (p : Token → Bool) (ts : List Token) :
    after? p (space :: ts) = after? p ts := by
  rw [after?, skip_space, ← after?]

@[simp] theorem after?_mark (p : Token → Bool) (c : Char) (ts : List Token) :
    after? p (mark c :: ts) = if p (mark c) then some ts else none := by
  rw [after?, skip_mark]

theorem after?_name {text : Text} (name : Name text) (p : Token → Bool) (ts : List Token) :
    after? p (nameToken text :: ts) = if p (nameToken text) then some ts else none := by
  rw [after?, skip_name name]

@[simp] theorem isMark_mark (c d : Char) : isMark c (mark d) = (d == c) := by
  simp [isMark, mark]

theorem isMark_nameToken (c : Char) (text : Text) : isMark c (nameToken text) = false := by
  rcases nameToken_kind text with kind | kind <;> rw [isMark, kind] <;> rfl

theorem isSemicolon_nameToken (text : Text) : (nameToken text).isSemicolon = false :=
  isMark_nameToken ';' text

@[simp] theorem isMark_space (c : Char) : isMark c space = false := rfl

theorem isWord_nameToken (word : String) (text : Text) :
    isWord word (nameToken text) = (upper text == word.toList) := by
  rcases nameToken_kind text with kind | kind <;> rw [isWord, kind] <;> rfl

theorem takeName?_space (ts : List Token) : takeName? (space :: ts) = takeName? ts := by
  rw [takeName?, skip_space, ← takeName?]

theorem takeName?_name {text : Text} (name : Name text) (ts : List Token) :
    takeName? (nameToken text :: ts) = some (text, ts) := by
  rw [takeName?, skip_name name]
  simp [name?_nameToken name]

theorem name_iff (text : Text) : Name text ↔ text.all isNameChar = true ∧
    text.head?.any (fun c => !isBlank c && !c.isDigit && c != '$') = true := by
  constructor
  · rintro ⟨chars, c, cs, rfl, visible, digit, dollar⟩
    exact ⟨List.all_eq_true.2 chars, by simp [visible, digit, dollar]⟩
  · rintro ⟨chars, first⟩
    cases text with
    | nil => cases first
    | cons c cs =>
      simp only [List.head?_cons, Option.any_some, Bool.and_eq_true, Bool.not_eq_true',
        bne_iff_ne] at first
      exact ⟨List.all_eq_true.1 chars, c, cs, rfl, first.1.1, first.1.2, first.2⟩

instance (text : Text) : Decidable (Name text) := decidable_of_iff _ (name_iff text).symm

/-- Items with commas between them. -/
def listed (items : List (List Token)) : List Token := [mark ',', space].intercalate items

/-- The tokens with blanks and comments only around them. -/
theorem trimTokens_append {front back : List Token} (middle : List Token)
    (idle : ∀ u ∈ front, u.isSignificant = false) (idle' : ∀ u ∈ back, u.isSignificant = false)
    (first : ∀ u, middle.head? = some u → u.isSignificant = true)
    (last : ∀ u, middle.getLast? = some u → u.isSignificant = true) (some : middle ≠ []) :
    trimTokens (front ++ (middle ++ back)) = middle := by
  have drop {front rest : List Token} (idle : ∀ u ∈ front, u.isSignificant = false)
      (some : rest ≠ []) (first : ∀ u, rest.head? = .some u → u.isSignificant = true) :
      skip (front ++ rest) = rest := by
    obtain ⟨u, us, rfl⟩ := List.exists_cons_of_ne_nil some
    rw [skip, List.dropWhile_append_of_pos fun u member => by simp [idle u member]]
    exact skip_significant (first u rfl) us
  rw [trimTokens, drop idle (by simp [some]) ?_, List.reverse_append, drop ?_ (by simp [some]) ?_,
    List.reverse_reverse]
  · exact fun u member => idle' u (List.mem_reverse.1 member)
  · simpa using last
  · obtain ⟨u, us, rfl⟩ := List.exists_cons_of_ne_nil some
    exact first

theorem trimTokens_space (ts : List Token) : trimTokens (space :: ts) = trimTokens ts := by
  rw [trimTokens, skip_space, ← trimTokens]

theorem listed_cons (item second : List Token) (more : List (List Token)) :
    listed (item :: second :: more) = item ++ mark ',' :: space :: listed (second :: more) := by
  rw [listed, List.intercalate_cons_cons, List.append_assoc]
  rfl

theorem splitOnP_listed {items : List (List Token)} (some : items ≠ [])
    (bare : ∀ item ∈ items, ∀ t ∈ item, isMark ',' t = false) :
    ((listed items).splitOnP (isMark ',')).map trimTokens = items.map trimTokens := by
  induction items with
  | nil => exact absurd rfl some
  | cons item more ih =>
    obtain ⟨here, rest⟩ := List.forall_mem_cons.1 bare
    cases more with
    | nil =>
      rw [listed, List.intercalate_singleton, List.splitOnP_eq_singleton here]
    | cons second more =>
      have tail := ih (List.cons_ne_nil second more) rest
      rw [listed_cons, List.splitOnP_append_cons_of_forall_mem here _ (by decide),
        List.splitOnP_cons_eq_if_modifyHead, if_neg (by decide)]
      obtain ⟨first, others, shape⟩ := List.exists_cons_of_ne_nil
        (List.splitOnP_ne_nil (isMark ',') (listed (second :: more)))
      rw [shape] at tail ⊢
      rw [List.modifyHead_cons, List.map_cons, List.map_cons, trimTokens_space, ← List.map_cons,
        tail]
      rfl

/-- What holds of commas, of spaces and within the items. -/
theorem forall_listed {p : Token → Prop} {items : List (List Token)} (comma : p (mark ','))
    (blank : p space) (inside : ∀ item ∈ items, ∀ t ∈ item, p t) : ∀ t ∈ listed items, p t := by
  have between : ∀ t ∈ [mark ',', space], p t :=
    List.forall_mem_cons.2 ⟨comma, List.forall_mem_singleton.2 blank⟩
  intro t member
  rcases mem_intercalate member with here | ⟨item, within, here⟩
  · exact between t here
  · exact inside item within t here

/-- A list ends at its first closing parenthesis. -/
theorem takeList?_until {ts : List Token} (inside : ∀ t ∈ ts, isMark ')' t = false)
    (rest : List Token) : takeList? (mark '(' :: (ts ++ mark ')' :: rest)) =
      some ((ts.splitOnP (isMark ',')).map trimTokens, rest) := by
  have before : ∀ t ∈ ts, (!isMark ')' t) = true := fun t member => by simp [inside t member]
  have taken : (ts ++ mark ')' :: rest).takeWhile (!isMark ')' ·) = ts := by
    rw [List.takeWhile_append_of_pos before, List.takeWhile_cons_of_neg (by decide),
      List.append_nil]
  have left : (ts ++ mark ')' :: rest).dropWhile (!isMark ')' ·) = mark ')' :: rest := by
    rw [List.dropWhile_append_of_pos before, List.dropWhile_cons_of_neg (by decide)]
  rw [takeList?, after?_mark, if_pos (by decide), Option.bind_some]
  simp only [left, taken]

theorem takeList?_listed {items : List (List Token)} (some : items ≠ [])
    (bare : ∀ item ∈ items, ∀ t ∈ item, isMark ',' t = false ∧ isMark ')' t = false)
    (rest : List Token) : takeList? (mark '(' :: (listed items ++ mark ')' :: rest)) =
      .some (items.map trimTokens, rest) := by
  have inside : ∀ t ∈ listed items, isMark ')' t = false :=
    forall_listed (by decide) (by decide) fun item here t member => (bare item here t member).2
  rw [takeList?_until inside,
    splitOnP_listed some fun item here t member => (bare item here t member).1]

/-- A word of a statement, as it is written. -/
abbrev word (w : String) : Token := nameToken w.toList

/-- A creation up to its list of columns. -/
def createHead (table : Text) : List Token :=
  [word "CREATE", space, word "TABLE", space, word "IF", space, word "NOT", space, word "EXISTS",
   space, nameToken table, space, mark '(']

/-- An insertion up to its list of columns. -/
def insertHead (table : Text) : List Token :=
  [word "INSERT", space, word "INTO", space, nameToken table, space, mark '(']

/-- The rest of an insertion of one row, with as many placeholders. -/
def insertTail (places : Nat) : List Token :=
  [space, word "VALUES", space, mark '('] ++ (listed (List.replicate places [mark '?']) ++ [mark ')'])

def selectTokens (table : Text) : List Token :=
  [word "SELECT", space, mark '*', space, word "FROM", space, nameToken table]

variable {table : Text}

theorem afterWords?_cons (w : String) (ws : List String) (ts : List Token) :
    afterWords? (w :: ws) ts = (after? (isWord w) ts).bind (afterWords? ws) := rfl

@[simp] theorem afterWords?_nil (ts : List Token) : afterWords? [] ts = some ts := rfl

@[simp] theorem afterWords?_space (words : List String) (ts : List Token) (some : words ≠ []) :
    afterWords? words (space :: ts) = afterWords? words ts := by
  cases words with
  | nil => exact absurd rfl some
  | cons w ws => rw [afterWords?_cons, after?_space, ← afterWords?_cons]

/-- A word in capitals is read where it is called for. -/
theorem afterWords?_word {w : String} (formed : Name w.toList) (capitals : upper w.toList = w.toList)
    (ws : List String) (ts : List Token) :
    afterWords? (w :: ws) (word w :: ts) = afterWords? ws ts := by
  rw [afterWords?_cons, after?_name formed, isWord_nameToken, capitals, if_pos (beq_self_eq_true _)]
  rfl

/-- Another word is not read there. -/
theorem afterWords?_other {w v : String} (formed : Name v.toList)
    (other : (upper v.toList == w.toList) = false) (ws : List String) (ts : List Token) :
    afterWords? (w :: ws) (word v :: ts) = none := by
  rw [afterWords?_cons, after?_name formed, isWord_nameToken, other]
  rfl

theorem createTable?_other {v : String} (formed : Name v.toList)
    (other : (upper v.toList == "CREATE".toList) = false) (ts : List Token) :
    createTable? (word v :: ts) = none := by
  rw [createTable?, afterWords?_other formed other]
  rfl

theorem insert?_other {v : String} (formed : Name v.toList)
    (other : (upper v.toList == "INSERT".toList) = false) (ts : List Token) :
    insert? (word v :: ts) = none := by
  rw [insert?, afterWords?_other formed other]
  rfl

theorem selectAll?_other {v : String} (formed : Name v.toList)
    (other : (upper v.toList == "SELECT".toList) = false) (ts : List Token) :
    selectAll? (word v :: ts) = none := by
  rw [selectAll?, afterWords?_other formed other]
  rfl

theorem selectTableNames?_other {v : String} (formed : Name v.toList)
    (other : (upper v.toList == "SELECT".toList) = false) (ts : List Token) :
    selectTableNames? (word v :: ts) = none := by
  rw [selectTableNames?, afterWords?_other formed other]
  rfl

theorem selectLiterals?_other {v : String} (formed : Name v.toList)
    (other : (upper v.toList == "SELECT".toList) = false) (ts : List Token) :
    selectLiterals? (word v :: ts) = none := by
  rw [selectLiterals?, afterWords?_other formed other]
  rfl

/-- What begins with a word that begins no selection is a creation or an insertion. -/
theorem read?_other {v : String} (formed : Name v.toList)
    (other : (upper v.toList == "SELECT".toList) = false) (ts : List Token) :
    read? (word v :: ts) = (createTable? (word v :: ts)).or (insert? (word v :: ts)) := by
  rw [read?, selectAll?_other formed other, selectTableNames?_other formed other,
    selectLiterals?_other formed other]
  cases createTable? (word v :: ts) with
  | some s => rfl
  | none => cases insert? (word v :: ts) <;> rfl

theorem createTable?_head (name : Name table) (inner : List Token) :
    createTable? (createHead table ++ inner) = (takeList? (mark '(' :: inner)).bind fun list =>
      (list.1.mapM column?).bind fun columns =>
        if (skip list.2).isEmpty then some (.createTable table true columns) else none := by
  have first : afterWords? ["CREATE", "TABLE"] (createHead table ++ inner) =
      some ([space, word "IF", space, word "NOT", space, word "EXISTS", space, nameToken table,
        space, mark '('] ++ inner) := by
    simp (disch := decide) only [createHead, List.cons_append, List.nil_append, afterWords?_word,
      afterWords?_space, afterWords?_nil]
  have guard : afterWords? ["IF", "NOT", "EXISTS"] ([space, word "IF", space, word "NOT", space,
      word "EXISTS", space, nameToken table, space, mark '('] ++ inner) =
      some ([space, nameToken table, space, mark '('] ++ inner) := by
    simp (disch := decide) only [List.cons_append, List.nil_append, afterWords?_word,
      afterWords?_space, afterWords?_nil]
  have list : takeList? ([space, mark '('] ++ inner) = takeList? (mark '(' :: inner) := by
    rw [takeList?, List.cons_append, after?_space, List.singleton_append, ← takeList?]
  rw [createTable?, first, Option.bind_eq_bind, Option.bind_some, guard]
  simp only [Option.getD_some, Option.isSome_some, Option.bind_eq_bind]
  rw [List.cons_append, takeName?_space, List.cons_append, takeName?_name name, Option.bind_some,
    list]

theorem name_sqlName (type : ColumnType) : Name type.sqlName := by cases type <;> decide

/-- A column is a name and its type, with blanks and comments between them. -/
theorem column?_typed {text : Text} (name : Name text) {between : List Token}
    (idle : ∀ u ∈ between, u.isSignificant = false) (type : ColumnType) :
    column? (nameToken text :: (between ++ [space, nameToken type.sqlName])) =
      some ⟨text, type⟩ := by
  have rest : skip (between ++ [space, nameToken type.sqlName]) = [nameToken type.sqlName] := by
    rw [skip, List.dropWhile_append_of_pos fun u member => by simp [idle u member]]
    exact skip_name (name_sqlName type) []
  have found : ([ColumnType.integer, .real, .text].find? fun type' =>
      type'.sqlName == upper type.sqlName) = some type := by cases type <;> decide
  rw [column?, name?_nameToken name, rest]
  exact congrArg (Option.map fun type' => (⟨text, type'⟩ : Column)) found

/-- The name of a table that no point divides. -/
theorem takeTable?_name (name : Name table) {rest : List Token}
    (whole : after? (isMark '.') rest = none) :
    takeTable? (space :: nameToken table :: rest) = some (table, rest) := by
  simp only [takeTable?, takeName?_space, takeName?_name name, Option.bind_eq_bind,
    Option.bind_some, whole]
  rfl

theorem insert?_head (name : Name table) (inner : List Token) :
    insert? (insertHead table ++ inner) = (takeList? (mark '(' :: inner)).bind fun list =>
      (list.1.mapM columnName?).bind fun columns =>
        (afterWords? ["VALUES"] list.2).bind fun values =>
          (rows? values).bind fun rows => some (.insert table (some columns) rows) := by
  have first : afterWords? ["INSERT", "INTO"] (insertHead table ++ inner) =
      some ([space, nameToken table, space, mark '('] ++ inner) := by
    simp (disch := decide) only [insertHead, List.cons_append, List.nil_append, afterWords?_word,
      afterWords?_space, afterWords?_nil]
  have point : after? (isMark '.') ([space, mark '('] ++ inner) = none := by
    rw [List.cons_append, after?_space, List.singleton_append, after?_mark, if_neg (by decide)]
  have values : afterWords? ["VALUES"] ([space, mark '('] ++ inner) = none := by
    rw [List.cons_append, afterWords?_space _ _ (by simp), List.singleton_append, afterWords?_cons,
      after?_mark, if_neg (by decide)]
    rfl
  have list : takeList? ([space, mark '('] ++ inner) = takeList? (mark '(' :: inner) := by
    rw [takeList?, List.cons_append, after?_space, List.singleton_append, ← takeList?]
  have named : takeTable? ([space, nameToken table, space, mark '('] ++ inner) =
      some (table, [space, mark '('] ++ inner) := takeTable?_name name point
  simp only [insert?, first, named, values, list, Option.bind_eq_bind, Option.bind_some]
  rfl

theorem read?_createHead (table : Text) (inner : List Token) :
    read? (createHead table ++ inner) = createTable? (createHead table ++ inner) := by
  have other : insert? (createHead table ++ inner) = none :=
    insert?_other (by decide) (by decide) _
  have only : read? (createHead table ++ inner) =
      (createTable? (createHead table ++ inner)).or (insert? (createHead table ++ inner)) :=
    read?_other (by decide) (by decide) _
  rw [only, other, Option.or_none]

theorem read?_insertHead (table : Text) (inner : List Token) :
    read? (insertHead table ++ inner) = insert? (insertHead table ++ inner) := by
  have other : createTable? (insertHead table ++ inner) = none :=
    createTable?_other (by decide) (by decide) _
  have only : read? (insertHead table ++ inner) =
      (createTable? (insertHead table ++ inner)).or (insert? (insertHead table ++ inner)) :=
    read?_other (by decide) (by decide) _
  rw [only, other, Option.none_or]

theorem afterWords?_insertTail (places : Nat) : afterWords? ["VALUES"] (insertTail places) =
    some ([space, mark '('] ++ (listed (List.replicate places [mark '?']) ++ [mark ')'])) := by
  simp (disch := decide) only [insertTail, List.cons_append, List.nil_append, afterWords?_space,
    afterWords?_word, afterWords?_nil]

theorem rows?_places {places : Nat} (some : places ≠ 0) :
    rows? ([space, mark '('] ++ (listed (List.replicate places [mark '?']) ++ [mark ')'])) =
      .some [List.replicate places .parameter] := by
  have list : takeList? ([space, mark '('] ++ (listed (List.replicate places [mark '?']) ++
      [mark ')'])) = .some (List.replicate places [mark '?'], []) := by
    rw [takeList?, List.cons_append, after?_space, List.singleton_append, ← takeList?,
      takeList?_listed (by simpa using some), List.map_replicate]
    · rfl
    · intro item member t inside
      rw [List.eq_of_mem_replicate member, List.mem_singleton] at inside
      rw [inside]
      decide
  have operands : (List.replicate places [mark '?']).mapM operand? =
      .some (List.replicate places .parameter) := by
    clear some list
    induction places with
    | zero => rfl
    | succ n ih =>
      rw [List.replicate_succ, List.mapM_cons, ih]
      rfl
  rw [rows?]
  split
  · rename_i none
    rw [list] at none
    cases none
  · rename_i found
    rw [list] at found
    cases found
    rw [operands, Option.bind_some]
    rfl

theorem selectAll?_tokens (name : Name table) :
    selectAll? (selectTokens table) = some (.selectAll table none) := by
  have first : afterWords? ["SELECT"] (selectTokens table) =
      some [space, mark '*', space, word "FROM", space, nameToken table] := by
    simp (disch := decide) only [selectTokens, afterWords?_word, afterWords?_nil]
  have fromWord : afterWords? ["FROM"] [space, word "FROM", space, nameToken table] =
      some [space, nameToken table] := by
    simp (disch := decide) only [afterWords?_space, afterWords?_word, afterWords?_nil]
  have star : after? (isMark '*') [space, mark '*', space, word "FROM", space, nameToken table] =
      some [space, word "FROM", space, nameToken table] := by
    rw [after?_space, after?_mark, if_pos (by decide)]
  have named : takeTable? [space, nameToken table] = some (table, []) := takeTable?_name name rfl
  rw [selectAll?, first, Option.bind_eq_bind, Option.bind_some, star, Option.bind_some, fromWord,
    Option.bind_some, named]
  rfl

end QueryDesk.Store.Statement
