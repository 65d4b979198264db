import QueryDesk.Proofs.Store.Batches
import QueryDesk.Proofs.Store.Loading

/-!
# Lists of columns that are read

What stands in parentheses and is read as a list of columns is made of commas, blanks, closed
comments and names (`Element`), and its text is read in no other way (`regular_of_joined`).
-/

set_option autoImplicit false

namespace QueryDesk.Store.Statement

open Text Sql

variable {t : Token} {ts us : List Token}

/-- A token that does not count is a comment or blank. -/
theorem idle_kind (idle : t.isSignificant = false) :
    t.kind = .comment ∨ t.kind = .plain ∧ AllBlank t.text := by
  unfold Token.isSignificant at idle
  split at idle
  case h_1 comment => exact .inl comment
  case h_2 plain => exact .inr ⟨plain, by simpa [allBlank, AllBlank] using idle⟩
  case h_3 => cases idle

/-- The first of the joined tokens, with the tokens it is made of. A part of a name is joined with
all parts that follow it. -/
theorem exists_parts (shape : joined us = t :: ts) : ∃ p ps rest, us = p :: ps ++ rest ∧
    Token.concat (p :: ps) = t.text ∧ joined rest = ts ∧
    (ps = [] ∧ p = t ∨ isNamePart t = true ∧ t.kind = .plain) ∧
    (isNamePart t = true → ts.head?.any isNamePart = false) := by
  induction us generalizing t ts with
  | nil => cases shape
  | cons u us ih =>
    rw [joined_cons] at shape
    cases rest : joined us with
    | nil =>
      rw [rest] at shape
      cases shape
      exact ⟨u, [], us, rfl, List.append_nil _, rest, .inl ⟨rfl, rfl⟩, fun _ => rfl⟩
    | cons v vs =>
      rw [rest, joinName] at shape
      split at shape
      case isTrue both =>
        obtain ⟨part, part'⟩ := Bool.and_eq_true_iff.1 both
        obtain ⟨p, ps, behind, rfl, text, read, -, apart⟩ := ih rest
        cases shape
        exact ⟨u, p :: ps, behind, rfl, congrArg (u.text ++ ·) text, read,
          .inr ⟨isNamePart_append part part', rfl⟩, fun _ => apart part'⟩
      case isFalse apart =>
        cases shape
        refine ⟨u, [], us, rfl, List.append_nil _, rest, .inl ⟨rfl, rfl⟩, fun part => ?_⟩
        rw [part] at apart
        exact Bool.eq_false_iff.2 apart

/-- The first of the joined tokens of a text, and what stands behind it. -/
theorem exists_front {source : Text} (shape : joined (Token.wordwise source) = t :: ts) :
    ∃ p ps rest, Token.concat (p :: ps) = t.text ∧ source = t.text ++ rest ∧
      joined (Token.wordwise rest) = ts ∧
      (ps = [] ∧ p = t ∨ isNamePart t = true ∧ t.kind = .plain) ∧
      (isNamePart t = true → ts.head?.any isNamePart = false) ∧
      Obeys [] [] p (Token.concat ps ++ rest) := by
  have whole := Token.concat_wordwise source
  have stands := Token.stands_wordwise source
  obtain ⟨p, ps, us, cut, text, read, single, apart⟩ := exists_parts shape
  rw [cut] at whole stands
  rw [Token.concat_append, text] at whole
  have tail : Token.wordwise (Token.concat us) = us := Token.wordwise_eq_iff.2 ⟨rfl, stands.rest⟩
  have first : Obeys [] [] p (Token.concat (ps ++ us)) := stands.1
  rw [Token.concat_append] at first
  exact ⟨p, ps, Token.concat us, text, whole.symm, by rw [tail, read], single, apart, first⟩

inductive Element : Token → Prop
  | comma : Element (mark ',')
  | space : Element space
  | remark {body : Text} : ¬ ['*', '/'] <:+: body ++ ['*'] → Element (remark body)
  | name {text : Text} : Name text → Element (nameToken text)

theorem Element.part (element : Element t) : Part t := by
  cases element with
  | comma => exact .mark (by decide) (by decide) (by decide)
  | space => exact .space
  | remark first => exact .remark first
  | name named => exact .name named

/-- What is not part of a name ends one. -/
theorem Element.stops (element : Element t) (other : isNamePart t = false) (rest : Text) :
    Stops (t.text ++ rest) := by
  cases element with
  | comma => exact stops_cons (by decide) _
  | space => exact stops_cons (by decide) _
  | remark => exact stops_cons (by decide) _
  | name named =>
    rw [isNamePart_nameToken named] at other
    cases other

/-- A comment that something follows is closed, if no line ends in it. -/
theorem remark_of_obeys {after : Text} (obeys : Obeys [] [] t after) (comment : t.kind = .comment)
    (more : after ≠ []) (one : '\n' ∉ t.text) :
    ∃ body, ¬ ['*', '/'] <:+: body ++ ['*'] ∧ t = remark body := by
  obtain ⟨rule, taken, -⟩ := obeys
  cases taken with
  | @lineComment _ body => exact absurd (by simp) one
  | lineCommentToEnd => exact absurd rfl more
  | @blockComment _ body _ first => exact ⟨body, first, rfl⟩
  | blockCommentToEnd => exact absurd rfl more
  | phrase member => cases member
  | @word _ lexeme =>
    change Token.wordKind lexeme = .comment at comment
    unfold Token.wordKind at comment
    split at comment <;> cases comment
  | @single _ _ c =>
    change (if isPunctuation c then TokenKind.punctuation else .plain) = _ at comment
    split at comment <;> cases comment
  | _ => cases comment

/-- Spaces are read one by one. -/
theorem space_of_obeys {after : Text} (obeys : Obeys [] [] t after) (plain : t.kind = .plain)
    (spaces : ∀ c ∈ t.text, c = ' ') : t = space := by
  obtain ⟨rule, taken, -⟩ := obeys
  cases taken with
  | phrase member => cases member
  | @word _ lexeme _ full inside =>
    obtain ⟨c, cs, rfl⟩ := List.exists_cons_of_ne_nil full
    have letter := inside c List.mem_cons_self
    rw [spaces c List.mem_cons_self] at letter
    cases letter
  | @single _ _ c =>
    obtain rfl := spaces c List.mem_cons_self
    rfl
  | _ => cases plain

/-- What a token of a list can be, as it is seen by a reader. -/
def Listable (t : Token) : Prop :=
  t = mark ',' ∨ t.isSignificant = false ∨ (name? t).isSome = true

/-- No character is blank but the space. -/
def Spacious (text : Text) : Prop := ∀ c ∈ text, isBlank c = true → c = ' '

/-- A token that is seen as a name is one. -/
theorem name_of_isSome (read : (name? t).isSome = true) (full : t.text ≠ [])
    (spacious : Spacious t.text) : isNamePart t = true ∧ Name t.text := by
  rw [name?] at read
  split at read
  case isFalse => cases read
  case isTrue both =>
    obtain ⟨part, begins⟩ := Bool.and_eq_true_iff.1 both
    obtain ⟨c, cs, shape⟩ := List.exists_cons_of_ne_nil full
    have names := List.all_eq_true.1 (all_isNameChar part)
    have member : c ∈ t.text := by simp [shape]
    have visible : isBlank c = false := by
      refine Bool.eq_false_iff.2 fun blank => ?_
      have name := names c member
      rw [spacious c member blank] at name
      cases name
    have first : c.isDigit = false ∧ c ≠ '$' := by simpa [shape] using begins
    exact ⟨part, names, c, cs, shape, visible, first⟩

/-- A token of a list, at the front of its text. -/
theorem element_of_listable {p : Token} {ps : List Token} {after : Text}
    (listable : Listable t) (text : Token.concat (p :: ps) = t.text) (full : p.text ≠ [])
    (single : ps = [] ∧ p = t ∨ isNamePart t = true ∧ t.kind = .plain) (obeys : Obeys [] [] p after)
    (more : after ≠ []) (spacious : Spacious t.text)
    (read : isNamePart t = true → Name t.text → t = nameToken t.text) : Element t := by
  have full' : t.text ≠ [] := by
    rw [← text]
    exact List.append_ne_nil_of_left_ne_nil full _
  have one : '\n' ∉ t.text := fun member => absurd (spacious '\n' member (by decide)) (by decide)
  rcases listable with rfl | idle | name
  · exact .comma
  · rcases idle_kind idle with comment | ⟨plain, blank⟩
    · rcases single with ⟨rfl, rfl⟩ | ⟨-, plain⟩
      · obtain ⟨body, first, rfl⟩ := remark_of_obeys obeys comment more one
        exact .remark first
      · cases comment.symm.trans plain
    · have spaces : ∀ c ∈ t.text, c = ' ' := fun c member => spacious c member (blank c member)
      rcases single with ⟨rfl, rfl⟩ | ⟨part, -⟩
      · rw [space_of_obeys obeys plain spaces]
        exact .space
      · obtain ⟨c, cs, shape⟩ := List.exists_cons_of_ne_nil full'
        have member : c ∈ t.text := by simp [shape]
        have name := List.all_eq_true.1 (all_isNameChar part) c member
        rw [spaces c member] at name
        cases name
  · obtain ⟨part, named⟩ := name_of_isSome name full' spacious
    rw [read part named]
    exact .name named

/-- Tokens up to a parenthesis that are seen as a list are the elements of one, and stand in the
text as they are. -/
theorem regular_of_joined {source : Text} {more : List Token} (spacious : Spacious source)
    (shape : joined (Token.wordwise source) = ts ++ mark ')' :: more)
    (listable : ∀ t ∈ ts, Listable t) :
    ∃ rest, source = Token.concat ts ++ ')' :: rest ∧ more = joined (Token.wordwise rest) ∧
      (∀ t ∈ ts, Element t) ∧ Regular ts (')' :: rest) := by
  induction ts generalizing source with
  | nil =>
    obtain ⟨p, ps, rest, -, whole, read, -⟩ := exists_front shape
    exact ⟨rest, whole, read.symm, List.forall_mem_nil _, trivial⟩
  | cons t ts ih =>
    obtain ⟨listable, others⟩ := List.forall_mem_cons.1 listable
    obtain ⟨p, ps, behind, text, rfl, read, single, apart, obeys⟩ := exists_front shape
    obtain ⟨here, there⟩ := List.forall_mem_append.1 spacious
    obtain ⟨rest, rfl, tail, elements, regular⟩ := ih there read others
    -- A name ends here: what stands next is not part of one.
    have stops : isNamePart t = true → Stops (Token.concat ts ++ ')' :: rest) := by
      intro part
      cases ts with
      | nil => exact stops_cons (by decide) _
      | cons v vs =>
        rw [Token.concat, List.flatMap_cons, List.append_assoc]
        exact (elements v List.mem_cons_self).stops (apart part) _
    have element : Element t := by
      refine element_of_listable listable text (obeys.ne_nil Phrase.table_nil) single obeys
        (by simp) here fun part named => ?_
      have again := joined_name named (stops part)
      rw [shape] at again
      exact (List.cons.inj again).1
    refine ⟨rest, ?_, tail, List.forall_mem_cons.2 ⟨element, elements⟩, element.part, stops, regular⟩
    rw [← List.append_assoc]
    rfl

theorem eq_mark {c : Char} (is : isMark c t = true) : t = mark c := by
  obtain ⟨kind, text⟩ := Bool.and_eq_true_iff.1 is
  cases t
  exact congrArg₂ Token.mk (beq_iff_eq.1 kind) (beq_iff_eq.1 text)

/-- The items between the commas, put together again. -/
theorem intercalate_splitOnP (ts : List Token) :
    [mark ','].intercalate (ts.splitOnP (isMark ',')) = ts := by
  have same : isMark ',' = (· == mark ',') := by
    funext t
    rw [Bool.eq_iff_iff, beq_iff_eq]
    exact ⟨eq_mark, fun comma => comma ▸ isMark_mark ',' ','⟩
  rw [same, ← List.splitOn_eq_splitOnP, List.intercalate_splitOn]

/-- The separators and the same number in every item. -/
theorem countP_intercalate {α : Type} {q : α → Bool} {c : α} {n : Nat} {pieces : List (List α)}
    (sep : q c = true) (some : pieces ≠ []) (each : ∀ piece ∈ pieces, piece.countP q = n) :
    ([c].intercalate pieces).countP q + 1 = pieces.length * (n + 1) := by
  induction pieces with
  | nil => exact absurd rfl some
  | cons piece more ih =>
    obtain ⟨here, rest⟩ := List.forall_mem_cons.1 each
    cases more with
    | nil =>
      rw [List.intercalate_singleton, here, List.length_singleton, Nat.one_mul]
    | cons second more =>
      have tail := ih (List.cons_ne_nil second more) rest
      rw [List.intercalate_cons_cons, List.countP_append, List.countP_append, here,
        List.countP_singleton, if_pos sep, List.length_cons, Nat.succ_mul, ← tail]
      omega

theorem length_splitOnP (ts : List Token) :
    (ts.splitOnP (isMark ',')).length = ts.countP (isMark ',') + 1 := by
  have none : ∀ piece ∈ ts.splitOnP (isMark ','), piece.countP (isMark ',') = 0 :=
    fun piece member => List.countP_eq_zero.2 fun t inside => by
      simp [bare_splitOnP ts piece member t inside]
  have count := countP_intercalate (isMark_mark ',' ',') (List.splitOnP_ne_nil _ ts) none
  rw [intercalate_splitOnP] at count
  omega

/-- The tokens that count are those of the items and the commas between them. -/
theorem countP_of_items {n : Nat}
    (each : ∀ item ∈ ts.splitOnP (isMark ','), item.countP Token.isSignificant = n) :
    ts.countP Token.isSignificant + 1 = (ts.countP (isMark ',') + 1) * (n + 1) := by
  have count := countP_intercalate (c := mark ',') rfl (List.splitOnP_ne_nil _ ts) each
  rw [intercalate_splitOnP, length_splitOnP] at count
  exact count

theorem skip_split (ts : List Token) : ∃ front, ts = front ++ skip ts ∧
    (∀ u ∈ front, Token.isSignificant u = false) ∧
      ∀ u, (skip ts).head? = some u → u.isSignificant = true := by
  refine ⟨ts.takeWhile fun t => !t.isSignificant, ?_, fun u member => ?_, fun u first => ?_⟩
  · exact List.takeWhile_append_dropWhile.symm
  · simpa using List.all_eq_true.1 List.all_takeWhile u member
  · have kept := List.head?_dropWhile_not (fun t : Token => !t.isSignificant) ts
    rw [← skip, first] at kept
    simpa using kept

theorem skip_eq (ts : List Token) : ∃ back, skip ts = trimTokens ts ++ back ∧
    ∀ u ∈ back, Token.isSignificant u = false := by
  obtain ⟨back, shape, idle, -⟩ := skip_split (skip ts).reverse
  refine ⟨back.reverse, ?_, fun u member => idle u (List.mem_reverse.1 member)⟩
  have whole := congrArg List.reverse shape
  rw [List.reverse_reverse, List.reverse_append] at whole
  exact whole

theorem trimTokens_split (ts : List Token) : ∃ front back, ts = front ++ (trimTokens ts ++ back) ∧
    (∀ u ∈ front, Token.isSignificant u = false) ∧ (∀ u ∈ back, Token.isSignificant u = false) := by
  obtain ⟨front, shape, idle, -⟩ := skip_split ts
  obtain ⟨back, shape', idle'⟩ := skip_eq ts
  exact ⟨front, back, by rw [← shape', ← shape], idle, idle'⟩

theorem head_trimTokens {u : Token} (first : (trimTokens ts).head? = some u) :
    u.isSignificant = true := by
  obtain ⟨-, -, -, seen⟩ := skip_split ts
  obtain ⟨back, shape, -⟩ := skip_eq ts
  refine seen u ?_
  rw [shape, List.head?_append, first]
  rfl

theorem countP_idle {front : List Token} (idle : ∀ u ∈ front, Token.isSignificant u = false) :
    front.countP Token.isSignificant = 0 :=
  List.countP_eq_zero.2 fun u member => by simp [idle u member]

theorem countP_skip (ts : List Token) :
    (skip ts).countP Token.isSignificant = ts.countP Token.isSignificant := by
  obtain ⟨front, shape, idle, -⟩ := skip_split ts
  conv => rhs; rw [shape]
  rw [List.countP_append, countP_idle idle, Nat.zero_add]

theorem countP_trimTokens (ts : List Token) :
    (trimTokens ts).countP Token.isSignificant = ts.countP Token.isSignificant := by
  obtain ⟨front, back, shape, idle, idle'⟩ := trimTokens_split ts
  conv => rhs; rw [shape]
  rw [List.countP_append, List.countP_append, countP_idle idle, countP_idle idle', Nat.zero_add,
    Nat.add_zero]

/-- A column that is named has one token that counts. -/
theorem countP_columnName? {item : List Token} {name : Text}
    (read : columnName? (trimTokens item) = some name) : item.countP Token.isSignificant = 1 := by
  rw [← countP_trimTokens]
  unfold columnName? at read
  split at read
  case h_1 n shape =>
    have seen : n.isSignificant = true := head_trimTokens (by rw [shape]; rfl)
    rw [shape, List.countP_singleton, if_pos seen]
  case h_2 => cases read

/-- A column that is defined has two tokens that count: its name and its type. -/
theorem countP_column? {item : List Token} {column : Column}
    (read : column? (trimTokens item) = some column) : item.countP Token.isSignificant = 2 := by
  rw [← countP_trimTokens]
  unfold column? at read
  split at read
  case h_1 n ts shape =>
    split at read
    case h_1 type _ last =>
      have seen : n.isSignificant = true := head_trimTokens (by rw [shape]; rfl)
      obtain ⟨-, -, -, seen'⟩ := skip_split ts
      have typed : type.isSignificant = true := seen' type (by rw [last]; rfl)
      rw [shape, List.countP_cons, if_pos seen, ← countP_skip, last, List.countP_singleton,
        if_pos typed]
    case h_2 => cases read
  case h_2 => cases read

theorem columnName?_eq_some {item : List Token} {name : Text}
    (read : columnName? item = some name) : ∃ x, item = [x] ∧ name? x = some name := by
  unfold columnName? at read
  split at read
  case h_1 x => exact ⟨x, rfl, read⟩
  case h_2 => cases read

theorem listable_of_items (read : ∀ item ∈ ts.splitOnP (isMark ','), ∃ name,
    columnName? (trimTokens item) = some name) : ∀ t ∈ ts, Listable t := by
  intro t member
  rw [← intercalate_splitOnP ts] at member
  rcases mem_intercalate member with comma | ⟨item, member, inside⟩
  · exact .inl (List.mem_singleton.1 comma)
  · obtain ⟨name, read⟩ := read item member
    obtain ⟨x, one, named⟩ := columnName?_eq_some read
    obtain ⟨front, back, shape, idle, idle'⟩ := trimTokens_split item
    rw [shape, one] at inside
    rcases List.mem_append.1 inside with here | here
    · exact .inr (.inl (idle t here))
    · rcases List.mem_cons.1 here with rfl | here
      · exact .inr (.inr (by rw [named]; rfl))
      · exact .inr (.inl (idle' t here))

/-- An element without a blank that does not count is a comment. -/
theorem Element.remark_of_idle (element : Element t) (idle : t.isSignificant = false)
    (solid : ∀ c ∈ t.text, isBlank c = false) :
    ∃ body, ¬ ['*', '/'] <:+: body ++ ['*'] ∧ t = Statement.remark body := by
  cases element with
  | comma => cases idle
  | space => cases solid ' ' (List.mem_singleton.2 rfl)
  | @remark body first => exact ⟨body, first, rfl⟩
  | name named =>
    rw [isSignificant_nameToken named] at idle
    cases idle

theorem Element.eq_nameToken (element : Element t) {name : Text} (read : name? t = some name) :
    Name name ∧ t = nameToken name := by
  cases element with
  | comma => cases read
  | space => cases read
  | remark => cases read
  | name named =>
    rw [name?_nameToken named] at read
    cases read
    exact ⟨named, rfl⟩

/-- An item without blanks that is read as a name is one, with closed comments around it. -/
theorem heading_of_elements {item : List Token} {name : Text} (elements : ∀ t ∈ item, Element t)
    (solid : ∀ c ∈ Token.concat item, isBlank c = false)
    (read : columnName? (trimTokens item) = some name) : Heading name item := by
  obtain ⟨x, one, named⟩ := columnName?_eq_some read
  obtain ⟨front, back, shape, idle, idle'⟩ := trimTokens_split item
  rw [one] at shape
  have inside {t : Token} (member : t ∈ item) : ∀ c ∈ t.text, isBlank c = false :=
    fun c here => solid c (List.mem_flatMap.2 ⟨t, member, here⟩)
  have remarks {us : List Token} (within : ∀ t ∈ us, t ∈ item)
      (idle : ∀ u ∈ us, Token.isSignificant u = false) : Remarks us := fun t member =>
    (elements t (within t member)).remark_of_idle (idle t member) (inside (within t member))
  have member : x ∈ item := by simp [shape]
  obtain ⟨formed, rfl⟩ := (elements x member).eq_nameToken named
  refine ⟨formed, front, back, shape, remarks ?_ idle, remarks ?_ idle'⟩
  · exact fun t here => shape ▸ List.mem_append_left _ here
  · exact fun t here => shape ▸ List.mem_append_right _ (List.mem_cons_of_mem _ here)

/-- A parenthesis in a list stands in a comment, which a slash closes. -/
theorem slash_of_paren {front back : Text} (elements : ∀ t ∈ ts, Element t)
    (shape : Token.concat ts = front ++ ')' :: back) : '/' ∈ back := by
  induction ts generalizing front with
  | nil => simp [Token.concat] at shape
  | cons t ts ih =>
    obtain ⟨element, rest⟩ := List.forall_mem_cons.1 elements
    rw [Token.concat, List.flatMap_cons, ← Token.concat] at shape
    rcases List.append_eq_append_iff.1 shape with ⟨more, rfl, tail⟩ | ⟨more, text, tail⟩
    · exact ih rest tail
    · cases more with
      | nil => exact ih rest (show Token.concat ts = [] ++ ')' :: back from tail.symm)
      | cons c cs =>
        obtain ⟨rfl, rfl⟩ := List.cons.inj tail
        refine List.mem_append_left _ ?_
        have paren : ')' ∈ t.text := by simp [text]
        cases element with
        | comma => exact absurd paren (by decide)
        | space => exact absurd paren (by decide)
        | name named =>
          have name := named.chars ')' paren
          cases name
        | @remark body =>
          have closed : (Statement.remark body).text =
              ('/' :: '*' :: (body ++ ['*'])) ++ ['/'] := by simp [Statement.remark]
          have last : (')' :: cs).getLast? = some '/' := by
            rw [← List.getLast?_append_cons front, ← text, closed, List.getLast?_concat]
          exact (List.mem_cons.1 (List.mem_of_getLast? last)).resolve_left (by decide)

/-- Where a text ends with a parenthesis and a list in front of one. They end together, or the list
within the text. -/
theorem exists_of_paren {text behind rest : Text} (elements : ∀ t ∈ ts, Element t)
    (slashless : '/' ∉ behind)
    (same : text ++ ')' :: behind = Token.concat ts ++ ')' :: rest) :
    ∃ back, text = Token.concat ts ++ back ∧
      (back = [] ∧ behind = rest ∨ ∃ more, back = ')' :: more) := by
  rcases List.append_eq_append_iff.1 same with ⟨more, front, back⟩ | ⟨more, front, back⟩
  · cases more with
    | nil =>
      rw [List.append_nil] at front
      exact ⟨[], by rw [front, List.append_nil], .inl ⟨rfl, (List.cons.inj back).2⟩⟩
    | cons c cs =>
      obtain ⟨rfl, rfl⟩ := List.cons.inj back
      exact absurd (List.mem_append_left _ (slash_of_paren elements front)) slashless
  · refine ⟨more, front, ?_⟩
    cases more with
    | nil => exact .inl ⟨rfl, (List.cons.inj back).2.symm⟩
    | cons c cs => exact .inr ⟨cs, by rw [(List.cons.inj back).1]⟩

end QueryDesk.Store.Statement
