import QueryDesk.Proofs.Store.Listing

/-!
# A list with types before its commas

A creation and an insertion list the same headers, the one with a type behind each. Up to the last
comma that is a text with a type before every comma (`TypedText`), also where the comma stands in a
comment. It has the same elements (`TypedTokens`), so its items cannot be names alone in the one
list and names with types in the other (`untyped_last`).
-/

set_option autoImplicit false

namespace QueryDesk.Store.Statement

open Text Sql Csv

/-- The second text is the first with a type before every comma. -/
inductive TypedText : Text → Text → Prop
  | nil : TypedText [] []
  | comma (type : ColumnType) {t u : Text} : TypedText t u →
      TypedText (',' :: t) (' ' :: (type.sqlName ++ ',' :: u))
  | other {c : Char} {t u : Text} : c ≠ ',' → TypedText t u → TypedText (c :: t) (c :: u)

variable {t u : Text}

theorem TypedText.append {t' u' : Text} (typed : TypedText t u) (typed' : TypedText t' u') :
    TypedText (t ++ t') (u ++ u') := by
  induction typed with
  | nil => exact typed'
  | comma type _ ih =>
    have whole := TypedText.comma type ih
    simpa only [List.cons_append, List.append_assoc] using whole
  | other bare _ ih => exact .other bare ih

theorem TypedText.split {a b : Text} (typed : TypedText (a ++ b) u) :
    ∃ a' b', u = a' ++ b' ∧ TypedText a a' ∧ TypedText b b' := by
  induction a generalizing u with
  | nil => exact ⟨[], u, rfl, .nil, typed⟩
  | cons c cs ih =>
    cases typed with
    | comma type rest =>
      obtain ⟨a', b', rfl, front, back⟩ := ih rest
      exact ⟨' ' :: (type.sqlName ++ ',' :: a'), b', by simp, .comma type front, back⟩
    | other bare rest =>
      obtain ⟨a', b', rfl, front, back⟩ := ih rest
      exact ⟨c :: a', b', rfl, .other bare front, back⟩

theorem typedText_self (bare : ',' ∉ t) : TypedText t t := by
  induction t with
  | nil => exact .nil
  | cons c cs ih =>
    exact .other (List.ne_of_not_mem_cons bare).symm (ih (List.not_mem_of_not_mem_cons bare))

theorem TypedText.eq_of_bare (typed : TypedText t u) (bare : ',' ∉ t) : u = t := by
  induction typed with
  | nil => rfl
  | comma => exact absurd List.mem_cons_self bare
  | other _ _ ih => exact congrArg _ (ih fun member => bare (List.mem_cons_of_mem _ member))

/-- A text in which no star stands has no end of a comment. -/
theorem infix_of_append {a : Text} (bare : '*' ∉ a) (ends : ['*', '/'] <:+: a ++ u) :
    ['*', '/'] <:+: u := by
  induction a with
  | nil => exact ends
  | cons c cs ih =>
    rcases List.infix_cons_iff.1 ends with here | there
    · exact absurd (List.cons_prefix_cons.1 here).1 (List.ne_of_not_mem_cons bare)
    · exact ih (List.not_mem_of_not_mem_cons bare) there

/-- Types end no comment. -/
theorem TypedText.closes (typed : TypedText t u) (ends : ['*', '/'] <:+: u) :
    ['*', '/'] <:+: t := by
  induction typed with
  | nil => exact ends
  | @comma type t u _ ih =>
    have plain : '*' ∉ ' ' :: (type.sqlName ++ [',']) := by cases type <;> decide
    have shape : ' ' :: (type.sqlName ++ ',' :: u) = (' ' :: (type.sqlName ++ [','])) ++ u := by
      simp
    rw [shape] at ends
    exact (ih (infix_of_append plain ends)).trans (List.suffix_cons _ _).isInfix
  | @other c t u _ typed ih =>
    rcases List.infix_cons_iff.1 ends with here | there
    · obtain ⟨star, slash⟩ := List.cons_prefix_cons.1 here
      obtain ⟨rest, rfl⟩ := slash
      cases typed with
      | other _ typed =>
        exact List.infix_cons_iff.2 (.inl (List.cons_prefix_cons.2 ⟨star, ⟨_, rfl⟩⟩))
    · exact (ih there).trans (List.suffix_cons _ _).isInfix

/-- The columns of a creation are the headers with a type before every comma, and one at the end. -/
theorem typedText_join {headers : List Text} {types : List ColumnType} (some : headers ≠ [])
    (typed : types.length = headers.length) (bare : ∀ header ∈ headers, ',' ∉ header) :
    ∃ (u : Text) (type : ColumnType),
      join [',', ' '] (typedColumns headers types) = u ++ ' ' :: type.sqlName ∧
        TypedText (join [',', ' '] headers) u := by
  induction headers generalizing types with
  | nil => exact absurd rfl some
  | cons header more ih =>
    obtain ⟨here, rest⟩ := List.forall_mem_cons.1 bare
    cases types with
    | nil => cases typed
    | cons type types =>
      cases more with
      | nil =>
        cases types with
        | cons => cases typed
        | nil =>
          refine ⟨header, type, ?_, ?_⟩
          · simp [typedColumns, join]
          · rw [join, List.intercalate_singleton]
            exact typedText_self here
      | cons second more =>
        cases types with
        | nil => cases typed
        | cons type' types =>
          obtain ⟨u, last, shape, tail⟩ :=
            ih (List.cons_ne_nil second more) (Nat.succ.inj typed) rest
          refine ⟨header ++ (' ' :: (type.sqlName ++ ',' :: ' ' :: u)), last, ?_, ?_⟩
          · change join _ ((second ++ ' ' :: type'.sqlName) :: typedColumns more types) = _ at shape
            change join _ ((header ++ ' ' :: type.sqlName) :: (second ++ ' ' :: type'.sqlName) ::
              typedColumns more types) = _
            rw [join, List.intercalate_cons_cons, ← join, shape]
            simp
          · rw [join, List.intercalate_cons_cons, List.append_assoc, ← join]
            exact (typedText_self here).append (.comma type (.other (by decide) tail))

/-- The second tokens are the first with a type before every comma. -/
inductive TypedTokens : List Token → List Token → Prop
  | nil : TypedTokens [] []
  | comma (type : ColumnType) {ts us : List Token} : TypedTokens ts us →
      TypedTokens (mark ',' :: ts) (space :: nameToken type.sqlName :: mark ',' :: us)
  | space {ts us : List Token} : TypedTokens ts us → TypedTokens (space :: ts) (space :: us)
  | remark {body body' : Text} {ts us : List Token} : ¬ ['*', '/'] <:+: body' ++ ['*'] →
      TypedTokens ts us → TypedTokens (remark body :: ts) (remark body' :: us)
  | name {text : Text} {ts us : List Token} : Name text → TypedTokens ts us →
      TypedTokens (nameToken text :: ts) (nameToken text :: us)

variable {ts us : List Token}

theorem exists_typedTokens (elements : ∀ t ∈ ts, Element t)
    (typed : TypedText (Token.concat ts) u) : ∃ us, Token.concat us = u ∧ TypedTokens ts us := by
  induction ts generalizing u with
  | nil =>
    cases typed
    exact ⟨[], rfl, .nil⟩
  | cons t ts ih =>
    obtain ⟨element, rest⟩ := List.forall_mem_cons.1 elements
    rw [Token.concat, List.flatMap_cons, ← Token.concat] at typed
    obtain ⟨front, back, rfl, head, tail⟩ := typed.split
    obtain ⟨us, rfl, tokens⟩ := ih rest tail
    cases element with
    | comma =>
      cases head with
      | comma type none =>
        cases none
        refine ⟨_, ?_, .comma type tokens⟩
        simp [Token.concat, nameToken, mark, Statement.space]
      | other bare => exact absurd rfl bare
    | space =>
      obtain rfl := head.eq_of_bare (by decide)
      exact ⟨_, rfl, .space tokens⟩
    | name named =>
      have bare : ',' ∉ (nameToken _).text := fun member => by
        have name := named.chars ',' member
        cases name
      obtain rfl := head.eq_of_bare bare
      exact ⟨_, rfl, .name named tokens⟩
    | @remark body first =>
      obtain ⟨opening, more, rfl, start, inside⟩ := TypedText.split
        (show TypedText (['/', '*'] ++ (body ++ ['*', '/'])) front from head)
      obtain ⟨body', closing, rfl, middle, stop⟩ := inside.split
      obtain rfl := start.eq_of_bare (by decide)
      obtain rfl := stop.eq_of_bare (by decide)
      have closed : ¬ ['*', '/'] <:+: body' ++ ['*'] := fun ends =>
        first ((middle.append (typedText_self (t := ['*']) (by decide))).closes ends)
      exact ⟨_, rfl, .remark closed tokens⟩

/-- What ends a name in the list ends it also where a type comes before the comma. -/
theorem TypedTokens.stops (typed : TypedTokens ts us) {after after' : Text}
    (stops : Stops (Token.concat ts ++ after)) (stops' : Stops after') :
    Stops (Token.concat us ++ after') := by
  cases typed with
  | nil => exact stops'
  | comma => exact stops_cons (by decide) _
  | space => exact stops_cons (by decide) _
  | remark => exact stops_cons (by decide) _
  | name named =>
    obtain ⟨c, cs, rfl, -⟩ := named.begins
    have other := (stops c rfl).1
    rw [named.chars c List.mem_cons_self] at other
    cases other

theorem TypedTokens.regular (typed : TypedTokens ts us) {after after' : Text}
    (regular : Regular ts after) (stops : Stops after') : Regular us after' := by
  induction typed with
  | nil => trivial
  | comma type _ ih =>
    exact regular_space (regular_name (name_sqlName type) (stops_cons (by decide) _)
      (regular_mark (by decide) (by decide) (by decide) (ih regular.2.2)))
  | space _ ih => exact regular_space (ih regular.2.2)
  | remark closed _ ih => exact regular_remark closed (ih regular.2.2)
  | name named typed ih =>
    exact regular_name named (typed.stops (regular.2.1 (isNamePart_nameToken named)) stops)
      (ih regular.2.2)

theorem TypedTokens.bare (typed : TypedTokens ts us) :
    ∀ t ∈ us, isMark ')' t = false ∧ t.isSemicolon = false := by
  induction typed with
  | nil => exact List.forall_mem_nil _
  | comma type _ ih =>
    exact List.forall_mem_cons.2 ⟨⟨rfl, rfl⟩, List.forall_mem_cons.2
      ⟨⟨isMark_nameToken _ _, isSemicolon_nameToken _⟩, List.forall_mem_cons.2 ⟨⟨rfl, rfl⟩, ih⟩⟩⟩
  | space _ ih => exact List.forall_mem_cons.2 ⟨⟨rfl, rfl⟩, ih⟩
  | remark _ _ ih => exact List.forall_mem_cons.2 ⟨⟨rfl, rfl⟩, ih⟩
  | name _ _ ih =>
    exact List.forall_mem_cons.2 ⟨⟨isMark_nameToken _ _, isSemicolon_nameToken _⟩, ih⟩

/-- The commas are the same, and for each of them there is a type more. -/
theorem TypedTokens.counts (typed : TypedTokens ts us) :
    us.countP (isMark ',') = ts.countP (isMark ',') ∧
      us.countP Token.isSignificant =
        ts.countP Token.isSignificant + ts.countP (isMark ',') := by
  induction typed with
  | nil => exact ⟨rfl, rfl⟩
  | comma type _ ih =>
    have comma : isMark ',' (mark ',') = true := by decide
    have seen := isSignificant_nameToken (name_sqlName type)
    have spaced : Token.isSignificant Statement.space = false := by decide
    have marked : (mark ',').isSignificant = true := rfl
    simp only [List.countP_cons, isMark_space, isMark_nameToken, comma, seen, spaced, marked]
    simp
    omega
  | space _ ih =>
    have spaced : Token.isSignificant Statement.space = false := by decide
    simp only [List.countP_cons, isMark_space, spaced]
    simpa using ih
  | @remark body body' _ _ _ _ ih =>
    have none (body : Text) : isMark ',' (Statement.remark body) = false := rfl
    have idle (body : Text) : (Statement.remark body).isSignificant = false := rfl
    simp only [List.countP_cons, none, idle]
    simpa using ih
  | name named _ ih =>
    simp only [List.countP_cons, isMark_nameToken, isSignificant_nameToken named]
    simp
    omega

/-- Where the items of a list are names alone, those of the list with types are not all names with
types: the last has none. -/
theorem untyped_last (typed : TypedTokens ts us)
    (named : ∀ item ∈ ts.splitOnP (isMark ','), ∃ name, columnName? (trimTokens item) = some name) :
    ¬ ∀ item ∈ us.splitOnP (isMark ','), ∃ column, column? (trimTokens item) = some column := by
  intro defined
  obtain ⟨commas, counted⟩ := typed.counts
  have names := countP_of_items (n := 1) fun item member => by
    obtain ⟨name, read⟩ := named item member
    exact countP_columnName? read
  have columns := countP_of_items (n := 2) fun item member => by
    obtain ⟨column, read⟩ := defined item member
    exact countP_column? read
  omega

end QueryDesk.Store.Statement
