import Mathlib.Data.List.Forall2
import QueryDesk.Proofs.Text.Classes

/-!
# What a text is cut into

The trimmed form of a text and its pieces between separators, each said without the function that
finds it: `trim_eq_iff` and `splitOn_eq_iff`.
-/

set_option autoImplicit false

namespace QueryDesk.Text

def AllBlank (t : Text) : Prop := ∀ c ∈ t, isBlank c = true

/-- No blank at either end. -/
structure Trimmed (t : Text) : Prop where
  front : t.head?.any isBlank = false
  back : t.getLast?.any isBlank = false

/-- The second text is the first without the blanks around it. -/
structure Trims (t u : Text) : Prop where
  cut : ∃ front back, AllBlank front ∧ AllBlank back ∧ t = front ++ (u ++ back)
  trimmed : Trimmed u

/-- A text is trimmed to what stands between characters of a class, if it neither begins nor ends
in the class. -/
theorem trimWhile_eq_iff {p : Char → Bool} (t u : Text) : trimWhile p t = u ↔
    (∃ front back, (∀ c ∈ front, p c = true) ∧ (∀ c ∈ back, p c = true) ∧
      t = front ++ (u ++ back)) ∧ u.head?.any p = false ∧ u.getLast?.any p = false := by
  constructor
  · rintro rfl
    refine ⟨⟨t.takeWhile p, ((t.dropWhile p).reverse.takeWhile p).reverse, inside_takeWhile, ?_,
      ?_⟩, trimWhile_stops p t⟩
    · exact fun c member => inside_takeWhile c (List.mem_reverse.1 member)
    · rw [trimWhile, ← List.reverse_append, List.takeWhile_append_dropWhile, List.reverse_reverse,
        List.takeWhile_append_dropWhile]
  · rintro ⟨⟨front, back, inside, inside', rfl⟩, first, last⟩
    have ends : ∀ c ∈ back.reverse, p c = true := by
      intro c member
      exact inside' c (List.mem_reverse.1 member)
    cases u with
    | nil =>
      have all : ∀ c ∈ front ++ ([] ++ back), p c = true := fun c member =>
        (List.mem_append.1 member).elim (inside c) (inside' c)
      have gone := dropWhile_run all (rfl : ([] : Text).head?.any p = false)
      rw [List.append_nil] at gone
      rw [trimWhile, gone]
      rfl
    | cons c cs =>
      have start : (front ++ (c :: cs ++ back)).dropWhile p = c :: cs ++ back :=
        dropWhile_run inside first
      have stop : (c :: cs ++ back).reverse.dropWhile p = (c :: cs).reverse := by
        rw [List.reverse_append]
        refine dropWhile_run ends ?_
        rw [List.head?_reverse]
        exact last
      rw [trimWhile, start, stop, List.reverse_reverse]

/-- A text that begins and ends otherwise is not trimmed. -/
theorem trimWhile_eq_self {p : Char → Bool} {t : Text} (front : t.head?.any p = false)
    (back : t.getLast?.any p = false) : trimWhile p t = t := by
  refine (trimWhile_eq_iff t t).2 ⟨⟨[], [], List.forall_mem_nil _, List.forall_mem_nil _, ?_⟩,
    front, back⟩
  rw [List.nil_append, List.append_nil]

theorem trim_eq_iff (t u : Text) : trim t = u ↔ Trims t u :=
  (trimWhile_eq_iff t u).trans ⟨fun parts => ⟨parts.1, parts.2.1, parts.2.2⟩,
    fun trims => ⟨trims.cut, trims.trimmed.front, trims.trimmed.back⟩⟩

theorem trims_trim (t : Text) : Trims t (trim t) := (trim_eq_iff t _).1 rfl

theorem trimmed_trim (t : Text) : Trimmed (trim t) := (trims_trim t).trimmed

theorem trim_of_allBlank {t : Text} (blank : AllBlank t) : trim t = [] := by
  refine (trim_eq_iff t []).2 ⟨⟨t, [], blank, List.forall_mem_nil _, ?_⟩, rfl, rfl⟩
  rw [List.append_nil, List.append_nil]

theorem ends_of_forall {p : Char → Bool} {t : Text} (none : ∀ c ∈ t, p c = false) :
    t.head?.any p = false ∧ t.getLast?.any p = false := by
  constructor
  · cases first : t.head? with
    | none => rfl
    | some c => exact none c (List.mem_of_head? first)
  · cases last : t.getLast? with
    | none => rfl
    | some c => exact none c (List.mem_of_getLast? last)

theorem trimmed_of_visible {t : Text} (visible : ∀ c ∈ t, isBlank c = false) : Trimmed t :=
  ⟨(ends_of_forall visible).1, (ends_of_forall visible).2⟩

theorem trim_eq_self {t : Text} (trimmed : Trimmed t) : trim t = t :=
  trimWhile_eq_self trimmed.front trimmed.back

theorem trim_trim (t : Text) : trim (trim t) = trim t := trim_eq_self (trimmed_trim t)

theorem mem_of_mem_trim {t : Text} {c : Char} (member : c ∈ trim t) : c ∈ t := by
  obtain ⟨front, back, -, -, whole⟩ := (trims_trim t).cut
  rw [whole]
  exact List.mem_append_right _ (List.mem_append_left _ member)

theorem trim_eq_nil_iff (t : Text) : trim t = [] ↔ AllBlank t := by
  refine ⟨fun empty c member => ?_, trim_of_allBlank⟩
  obtain ⟨front, back, blank, blank', whole⟩ := (trims_trim t).cut
  rw [empty, List.nil_append] at whole
  rw [whole] at member
  exact (List.mem_append.1 member).elim (blank c) (blank' c)

theorem trim_between {front t back : Text} (blank : AllBlank front) (blank' : AllBlank back) :
    trim (front ++ (t ++ back)) = trim t := by
  obtain ⟨⟨before, after, clear, clear', whole⟩, trimmed⟩ := trims_trim t
  refine (trim_eq_iff _ _).2 ⟨⟨front ++ before, after ++ back, ?_, ?_, ?_⟩, trimmed⟩
  · exact fun c member => (List.mem_append.1 member).elim (blank c) (clear c)
  · exact fun c member => (List.mem_append.1 member).elim (clear' c) (blank' c)
  · conv => lhs; rw [whole]
    simp only [List.append_assoc]

/-- Without the blanks at its ends, a text that begins and ends in others keeps what follows it but
for the blanks at the end. -/
theorem exists_trim_append {front t : Text} (blank : AllBlank front) (full : t ≠ [])
    (trimmed : Trimmed t) (after : Text) : ∃ kept back, AllBlank back ∧ after = kept ++ back ∧
      trim (front ++ (t ++ after)) = t ++ kept := by
  have parts : (after.reverse.dropWhile isBlank).reverse ++
      (after.reverse.takeWhile isBlank).reverse = after := by
    rw [← List.reverse_append, List.takeWhile_append_dropWhile, List.reverse_reverse]
  have stops := stops_dropWhile isBlank after.reverse
  have blank' : AllBlank (after.reverse.takeWhile isBlank).reverse :=
    fun c member => inside_takeWhile c (List.mem_reverse.1 member)
  rw [← List.getLast?_reverse] at stops
  generalize (after.reverse.dropWhile isBlank).reverse = kept at parts stops
  refine ⟨kept, _, blank', parts.symm, (trim_eq_iff _ _).2
    ⟨⟨front, _, blank, blank', ?_⟩, ?_, ?_⟩⟩
  · rw [List.append_assoc, parts]
  · rw [List.head?_append_of_ne_nil _ full]
    exact trimmed.front
  · rw [List.getLast?_append]
    cases last : kept.getLast? with
    | none => exact trimmed.back
    | some c =>
      rw [last] at stops
      exact stops

/-- The text is the pieces with a separator between neighbours, and no piece has one in it. -/
structure Pieces (separator : Char) (t : Text) (pieces : List Text) : Prop where
  some : pieces ≠ []
  bare : ∀ piece ∈ pieces, separator ∉ piece
  whole : join [separator] pieces = t

theorem splitOn_cons (separator c : Char) (t : Text) :
    (c :: t).splitOn separator = if c = separator then [] :: t.splitOn separator
      else (t.splitOn separator).modifyHead (c :: ·) := by
  simp only [List.splitOn_eq_splitOnP, List.splitOnP_cons_eq_if_modifyHead, beq_iff_eq]

theorem length_splitOn (separator : Char) (t : Text) :
    (t.splitOn separator).length = t.count separator + 1 := by
  induction t with
  | nil => rfl
  | cons c cs ih =>
    rw [splitOn_cons, List.count_cons]
    by_cases here : c = separator
    · simp [here, ih]
    · simp [here, ih]

theorem bare_splitOnP {α : Type} {p : α → Bool} (xs : List α) :
    ∀ piece ∈ xs.splitOnP p, ∀ x ∈ piece, p x = false := by
  induction xs with
  | nil => simp
  | cons x xs ih =>
    rw [List.splitOnP_cons_eq_if_modifyHead]
    split
    case isTrue => exact List.forall_mem_cons.2 ⟨List.forall_mem_nil _, ih⟩
    case isFalse other =>
      obtain ⟨first, rest, shape⟩ := List.exists_cons_of_ne_nil (List.splitOnP_ne_nil p xs)
      rw [shape] at ih ⊢
      obtain ⟨here, others⟩ := List.forall_mem_cons.1 ih
      exact List.forall_mem_cons.2
        ⟨List.forall_mem_cons.2 ⟨Bool.eq_false_iff.2 other, here⟩, others⟩

theorem bare_splitOn (separator : Char) (t : Text) :
    ∀ piece ∈ t.splitOn separator, separator ∉ piece := by
  intro piece member inside
  rw [List.splitOn_eq_splitOnP] at member
  have other := bare_splitOnP t piece member separator inside
  rw [beq_self_eq_true] at other
  cases other

theorem splitOn_eq_iff (separator : Char) (t : Text) (pieces : List Text) :
    t.splitOn separator = pieces ↔ Pieces separator t pieces := by
  constructor
  · rintro rfl
    exact ⟨List.splitOn_ne_nil _ _, bare_splitOn separator t, List.intercalate_splitOn separator⟩
  · rintro ⟨some, bare, rfl⟩
    exact List.splitOn_intercalate separator bare some

theorem splitOn_append_separator (separator : Char) (t u : Text) :
    (t ++ separator :: u).splitOn separator = t.splitOn separator ++ u.splitOn separator := by
  induction t with
  | nil => rw [List.nil_append, splitOn_cons, if_pos rfl]; rfl
  | cons c cs ih =>
    rw [List.cons_append, splitOn_cons, splitOn_cons, ih]
    split
    case isTrue => rfl
    case isFalse =>
      cases shape : cs.splitOn separator with
      | nil => exact absurd shape (List.splitOn_ne_nil _ _)
      | cons first rest => rfl

theorem Pieces.length {separator : Char} {t : Text} {pieces : List Text}
    (pieces_t : Pieces separator t pieces) : pieces.length = t.count separator + 1 := by
  rw [← (splitOn_eq_iff separator t pieces).2 pieces_t, length_splitOn]

/-- The first piece, and the others with the separator in front. -/
theorem intercalate_cons {α : Type} (separator first : List α) (rest : List (List α)) :
    separator.intercalate (first :: rest) = first ++ rest.flatMap (separator ++ ·) := by
  induction rest generalizing first with
  | nil => rw [List.intercalate_singleton, List.flatMap_nil, List.append_nil]
  | cons second more ih =>
    rw [List.intercalate_cons_cons, ih, List.flatMap_cons, List.append_assoc, List.append_assoc]

theorem mem_intercalate {α : Type} {separator : List α} {pieces : List (List α)} {x : α}
    (member : x ∈ separator.intercalate pieces) : x ∈ separator ∨ ∃ piece ∈ pieces, x ∈ piece := by
  cases pieces with
  | nil => cases member
  | cons first rest =>
    rw [intercalate_cons] at member
    rcases List.mem_append.1 member with here | later
    · exact .inr ⟨first, List.mem_cons_self, here⟩
    · obtain ⟨piece, listed, later⟩ := List.mem_flatMap.1 later
      exact (List.mem_append.1 later).imp_right fun here =>
        ⟨piece, List.mem_cons_of_mem first listed, here⟩

theorem mem_intercalate_of_mem {α : Type} {separator : List α} {pieces : List (List α)}
    {piece : List α} (member : piece ∈ pieces) {x : α} (inside : x ∈ piece) :
    x ∈ separator.intercalate pieces := by
  cases pieces with
  | nil => cases member
  | cons first rest =>
    rw [intercalate_cons]
    rcases List.mem_cons.1 member with rfl | listed
    · exact List.mem_append_left _ inside
    · exact List.mem_append_right _
        (List.mem_flatMap.2 ⟨piece, listed, List.mem_append_right separator inside⟩)

theorem mem_join {separator : Text} {pieces : List Text} {c : Char}
    (member : c ∈ join separator pieces) : c ∈ separator ∨ ∃ piece ∈ pieces, c ∈ piece :=
  mem_intercalate member

theorem mem_join_of_mem {separator : Text} {pieces : List Text} {piece : Text}
    (member : piece ∈ pieces) {c : Char} (inside : c ∈ piece) : c ∈ join separator pieces :=
  mem_intercalate_of_mem member inside

theorem head?_join {separator c : Char} {first : Text} {rest : List Text}
    (begins : (join [separator] (first :: rest)).head? = some c) :
    first.head? = some c ∨ c = separator := by
  rw [join, intercalate_cons] at begins
  cases first with
  | cons d ds => exact .inl begins
  | nil =>
    cases rest with
    | nil => cases begins
    | cons second more =>
      rw [List.flatMap_cons] at begins
      exact .inr (Option.some.inj begins).symm

theorem getLast?_join {separator c : Char} {pieces : List Text}
    (ends : (join [separator] pieces).getLast? = some c) :
    c = separator ∨ ∃ piece ∈ pieces, piece.getLast? = some c := by
  induction pieces with
  | nil => cases ends
  | cons first rest ih =>
    cases rest with
    | nil =>
      rw [join, List.intercalate_singleton] at ends
      exact .inr ⟨first, List.mem_cons_self, ends⟩
    | cons second more =>
      rw [join, List.intercalate_cons_cons, ← join, List.getLast?_append, Option.or_eq_some_iff]
        at ends
      rcases ends with later | ⟨-, here⟩
      · refine (ih later).imp_right fun ⟨piece, listed, last⟩ => ?_
        exact ⟨piece, List.mem_cons_of_mem first listed, last⟩
      · rw [List.getLast?_append] at here
        exact .inl (Option.some.inj here).symm

/-- A piece has no character that the text has not. -/
theorem Pieces.mem {separator : Char} {t : Text} {pieces : List Text}
    (pieces_t : Pieces separator t pieces) {piece : Text} (member : piece ∈ pieces) {c : Char}
    (inside : c ∈ piece) : c ∈ t := by
  rw [← pieces_t.whole]
  exact mem_join_of_mem member inside

theorem words_append_blank {c : Char} (blank : isBlank c = true) (t u : Text) :
    words (t ++ c :: u) = words t ++ words u := by
  rw [words, List.splitOnP_append_cons _ _ blank, List.filter_append, ← words, ← words]

theorem words_of_allBlank {t : Text} (blank : AllBlank t) : words t = [] := by
  induction t with
  | nil => rfl
  | cons c cs ih =>
    obtain ⟨here, rest⟩ := List.forall_mem_cons.1 blank
    exact (words_append_blank here [] cs).trans (ih rest)

/-- Blanks in front of a text are in none of its words. -/
theorem words_gap {gap : Text} (blank : AllBlank gap) (t : Text) :
    words (gap ++ t) = words t := by
  induction gap with
  | nil => rfl
  | cons c cs ih =>
    obtain ⟨here, rest⟩ := List.forall_mem_cons.1 blank
    exact (words_append_blank here [] (cs ++ t)).trans (ih rest)

/-- Nor are those behind it. -/
theorem words_append_gap {gap : Text} (blank : AllBlank gap) (t : Text) :
    words (t ++ gap) = words t := by
  cases gap with
  | nil => rw [List.append_nil]
  | cons c cs =>
    obtain ⟨here, rest⟩ := List.forall_mem_cons.1 blank
    rw [words_append_blank here, words_of_allBlank rest, List.append_nil]

theorem words_of_visible {t : Text} (full : t ≠ []) (visible : ∀ c ∈ t, isBlank c = false) :
    words t = [t] := by
  have kept : (!t.isEmpty) = true := by
    rw [List.isEmpty_eq_false_iff.2 full]
    rfl
  rw [words, List.splitOnP_eq_singleton visible]
  exact List.filter_cons_of_pos kept

theorem mem_words {t word : Text} (member : word ∈ words t) :
    word ≠ [] ∧ ∀ c ∈ word, isBlank c = false := by
  obtain ⟨piece, kept⟩ := List.mem_filter.1 member
  refine ⟨fun empty => ?_, bare_splitOnP t word piece⟩
  rw [empty] at kept
  cases kept

/-- The second text is the first with blanks behind it. -/
def Lengthened (t u : Text) : Prop := ∃ back, AllBlank back ∧ u = t ++ back

theorem lengthened_refl (t : Text) : Lengthened t t :=
  ⟨[], List.forall_mem_nil _, (List.append_nil t).symm⟩

theorem Lengthened.cons {t u : Text} (longer : Lengthened t u) (c : Char) :
    Lengthened (c :: t) (c :: u) := by
  obtain ⟨back, blank, rfl⟩ := longer
  exact ⟨back, blank, rfl⟩

theorem Lengthened.trim_eq {t u : Text} (longer : Lengthened t u) : trim u = trim t := by
  obtain ⟨back, blank, rfl⟩ := longer
  exact trim_between (List.forall_mem_nil _) blank

theorem map_trim_eq {ts us : List Text} (longer : List.Forall₂ Lengthened ts us) :
    us.map trim = ts.map trim := by
  induction longer with
  | nil => rfl
  | cons here _ ih => rw [List.map_cons, List.map_cons, here.trim_eq, ih]

/-- A character in front of two texts is in front of the first piece of each. -/
theorem forall₂_splitOn_cons {separator : Char} {t u : Text} (c : Char)
    (longer : List.Forall₂ Lengthened (t.splitOn separator) (u.splitOn separator)) :
    List.Forall₂ Lengthened ((c :: t).splitOn separator) ((c :: u).splitOn separator) := by
  rw [splitOn_cons, splitOn_cons]
  split
  case isTrue => exact .cons (lengthened_refl []) longer
  case isFalse =>
    generalize t.splitOn separator = pieces at longer
    generalize u.splitOn separator = pieces' at longer
    cases longer with
    | nil => exact .nil
    | cons here rest => exact .cons (here.cons c) rest

theorem forall₂_splitOn_append {separator : Char} {back : Text} (blank : AllBlank back)
    (bare : separator ∉ back) (t : Text) :
    List.Forall₂ Lengthened (t.splitOn separator) ((t ++ back).splitOn separator) := by
  induction t with
  | nil =>
    have single : back.splitOn separator = [back] :=
      (splitOn_eq_iff _ _ _).2 ⟨List.cons_ne_nil _ _, List.forall_mem_singleton.2 bare,
        List.intercalate_singleton⟩
    rw [List.nil_append, single]
    exact .cons ⟨back, blank, rfl⟩ .nil
  | cons c cs ih => exact forall₂_splitOn_cons c ih

theorem map_trim_splitOn_append {separator : Char} {front : Text} (blank : AllBlank front)
    (bare : separator ∉ front) (t : Text) :
    ((front ++ t).splitOn separator).map trim = (t.splitOn separator).map trim := by
  induction front with
  | nil => rfl
  | cons c cs ih =>
    obtain ⟨here, rest⟩ := List.forall_mem_cons.1 blank
    obtain ⟨other, absent⟩ : separator ≠ c ∧ separator ∉ cs := by simpa using bare
    rw [← ih rest absent, List.cons_append, splitOn_cons, if_neg (Ne.symm other)]
    cases shape : (cs ++ t).splitOn separator with
    | nil => rfl
    | cons first others =>
      have dropped := trim_between (t := first) (List.forall_mem_singleton.2 here)
        (List.forall_mem_nil _)
      rw [List.append_nil] at dropped
      exact congrArg (· :: others.map trim) dropped

end QueryDesk.Text
