import Mathlib.Data.List.Forall2
import QueryDesk.Csv.Document
import QueryDesk.Proofs.Text.Cutting

/-!
# What a text is read as

The content lines of a text and the three ways to read them: no line at all, a first line that names
nothing, and a document. `ContentLines`, `Nameless` and `DocumentOf` say what these are without the
functions that read them; `parse_outcome` says which text has which outcome.
-/

set_option autoImplicit false

namespace QueryDesk.Csv

open Text

theorem exists_of_mem_right {α β : Type} {related : α → β → Prop} {xs : List α} {ys : List β}
    (all : List.Forall₂ related xs ys) {y : β} (member : y ∈ ys) : ∃ x ∈ xs, related x y := by
  induction all with
  | nil => cases member
  | cons here _ ih =>
    rcases List.mem_cons.1 member with rfl | member
    · exact ⟨_, List.mem_cons_self, here⟩
    · obtain ⟨x, inside, there⟩ := ih member
      exact ⟨x, List.mem_cons_of_mem _ inside, there⟩

/-- A text and what is left of it without one byte-order mark in front. -/
inductive Unmarked : Text → Text → Prop
  | marked (t : Text) : Unmarked (byteOrderMark :: t) t
  | bare {t : Text} (other : t.head? ≠ some byteOrderMark) : Unmarked t t

/-- A line and what is left of it without one carriage return at the end. -/
inductive Unreturned : Text → Text → Prop
  | returned (t : Text) : Unreturned (t ++ ['\r']) t
  | bare {t : Text} (other : t.getLast? ≠ some '\r') : Unreturned t t

/-- The lines of a text that are not blank. -/
def ContentLines (t : Text) (lines : List Text) : Prop :=
  ∃ body raw stripped, Unmarked t body ∧ Pieces '\n' body raw ∧
    List.Forall₂ Unreturned raw stripped ∧ stripped.filter (!allBlank ·) = lines

theorem withoutByteOrderMark_eq_iff (t body : Text) :
    withoutByteOrderMark t = body ↔ Unmarked t body := by
  constructor
  · rintro rfl
    cases t with
    | nil => exact .bare nofun
    | cons c cs =>
      rw [withoutByteOrderMark]
      split
      case isTrue mark => exact mark ▸ .marked cs
      case isFalse other => exact .bare fun same => other (Option.some.inj same)
  · intro unmarked
    cases unmarked with
    | marked => rw [withoutByteOrderMark, if_pos rfl]
    | bare other =>
      cases t with
      | nil => rfl
      | cons c cs => exact if_neg fun same => other (congrArg some same)

theorem withoutReturn_eq_iff (line stripped : Text) :
    withoutReturn line = stripped ↔ Unreturned line stripped := by
  constructor
  · rintro rfl
    rw [withoutReturn]
    split
    case isTrue last =>
      obtain ⟨before, rfl⟩ := List.getLast?_eq_some_iff.1 last
      rw [List.dropLast_concat]
      exact .returned before
    case isFalse other => exact .bare other
  · intro unreturned
    cases unreturned with
    | returned => rw [withoutReturn, if_pos List.getLast?_concat, List.dropLast_concat]
    | bare other => exact if_neg other

theorem map_withoutReturn_eq_iff (raw stripped : List Text) :
    raw.map withoutReturn = stripped ↔ List.Forall₂ Unreturned raw stripped := by
  rw [← List.forall₂_eq_eq_eq, List.forall₂_map_left_iff]
  simp only [withoutReturn_eq_iff]

theorem contentLines_eq_iff (t : Text) (lines : List Text) :
    contentLines t = lines ↔ ContentLines t lines := by
  constructor
  · rintro rfl
    exact ⟨_, _, _, (withoutByteOrderMark_eq_iff t _).1 rfl, (splitOn_eq_iff '\n' _ _).1 rfl,
      (map_withoutReturn_eq_iff _ _).1 rfl, rfl⟩
  · rintro ⟨body, raw, stripped, unmarked, pieces, unreturned, rfl⟩
    rw [contentLines, (withoutByteOrderMark_eq_iff t body).2 unmarked,
      (splitOn_eq_iff '\n' body raw).2 pieces, (map_withoutReturn_eq_iff raw stripped).2 unreturned]

theorem Unreturned.mem {line stripped : Text} (unreturned : Unreturned line stripped) {c : Char}
    (inside : c ∈ stripped) : c ∈ line := by
  cases unreturned with
  | returned => exact List.mem_append_left _ inside
  | bare => exact inside

/-- No line has a line feed in it. -/
theorem ContentLines.bare {t : Text} {lines : List Text} (content : ContentLines t lines) :
    ∀ line ∈ lines, '\n' ∉ line := by
  obtain ⟨body, raw, stripped, -, pieces, unreturned, rfl⟩ := content
  intro line member feed
  obtain ⟨whole, member, strip⟩ := exists_of_mem_right unreturned (List.mem_filter.1 member).1
  exact pieces.bare whole member (strip.mem feed)

/-- No field of the line has more in it than blanks around it and quotes. -/
def Nameless (line : Text) : Prop :=
  ∃ fs, Pieces ',' line fs ∧ ∀ f ∈ fs, ∃ u, Trims f u ∧ ∀ c ∈ u, c = '"' ∨ c = '\''

theorem isQuote_iff (c : Char) : isQuote c = true ↔ c = '"' ∨ c = '\'' := by
  rw [isQuote, Bool.or_eq_true, beq_iff_eq, beq_iff_eq]

theorem underscoreBlanks_ne_nil {t : Text} (full : t ≠ []) : underscoreBlanks false t ≠ [] := by
  cases t with
  | nil => exact absurd rfl full
  | cons c cs =>
    rw [underscoreBlanks]
    split <;> exact List.cons_ne_nil _ _

/-- Where the characters of a name come from. -/
theorem mem_underscoreBlanks {afterBlank : Bool} {t : Text} {c : Char}
    (member : c ∈ underscoreBlanks afterBlank t) : c = '_' ∨ c ∈ t ∧ isBlank c = false := by
  fun_induction underscoreBlanks afterBlank t with
  | case1 => cases member
  | case2 d ds blank ih => exact (ih member).imp_right (And.imp_left (List.mem_cons_of_mem d))
  | case3 afterBlank d ds blank first ih =>
    rcases List.mem_cons.1 member with rfl | member
    · exact .inl rfl
    · exact (ih member).imp_right (And.imp_left (List.mem_cons_of_mem d))
  | case4 afterBlank d ds solid ih =>
    rcases List.mem_cons.1 member with rfl | member
    · exact .inr ⟨List.mem_cons_self, Bool.eq_false_iff.2 solid⟩
    · exact (ih member).imp_right (And.imp_left (List.mem_cons_of_mem d))

theorem headerName_eq_nil_iff (field : Text) :
    headerName field = [] ↔ ∀ c ∈ trim field, c = '"' ∨ c = '\'' := by
  have quotes : (trim field).filter (!isQuote ·) = [] ↔ ∀ c ∈ trim field, c = '"' ∨ c = '\'' := by
    simp only [List.filter_eq_nil_iff, Bool.not_eq_true, Bool.not_eq_false', isQuote_iff]
  rw [← quotes, headerName]
  refine ⟨fun empty => ?_, fun empty => by rw [empty]; rfl⟩
  by_contra full
  exact underscoreBlanks_ne_nil full empty

/-- A name has neither blanks nor quotes in it. -/
theorem plain_headerName (field : Text) :
    ∀ c ∈ headerName field, isBlank c = false ∧ c ≠ '"' ∧ c ≠ '\'' := by
  intro c member
  rcases mem_underscoreBlanks member with rfl | ⟨inside, solid⟩
  · decide
  · have plain := (List.mem_filter.1 inside).2
    have quotes : ¬ (c = '"' ∨ c = '\'') := by
      rw [← isQuote_iff]
      simpa using plain
    exact ⟨solid, not_or.1 quotes⟩

theorem bare_headerName {field : Text} (one : ',' ∉ field) :
    ∀ c ∈ headerName field, isBlank c = false ∧ c ≠ ',' ∧ c ≠ '"' ∧ c ≠ '\'' := by
  intro c member
  obtain ⟨solid, quotes⟩ := plain_headerName field c member
  have comma : c ≠ ',' := by
    rintro rfl
    rcases mem_underscoreBlanks member with ⟨⟨⟩⟩ | ⟨inside, -⟩
    exact one (mem_of_mem_trim (List.mem_filter.1 inside).1)
  exact ⟨solid, comma, quotes⟩

theorem nameless_iff (line : Text) :
    Nameless line ↔ ((fields line).map headerName).all (·.isEmpty) = true := by
  have trimmed (f : Text) : (∃ u, Trims f u ∧ ∀ c ∈ u, c = '"' ∨ c = '\'') ↔ headerName f = [] := by
    rw [headerName_eq_nil_iff]
    exact ⟨fun ⟨u, trims, quotes⟩ => (trim_eq_iff f u).2 trims ▸ quotes,
      fun quotes => ⟨_, trims_trim f, quotes⟩⟩
  simp only [Nameless, trimmed, List.all_map, List.all_eq_true, Function.comp_apply,
    List.isEmpty_iff]
  constructor
  · rintro ⟨fs, pieces, empty⟩
    rw [fields, (splitOn_eq_iff ',' line fs).2 pieces]
    exact empty
  · exact fun empty => ⟨fields line, (splitOn_eq_iff ',' line _).1 rfl, empty⟩

/-- The row of a data line: its fields without the blanks around them. -/
def RowOf (line : Text) (row : List Text) : Prop :=
  ∃ fs, Pieces ',' line fs ∧ List.Forall₂ Trims fs row

theorem rowOf_fields (line : Text) : RowOf line ((fields line).map trim) :=
  ⟨fields line, (splitOn_eq_iff ',' line _).1 rfl,
    List.forall₂_map_right_iff.2 (List.forall₂_same.2 fun f _ => trims_trim f)⟩

theorem RowOf.length {line : Text} {row : List Text} (row_line : RowOf line row) :
    row.length = line.count ',' + 1 := by
  obtain ⟨fs, pieces, trims⟩ := row_line
  rw [← trims.length_eq, pieces.length]

theorem dataRows_eq (first : Text) (lines : List Text) :
    dataRows (fields first).length lines =
      (lines.filter (·.count ',' == first.count ',')).map fun line => (fields line).map trim := by
  have same (line : Text) : (((fields line).map trim).length == (fields first).length) =
      (line.count ',' == first.count ',') := by
    rw [List.length_map, fields, fields, length_splitOn, length_splitOn]
    exact Bool.eq_iff_iff.2 (by simp)
  rw [dataRows, List.filter_map]
  exact congrArg _ (List.filter_congr fun line _ => same line)

/-- The document of a header line and the lines after it. -/
structure DocumentOf (first : Text) (rest : List Text) (d : Document) : Prop where
  /-- There is one header for each field of the first line. -/
  headers : ∃ fs, Pieces ',' first fs ∧ d.headers = fs.map headerName
  named : ∃ header ∈ d.headers, header ≠ []
  bare : ∀ header ∈ d.headers, ∀ c ∈ header,
    isBlank c = false ∧ c ≠ ',' ∧ c ≠ '"' ∧ c ≠ '\''
  /-- The rows are those of the lines with as many commas as the first, in order. -/
  rows : List.Forall₂ RowOf (rest.filter (·.count ',' == first.count ',')) d.rows
  width : ∀ row ∈ d.rows, row.length = d.headers.length
  clean : ∀ row ∈ d.rows, ∀ field ∈ row, ',' ∉ field ∧ '\n' ∉ field ∧ Trimmed field

theorem RowOf.clean {line : Text} {row : List Text} (row_line : RowOf line row)
    (one : '\n' ∉ line) : ∀ field ∈ row, ',' ∉ field ∧ '\n' ∉ field ∧ Trimmed field := by
  obtain ⟨fs, pieces, trims⟩ := row_line
  intro field member
  obtain ⟨f, piece, trim⟩ := exists_of_mem_right trims member
  obtain rfl := (trim_eq_iff f field).2 trim
  exact ⟨fun comma => pieces.bare f piece (mem_of_mem_trim comma),
    fun feed => one (pieces.mem piece (mem_of_mem_trim feed)), trim.trimmed⟩

theorem documentOf {first : Text} {rest : List Text} (named : ¬ Nameless first)
    (one : ∀ line ∈ rest, '\n' ∉ line) :
    DocumentOf first rest
      ⟨(fields first).map headerName, dataRows ((fields first).map headerName).length rest⟩ := by
  have pieces := (splitOn_eq_iff ',' first _).1 rfl
  have rows : List.Forall₂ RowOf (rest.filter (·.count ',' == first.count ','))
      (dataRows ((fields first).map headerName).length rest) := by
    rw [List.length_map, dataRows_eq]
    exact List.forall₂_map_right_iff.2 (List.forall₂_same.2 fun line _ => rowOf_fields line)
  constructor
  case headers => exact ⟨fields first, pieces, rfl⟩
  case named =>
    by_contra empty
    refine named ((nameless_iff first).2 (List.all_eq_true.2 fun header member => ?_))
    by_contra full
    exact empty ⟨header, member, fun same => full (List.isEmpty_iff.2 same)⟩
  case bare =>
    intro header member
    obtain ⟨f, inside, rfl⟩ := List.mem_map.1 member
    exact bare_headerName (pieces.bare f inside)
  case rows => exact rows
  case width =>
    intro row member
    obtain ⟨line, inside, row_line⟩ := exists_of_mem_right rows member
    have commas := (List.mem_filter.1 inside).2
    rw [row_line.length, beq_iff_eq.1 commas, List.length_map, fields, length_splitOn]
  case clean =>
    intro row member
    obtain ⟨line, inside, row_line⟩ := exists_of_mem_right rows member
    exact row_line.clean (one line (List.mem_filter.1 inside).1)

theorem parse_nil {t : Text} (none : contentLines t = []) : parse t = .error .emptyInput := by
  rw [parse, none]

theorem parse_nameless {t first : Text} {rest : List Text} (shape : contentLines t = first :: rest)
    (nameless : Nameless first) : parse t = .error (.noColumnNames (trim first)) := by
  rw [parse, shape]
  exact if_pos ((nameless_iff first).1 nameless)

theorem parse_document {t first : Text} {rest : List Text} (shape : contentLines t = first :: rest)
    (named : ¬ Nameless first) : ∃ d, parse t = .ok d ∧ DocumentOf first rest d := by
  have lines := ((contentLines_eq_iff t _).1 shape).bare
  refine ⟨_, ?_, documentOf named fun line member => lines line (List.mem_cons_of_mem _ member)⟩
  rw [parse, shape]
  exact if_neg fun empty => named ((nameless_iff first).2 empty)

/-- A document that is read is one of the content lines of the text. -/
theorem documentOf_of_parse {t : Text} {d : Document} (read : parse t = .ok d) :
    ∃ first rest, contentLines t = first :: rest ∧ DocumentOf first rest d := by
  cases shape : contentLines t with
  | nil =>
    rw [parse_nil shape] at read
    cases read
  | cons first rest =>
    by_cases nameless : Nameless first
    · rw [parse_nameless shape nameless] at read
      cases read
    · obtain ⟨d', read', documentOf⟩ := parse_document shape nameless
      obtain rfl := Except.ok.inj (read'.symm.trans read)
      exact ⟨first, rest, rfl, documentOf⟩

theorem parse_eq_emptyInput_iff (t : Text) :
    parse t = .error .emptyInput ↔ contentLines t = [] := by
  cases shape : contentLines t with
  | nil => simp [parse_nil shape]
  | cons first rest =>
    by_cases nameless : Nameless first
    · simp [parse_nameless shape nameless, Error.noColumnNames]
    · obtain ⟨d, made, -⟩ := parse_document shape nameless
      simp [made]

theorem parse_eq_invalidHeader_iff (t : Text) :
    (∃ reason, parse t = .error (.invalidHeader reason)) ↔
      ∃ first rest, contentLines t = first :: rest ∧ Nameless first := by
  cases shape : contentLines t with
  | nil => simp [parse_nil shape]
  | cons first rest =>
    by_cases nameless : Nameless first
    · simp [parse_nameless shape nameless, Error.noColumnNames, nameless]
    · obtain ⟨d, made, -⟩ := parse_document shape nameless
      simp [made, nameless]

/-- What becomes of a text. Its content lines are determined. Without one it is empty input; if the
first one names nothing it is a header that is not valid, shown in the message; otherwise it is a
document of these lines. -/
theorem parse_outcome (t : Text) : ∃ lines, ContentLines t lines ∧
    (∀ lines', ContentLines t lines' → lines' = lines) ∧
    (parse t = .error .emptyInput ↔ lines = []) ∧
    ((∃ reason, parse t = .error (.invalidHeader reason)) ↔
      ∃ first rest, lines = first :: rest ∧ Nameless first) ∧
    (∀ first rest, lines = first :: rest → Nameless first → ∃ shown, Trims first shown ∧
      parse t = .error (.invalidHeader ("no column names in ".toList ++ quoted shown))) ∧
    (∀ first rest, lines = first :: rest → ¬ Nameless first →
      ∃ d, parse t = .ok d ∧ DocumentOf first rest d) := by
  refine ⟨contentLines t, (contentLines_eq_iff t _).1 rfl,
    fun lines' content => ((contentLines_eq_iff t lines').2 content).symm,
    parse_eq_emptyInput_iff t, parse_eq_invalidHeader_iff t, ?_, ?_⟩
  · intro first rest shape nameless
    exact ⟨trim first, trims_trim first, parse_nameless shape nameless⟩
  · exact fun first rest shape named => parse_document shape named

end QueryDesk.Csv
