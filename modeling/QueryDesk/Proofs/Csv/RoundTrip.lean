import QueryDesk.Proofs.Csv.Document

/-!
# Documents written out again

A document is written with its fields between commas and its lines between line feeds. Not every
document can be read back: its fields could have commas, blanks around them or line feeds in them,
and a line could be blank. The documents that are read from texts have none of these (`Readable`),
and that is all there is to say about them (`exists_parse_iff`). So they are read back as they are,
unless a byte-order mark is lost: `parse_serialize`.
-/

set_option autoImplicit false

namespace QueryDesk.Csv

open Text

/-- The fields of a line with commas between them. -/
def lineOf (fields : List Text) : Text := join [','] fields

/-- A document as text: the header line and then a line for each row. -/
def serialize (d : Document) : Text := join ['\n'] ((d.headers :: d.rows).map lineOf)

/-- A document that can be written and read back. -/
structure Readable (d : Document) : Prop where
  named : ∃ header ∈ d.headers, header ≠ []
  bare : ∀ header ∈ d.headers, ∀ c ∈ header,
    isBlank c = false ∧ c ≠ ',' ∧ c ≠ '"' ∧ c ≠ '\''
  width : ∀ row ∈ d.rows, row.length = d.headers.length
  clean : ∀ row ∈ d.rows, ∀ field ∈ row, ',' ∉ field ∧ '\n' ∉ field ∧ Trimmed field
  /-- No row is written as a blank line. -/
  shown : ∀ row ∈ d.rows, allBlank (lineOf row) = false

theorem map_eq_self {α : Type} {f : α → α} {xs : List α} (fixed : ∀ x ∈ xs, f x = x) :
    xs.map f = xs :=
  (List.map_congr_left fixed).trans (List.map_id' xs)

theorem underscoreBlanks_of_visible {t : Text} (visible : ∀ c ∈ t, isBlank c = false)
    (afterBlank : Bool) : underscoreBlanks afterBlank t = t := by
  induction t generalizing afterBlank with
  | nil => rfl
  | cons c cs ih =>
    obtain ⟨here, rest⟩ := List.forall_mem_cons.1 visible
    rw [underscoreBlanks, here, if_neg Bool.false_ne_true, ih rest]

/-- A name without blanks and quotes is made into itself. -/
theorem headerName_of_bare {name : Text}
    (bare : ∀ c ∈ name, isBlank c = false ∧ c ≠ '"' ∧ c ≠ '\'') : headerName name = name := by
  have visible : ∀ c ∈ name, isBlank c = false := fun c member => (bare c member).1
  have unquoted : name.filter (!isQuote ·) = name := by
    rw [List.filter_eq_self]
    intro c member
    obtain ⟨-, double, single⟩ := bare c member
    simp [isQuote, double, single]
  rw [headerName, trim_eq_self (trimmed_of_visible visible), unquoted,
    underscoreBlanks_of_visible visible]

theorem headerName_headerName (field : Text) : headerName (headerName field) = headerName field :=
  headerName_of_bare (plain_headerName field)

/-- A row that is written as a blank line comes from a blank line. -/
theorem RowOf.allBlank {line : Text} {row : List Text} (row_line : RowOf line row)
    (blank : AllBlank (lineOf row)) : AllBlank line := by
  obtain ⟨fs, pieces, trims⟩ := row_line
  cases trims with
  | nil => exact absurd rfl pieces.some
  | @cons f field fs' fields trim rest =>
    cases rest with
    | nil =>
      have whole := pieces.whole
      rw [join, List.intercalate_singleton] at whole
      rw [lineOf, join, List.intercalate_singleton] at blank
      have none := trim_of_allBlank blank
      rw [trim_eq_self trim.trimmed] at none
      subst none
      rw [← whole]
      exact (trim_eq_nil_iff f).1 ((trim_eq_iff f []).2 trim)
    | cons =>
      rw [lineOf, join, List.intercalate_cons_cons] at blank
      exact absurd (blank ',' (by simp)) (by decide)

theorem readable_of_parse {t : Text} {d : Document} (read : parse t = .ok d) : Readable d := by
  obtain ⟨first, rest, shape, named, named', bare, rows, width, clean⟩ := documentOf_of_parse read
  refine ⟨named', bare, width, clean, fun row member => ?_⟩
  obtain ⟨line, inside, row_line⟩ := exists_of_mem_right rows member
  have content : line ∈ contentLines t :=
    shape ▸ List.mem_cons_of_mem first (List.mem_filter.1 inside).1
  have full := (List.mem_filter.1 content).2
  apply Bool.eq_false_iff.2
  intro blank
  have all := row_line.allBlank (List.all_eq_true.1 blank)
  rw [Text.allBlank, List.all_eq_true.2 all] at full
  cases full

/-- Fields without line feeds and blanks at their ends make a line that is read as one. -/
theorem lineOf_unbroken {cells : List Text}
    (clean : ∀ cell ∈ cells, '\n' ∉ cell ∧ Trimmed cell) :
    '\n' ∉ lineOf cells ∧ (lineOf cells).getLast? ≠ some '\r' := by
  constructor
  · intro feed
    rcases mem_join feed with comma | ⟨cell, listed, inside⟩
    · exact absurd comma (by decide)
    · exact (clean cell listed).1 inside
  · intro ends
    rcases getLast?_join ends with comma | ⟨cell, listed, last⟩
    · exact absurd comma (by decide)
    · have visible := (clean cell listed).2.back
      rw [last] at visible
      cases visible

namespace Readable

variable {d : Document}

theorem headers_ne_nil (readable : Readable d) : d.headers ≠ [] := by
  obtain ⟨header, member, -⟩ := readable.named
  exact List.ne_nil_of_mem member

theorem row_ne_nil (readable : Readable d) {row : List Text} (member : row ∈ d.rows) :
    row ≠ [] := by
  have width := readable.width row member
  have some := List.length_pos_iff.2 readable.headers_ne_nil
  apply List.length_pos_iff.1
  omega

theorem fields_headers (readable : Readable d) : fields (lineOf d.headers) = d.headers :=
  (splitOn_eq_iff ',' _ _).2 ⟨readable.headers_ne_nil,
    fun header member comma => (readable.bare header member ',' comma).2.1 rfl, rfl⟩

theorem headerName_fields (readable : Readable d) :
    (fields (lineOf d.headers)).map headerName = d.headers := by
  rw [readable.fields_headers]
  apply map_eq_self
  intro header member
  apply headerName_of_bare
  intro c inside
  obtain ⟨visible, -, quotes⟩ := readable.bare header member c inside
  exact ⟨visible, quotes⟩

theorem fields_row (readable : Readable d) {row : List Text} (member : row ∈ d.rows) :
    fields (lineOf row) = row :=
  (splitOn_eq_iff ',' _ _).2 ⟨readable.row_ne_nil member,
    fun field inside => (readable.clean row member field inside).1, rfl⟩

theorem trim_fields (readable : Readable d) {row : List Text} (member : row ∈ d.rows) :
    (fields (lineOf row)).map trim = row := by
  rw [readable.fields_row member]
  apply map_eq_self
  intro field inside
  exact trim_eq_self (readable.clean row member field inside).2.2

/-- A line that is written has no line feed in it, ends in no carriage return and is not blank. -/
theorem line (readable : Readable d) {cells : List Text} (member : cells ∈ d.headers :: d.rows) :
    '\n' ∉ lineOf cells ∧ (lineOf cells).getLast? ≠ some '\r' ∧
      allBlank (lineOf cells) = false := by
  rcases List.mem_cons.1 member with rfl | member
  case inl =>
    have visible {header : Text} (listed : header ∈ d.headers) {c : Char} (inside : c ∈ header) :
        isBlank c = false := (readable.bare header listed c inside).1
    have unbroken := lineOf_unbroken fun header listed =>
      ⟨fun feed => absurd (visible listed feed) (by decide),
        trimmed_of_visible fun c => visible listed⟩
    refine ⟨unbroken.1, unbroken.2, ?_⟩
    obtain ⟨header, listed, full⟩ := readable.named
    obtain ⟨c, cs, rfl⟩ := List.exists_cons_of_ne_nil full
    apply Bool.eq_false_iff.2
    intro blank
    have here := List.all_eq_true.1 blank c (mem_join_of_mem listed List.mem_cons_self)
    rw [visible listed List.mem_cons_self] at here
    cases here
  case inr =>
    have unbroken := lineOf_unbroken fun field listed =>
      (readable.clean cells member field listed).2
    exact ⟨unbroken.1, unbroken.2, readable.shown cells member⟩

/-- Each line is a content line, as it was written. -/
theorem lines (readable : Readable d) :
    (((serialize d).splitOn '\n').map withoutReturn).filter (!allBlank ·) =
      lineOf d.headers :: d.rows.map lineOf := by
  have pieces : (serialize d).splitOn '\n' = (d.headers :: d.rows).map lineOf := by
    refine (splitOn_eq_iff '\n' _ _).2 ⟨by simp, fun piece member => ?_, rfl⟩
    obtain ⟨cells, listed, rfl⟩ := List.mem_map.1 member
    exact (readable.line listed).1
  have kept : ((d.headers :: d.rows).map lineOf).map withoutReturn =
      (d.headers :: d.rows).map lineOf := by
    rw [List.map_map]
    exact List.map_congr_left fun cells listed => if_neg (readable.line listed).2.1
  rw [pieces, kept, List.filter_eq_self.2, List.map_cons]
  intro piece member
  obtain ⟨cells, listed, rfl⟩ := List.mem_map.1 member
  rw [(readable.line listed).2.2]
  rfl

/-- A text with the content lines of the document is read as the document. -/
theorem parse_of_lines (readable : Readable d) {t : Text}
    (shape : contentLines t = lineOf d.headers :: d.rows.map lineOf) : parse t = .ok d := by
  have rows : dataRows d.headers.length (d.rows.map lineOf) = d.rows := by
    rw [dataRows, List.map_map]
    change (d.rows.map fun cells => (fields (lineOf cells)).map trim).filter _ = _
    rw [map_eq_self fun cells member => readable.trim_fields member, List.filter_eq_self]
    intro cells member
    exact beq_iff_eq.2 (readable.width cells member)
  have named : d.headers.all (·.isEmpty) = false := by
    obtain ⟨header, member, full⟩ := readable.named
    apply Bool.eq_false_iff.2
    intro none
    exact full (List.isEmpty_iff.1 (List.all_eq_true.1 none header member))
  rw [parse, shape]
  simp only [readable.headerName_fields, rows, named, Bool.false_eq_true, if_false]

/-- A byte-order mark in front is not a part of the document. -/
theorem parse_marked (readable : Readable d) :
    parse (byteOrderMark :: serialize d) = .ok d := by
  apply readable.parse_of_lines
  rw [contentLines, withoutByteOrderMark, if_pos rfl]
  exact readable.lines

theorem parse_unmarked (readable : Readable d)
    (other : (serialize d).head? ≠ some byteOrderMark) : parse (serialize d) = .ok d := by
  apply readable.parse_of_lines
  rw [contentLines, (withoutByteOrderMark_eq_iff _ _).2 (.bare other)]
  exact readable.lines

end Readable

/-- The documents that texts are read as. -/
theorem exists_parse_iff (d : Document) : (∃ t, parse t = .ok d) ↔ Readable d :=
  ⟨fun ⟨_, read⟩ => readable_of_parse read, fun readable => ⟨_, readable.parse_marked⟩⟩

/-- What is written begins with a byte-order mark only if its first header does. -/
theorem head?_serialize {d : Document} (named : d.headers ≠ [])
    (unmarked : ∀ header, d.headers.head? = some header → header.head? ≠ some byteOrderMark) :
    (serialize d).head? ≠ some byteOrderMark := by
  intro begins
  obtain ⟨first, rest, shape⟩ := List.exists_cons_of_ne_nil named
  rw [serialize, List.map_cons] at begins
  rcases head?_join begins with line | feed
  · rw [lineOf, shape] at line
    rcases head?_join line with mark | comma
    · exact unmarked first (by rw [shape]; rfl) mark
    · exact absurd comma (by decide)
  · exact absurd feed (by decide)

/-- A document that was read is written as a text that is read as the same document, unless its
first header begins with a byte-order mark. What is made of a field once is not changed again, and
each row is written as a line that is neither blank nor of another width. -/
theorem parse_serialize {t : Text} {d : Document} (read : parse t = .ok d)
    (unmarked : ∀ header, d.headers.head? = some header → header.head? ≠ some byteOrderMark) :
    parse (serialize d) = .ok d ∧
    (∀ field, headerName (headerName field) = headerName field ∧ trim (trim field) = trim field) ∧
    ∀ row ∈ d.rows, allBlank (lineOf row) = false ∧ (fields (lineOf row)).map trim = row ∧
      row.length = d.headers.length := by
  have readable := readable_of_parse read
  refine ⟨?_, ?_, ?_⟩
  · exact readable.parse_unmarked (head?_serialize readable.headers_ne_nil unmarked)
  · exact fun field => ⟨headerName_headerName field, trim_trim field⟩
  · intro row member
    exact ⟨readable.shown row member, readable.trim_fields member, readable.width row member⟩

theorem parse_serialize_people :
    parse "id, 'full name'\r\n1, Ann\n\n2,b,c\n,\r\n".toList =
      .ok ⟨["id".toList, "full_name".toList], [["1".toList, "Ann".toList], [[], []]]⟩ ∧
    parse "id,full_name\n1,Ann\n,".toList =
      .ok ⟨["id".toList, "full_name".toList], [["1".toList, "Ann".toList], [[], []]]⟩ := by
  have read : parse "id, 'full name'\r\n1, Ann\n\n2,b,c\n,\r\n".toList =
      .ok ⟨["id".toList, "full_name".toList], [["1".toList, "Ann".toList], [[], []]]⟩ := by
    decide +kernel
  have unmarked : ∀ header, ["id".toList, "full_name".toList].head? = some header →
      header.head? ≠ some byteOrderMark := by
    intro header first
    obtain rfl := Option.some.inj first
    decide
  exact ⟨read, (parse_serialize read unmarked).1⟩

/-- A second mark is read as a part of the first header, and it is lost when that is read back. -/
example : parse (serialize ⟨[[byteOrderMark, 'a']], []⟩) = .ok ⟨[['a']], []⟩ := by decide +kernel

end QueryDesk.Csv
