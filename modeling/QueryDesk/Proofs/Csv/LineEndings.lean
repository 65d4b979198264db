import Mathlib.Logic.Relation
import QueryDesk.Proofs.Csv.Document

/-!
# Line endings and blank lines

A document is read from the lines that something is left of without the blanks around them, in that
form (`parse_eq`). So it makes no difference how lines end, whether there are blank lines between
them and whether a byte-order mark comes first, and a text that goes on after a document adds rows
to it: `parse_lines_alike`.
-/

set_option autoImplicit false

namespace QueryDesk.Csv

open Text

/-- Blanks around a line are blanks around its first and its last field. -/
theorem trim_fields_trim (line : Text) :
    (fields (trim line)).map trim = (fields line).map trim := by
  have comma {t : Text} (blank : AllBlank t) : ',' ∉ t :=
    fun member => absurd (blank ',' member) (by decide)
  obtain ⟨front, back, blank, blank', whole⟩ := (trims_trim line).cut
  conv => rhs; rw [whole]
  rw [fields, fields, map_trim_splitOn_append blank (comma blank),
    map_trim_eq (forall₂_splitOn_append blank' (comma blank') _)]

/-- What content lines are read as. -/
def ofLines : List Text → Except Error Document
  | [] => .error .emptyInput
  | first :: lines =>
    let headers := (fields first).map headerName
    if headers.all (·.isEmpty) then .error (.noColumnNames (trim first))
    else .ok ⟨headers, dataRows headers.length lines⟩

theorem parse_eq_ofLines (t : Text) : parse t = ofLines (contentLines t) := by
  rw [parse]
  cases contentLines t <;> rfl

theorem headerNames_trim (line : Text) :
    (fields (trim line)).map headerName = (fields line).map headerName := by
  have trimmed (t : Text) : (fields t).map headerName = ((fields t).map trim).map headerName := by
    rw [List.map_map]
    refine List.map_congr_left fun field _ => ?_
    rw [Function.comp_apply, headerName, headerName, trim_trim]
  rw [trimmed, trim_fields_trim, ← trimmed]

theorem dataRows_map_trim (count : Nat) (lines : List Text) :
    dataRows count (lines.map trim) = dataRows count lines := by
  rw [dataRows, dataRows, List.map_map]
  exact congrArg _ (List.map_congr_left fun line _ => trim_fields_trim line)

theorem dataRows_append (count : Nat) (lines more : List Text) :
    dataRows count (lines ++ more) = dataRows count lines ++ dataRows count more := by
  rw [dataRows, List.map_append, List.filter_append, dataRows, dataRows]

theorem ofLines_map_trim (lines : List Text) : ofLines (lines.map trim) = ofLines lines := by
  cases lines with
  | nil => rfl
  | cons first rest =>
    rw [List.map_cons, ofLines, ofLines, headerNames_trim, trim_trim, dataRows_map_trim]

/-- The lines of a text without the blanks around them, those that something is left of. -/
def shownLines (body : Text) : List Text :=
  ((body.splitOn '\n').map trim).filter (!·.isEmpty)

theorem allBlank_eq (t : Text) : allBlank t = (trim t).isEmpty := by
  rw [Bool.eq_iff_iff, List.isEmpty_iff, trim_eq_nil_iff]
  exact List.all_eq_true

theorem trim_withoutReturn (line : Text) : trim (withoutReturn line) = trim line := by
  have return_blank : AllBlank ['\r'] := List.forall_mem_singleton.2 (by decide)
  have unreturned := (withoutReturn_eq_iff line _).1 rfl
  generalize withoutReturn line = stripped at unreturned
  cases unreturned with
  | bare => rfl
  | returned => exact (Lengthened.trim_eq ⟨_, return_blank, rfl⟩).symm

theorem map_trim_filter (lines : List Text) :
    (lines.filter (!allBlank ·)).map trim = (lines.map trim).filter (!·.isEmpty) := by
  rw [List.filter_map]
  exact congrArg _ (List.filter_congr fun line _ => congrArg _ (allBlank_eq line))

theorem map_trim_contentLines (t : Text) :
    (contentLines t).map trim = shownLines (withoutByteOrderMark t) := by
  rw [contentLines, map_trim_filter, List.map_map, shownLines]
  exact congrArg _ (List.map_congr_left fun line _ => trim_withoutReturn line)

/-- A text is read from its lines without the blanks around them. -/
theorem parse_eq (t : Text) : parse t = ofLines (shownLines (withoutByteOrderMark t)) := by
  rw [parse_eq_ofLines, ← ofLines_map_trim, map_trim_contentLines]

theorem shownLines_append (t u : Text) :
    shownLines (t ++ '\n' :: u) = shownLines t ++ shownLines u := by
  rw [shownLines, splitOn_append_separator, List.map_append, List.filter_append, shownLines,
    shownLines]

theorem shownLines_of_allBlank {t : Text} (blank : AllBlank t) : shownLines t = [] := by
  have blanks : AllBlank (join ['\n'] (t.splitOn '\n')) := by
    rwa [join, List.intercalate_splitOn]
  rw [shownLines, List.filter_eq_nil_iff]
  intro line member
  obtain ⟨piece, listed, rfl⟩ := List.mem_map.1 member
  rw [trim_of_allBlank fun c inside => blanks c (mem_join_of_mem listed inside)]
  decide

theorem withoutByteOrderMark_cons {c : Char} (other : c ≠ byteOrderMark) (cs : Text) :
    withoutByteOrderMark (c :: cs) = c :: cs := if_neg other

theorem withoutByteOrderMark_append (t u : Text) :
    withoutByteOrderMark (t ++ '\n' :: u) = withoutByteOrderMark t ++ '\n' :: u := by
  cases t with
  | nil => exact withoutByteOrderMark_cons (by decide) u
  | cons c cs =>
    rw [List.cons_append, withoutByteOrderMark, withoutByteOrderMark]
    split <;> rfl

theorem withoutByteOrderMark_of_other {t : Text} (other : t.head? ≠ some byteOrderMark) :
    withoutByteOrderMark t = t :=
  (withoutByteOrderMark_eq_iff t t).2 (.bare other)

theorem head?_of_allBlank {t u : Text} (blank : AllBlank t)
    (other : u.head? ≠ some byteOrderMark) : (t ++ u).head? ≠ some byteOrderMark := by
  cases t with
  | nil => exact other
  | cons c cs =>
    intro same
    obtain rfl := Option.some.inj same
    exact absurd (blank _ List.mem_cons_self) (by decide)

/-- A line feed in place of every carriage return with a line feed behind it. -/
def withLineFeeds : Text → Text
  | '\r' :: '\n' :: cs => '\n' :: withLineFeeds cs
  | c :: cs => c :: withLineFeeds cs
  | [] => []

/-- Lines that end otherwise lose a blank at the most. -/
theorem forall₂_splitOn_withLineFeeds (t : Text) :
    List.Forall₂ Lengthened ((withLineFeeds t).splitOn '\n') (t.splitOn '\n') := by
  fun_induction withLineFeeds t with
  | case1 cs ih =>
    have return_blank : AllBlank ['\r'] := List.forall_mem_singleton.2 (by decide)
    rw [splitOn_cons, if_pos rfl, splitOn_cons, if_neg (by decide), splitOn_cons, if_pos rfl]
    exact .cons ⟨['\r'], return_blank, rfl⟩ ih
  | case2 c cs _ ih => exact forall₂_splitOn_cons c ih
  | case3 => exact .cons (lengthened_refl []) .nil

theorem shownLines_withLineFeeds (t : Text) : shownLines (withLineFeeds t) = shownLines t := by
  rw [shownLines, shownLines, map_trim_eq (forall₂_splitOn_withLineFeeds t)]

theorem withoutByteOrderMark_withLineFeeds (t : Text) :
    withoutByteOrderMark (withLineFeeds t) = withLineFeeds (withoutByteOrderMark t) := by
  fun_cases withLineFeeds t with
  | case1 cs =>
    rw [withoutByteOrderMark_cons (by decide), withoutByteOrderMark_cons (by decide), withLineFeeds]
  | case2 c cs other =>
    rw [withoutByteOrderMark, withoutByteOrderMark]
    split
    case isTrue => rfl
    case isFalse => rw [withLineFeeds.eq_2 c cs other]
  | case3 => rfl

/-- A text behind which a line begins. -/
inductive AtLineStart : Text → Prop
  | start : AtLineStart []
  | marked : AtLineStart [byteOrderMark]
  | ended (t : Text) : AtLineStart (t ++ ['\n'])

/-- The second text is the first with blanks as a line of their own: before another line, behind a
last line that does not end, or in place of a last line that is empty. Nothing comes before a
byte-order mark. -/
inductive AddsBlankLine : Text → Text → Prop
  | before {front back blank : Text} : AtLineStart front →
      (front = [] → back.head? ≠ some byteOrderMark) → AllBlank blank →
      AddsBlankLine (front ++ back) (front ++ (blank ++ '\n' :: back))
  | behind {t blank : Text} : AllBlank blank → AddsBlankLine t (t ++ '\n' :: blank)
  | last {t blank : Text} : AtLineStart t → AllBlank blank → AddsBlankLine t (t ++ blank)

theorem shownLines_blank_append {blank : Text} (clear : AllBlank blank) (back : Text) :
    shownLines (blank ++ '\n' :: back) = shownLines back := by
  rw [shownLines_append, shownLines_of_allBlank clear, List.nil_append]

theorem shownLines_append_blank {blank : Text} (clear : AllBlank blank) (front : Text) :
    shownLines (front ++ '\n' :: blank) = shownLines front := by
  rw [shownLines_append, shownLines_of_allBlank clear, List.append_nil]

theorem AddsBlankLine.shownLines_eq {t u : Text} (adds : AddsBlankLine t u) :
    shownLines (withoutByteOrderMark u) = shownLines (withoutByteOrderMark t) := by
  cases adds with
  | @before front back blank begins first clear =>
    cases begins with
    | start =>
      have other : ('\n' :: back).head? ≠ some byteOrderMark := fun same =>
        absurd (Option.some.inj same) (by decide)
      rw [List.nil_append, List.nil_append, withoutByteOrderMark_of_other (first rfl),
        withoutByteOrderMark_of_other (head?_of_allBlank clear other),
        shownLines_blank_append clear]
    | marked =>
      rw [List.singleton_append, List.singleton_append, withoutByteOrderMark, if_pos rfl,
        withoutByteOrderMark, if_pos rfl, shownLines_blank_append clear]
    | ended t =>
      rw [List.append_assoc, List.append_assoc, List.singleton_append, List.singleton_append,
        withoutByteOrderMark_append, withoutByteOrderMark_append, shownLines_append _ back,
        shownLines_append _ (blank ++ '\n' :: back), shownLines_blank_append clear]
  | behind clear => rw [withoutByteOrderMark_append, shownLines_append_blank clear]
  | @last _ blank begins clear =>
    cases begins with
    | start =>
      have other := head?_of_allBlank clear (u := []) (by simp)
      rw [List.append_nil] at other
      rw [List.nil_append, withoutByteOrderMark_of_other other, shownLines_of_allBlank clear]
      rfl
    | marked =>
      rw [List.singleton_append, withoutByteOrderMark, if_pos rfl, shownLines_of_allBlank clear]
      rfl
    | ended t =>
      rw [List.append_assoc, List.singleton_append, withoutByteOrderMark_append,
        withoutByteOrderMark_append, shownLines_append_blank clear,
        shownLines_append_blank (List.forall_mem_nil _)]

/-- A document in front of further lines has their rows in addition. -/
theorem parse_append {t : Text} {d : Document} (read : parse t = .ok d) (more : Text) :
    parse (t ++ '\n' :: more) = .ok ⟨d.headers, d.rows ++
      dataRows d.headers.length ((more.splitOn '\n').filter (!allBlank ·))⟩ := by
  rw [parse_eq] at read
  rw [parse_eq, withoutByteOrderMark_append, shownLines_append]
  cases shape : shownLines (withoutByteOrderMark t) with
  | nil =>
    rw [shape] at read
    cases read
  | cons first rest =>
    rw [shape, ofLines] at read
    rw [List.cons_append, ofLines]
    split at read
    case isTrue => cases read
    case isFalse named =>
      obtain rfl := Except.ok.inj read
      rw [if_neg named, dataRows_append, shownLines, ← map_trim_filter, dataRows_map_trim]

theorem dataRows_rowOf (count : Nat) (lines : List Text) : List.Forall₂ RowOf
    (lines.filter (·.count ',' + 1 == count)) (dataRows count lines) := by
  have width : (fun line : Text => ((fields line).map trim).length == count) =
      fun line => line.count ',' + 1 == count := by
    funext line
    rw [List.length_map, fields, length_splitOn]
  rw [dataRows, List.filter_map]
  refine List.forall₂_map_right_iff.2 ?_
  exact width ▸ List.forall₂_same.2 fun line _ => rowOf_fields line

/-- What is read does not depend on how lines end, on blank lines or on a byte-order mark in front,
whether it is a document or an error. A document in front of another text has one row more for each
line of that text with as many fields as there are headers. -/
theorem parse_lines_alike (t : Text) :
    parse (withLineFeeds t) = parse t ∧
    (∀ u, Relation.ReflTransGen AddsBlankLine t u → parse u = parse t) ∧
    (t.head? ≠ some byteOrderMark → parse (byteOrderMark :: t) = parse t) ∧
    ∀ d, parse t = .ok d → ∀ more, ∃ added,
      parse (t ++ '\n' :: more) = .ok ⟨d.headers, d.rows ++ added⟩ ∧
      List.Forall₂ RowOf ((more.splitOn '\n').filter fun line =>
        !allBlank line && line.count ',' + 1 == d.headers.length) added := by
  refine ⟨?_, ?_, ?_, ?_⟩
  · rw [parse_eq, parse_eq, withoutByteOrderMark_withLineFeeds, shownLines_withLineFeeds]
  · intro u added
    induction added with
    | refl => rfl
    | tail _ adds ih => rw [← ih, parse_eq, parse_eq, adds.shownLines_eq]
  · intro other
    rw [parse_eq, parse_eq, withoutByteOrderMark, if_pos rfl, withoutByteOrderMark_of_other other]
  · intro d read more
    refine ⟨_, parse_append read more, ?_⟩
    have rows := dataRows_rowOf d.headers.length ((more.splitOn '\n').filter (!allBlank ·))
    rw [List.filter_filter] at rows
    simpa only [Bool.and_comm] using rows

end QueryDesk.Csv
