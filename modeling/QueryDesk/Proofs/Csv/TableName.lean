import QueryDesk.Session
import QueryDesk.Proofs.Csv.Statements
import QueryDesk.Proofs.Tokens.Completeness

/-!
# Table names in statements

A name that a file suggests has word characters only, and it is written bare into both statements of
a plan. There it is one token, but not always that of an identifier: a name of digits is a number,
and a reserved word is a keyword. `tableFor_identifier` says what the name is scanned as, and which
file names suggest an identifier.
-/

set_option autoImplicit false

namespace QueryDesk.Sql

open Text

/-- The kind of a name of word characters that stands alone. -/
def bareKind (name : Text) : TokenKind :=
  if name.all Char.isDigit then .number else Token.wordKind name

variable {name gap after : Text}

/-- Every phrase has a second word. -/
theorem Phrase.all_long : ∀ p ∈ Phrase.all, 2 ≤ p.length := by decide +kernel

/-- A word begins no phrase if what follows the blanks after it begins no word. -/
theorem no_phrase_of_mark (inside : ∀ c ∈ name, isWordChar c = true) (full : gap ≠ [])
    (blank : AllBlank gap) (mark : startsWithWord after = false)
    (visible : after.head?.any isBlank = false) {before : Text} :
    ¬ Rule.phrase.Applies Phrase.all before (name ++ (gap ++ after)) := by
  rintro ⟨token, behind, same, taken⟩
  cases taken with
  | @phrase _ lexeme _ p member spelled =>
    have formed := Phrase.table_all.wellFormed p member
    cases spelled with
    | last => exact absurd (Phrase.all_long _ member) (by simp)
    | @more ws word gap' rest full' blank' tail =>
      have formedTail := formed.tail tail.ne_nil
      obtain ⟨c, cs, rfl, letter⟩ := tail.head formedTail
      rw [List.append_assoc, List.append_assoc] at same
      obtain ⟨-, gaps⟩ := run_unique same inside (stops_word_of_gap full blank)
        formed.word (stops_word_of_gap full' blank')
      obtain ⟨-, rfl⟩ := run_unique gaps blank visible blank' (tail.stops_gap formedTail behind)
      have begins : isWordChar c = false := mark
      rw [isWordChar_of_isAlpha letter] at begins
      cases begins

/-- A number at the front of a name that stands alone is all of it. -/
theorem digits_of_number (inside : ∀ c ∈ name, isWordChar c = true)
    (stops : startsWithWord after = false) {before : Text}
    (applies : Rule.number.Applies Phrase.all before (name ++ after))
    (point : after.head? ≠ some '.') : name.all Char.isDigit = true := by
  obtain ⟨token, behind, same, taken⟩ := applies
  cases taken with
  | @wholeNumber _ whole _ full digits ends bare =>
    obtain ⟨rfl, -⟩ := run_unique same inside stops (digits_word digits) ends
    exact List.all_eq_true.2 digits
  | @fraction _ whole _ _ full digits full' digits' ends =>
    rw [List.append_assoc, List.cons_append] at same
    obtain ⟨-, rfl⟩ := run_unique same inside stops (digits_word digits) rfl
    exact absurd rfl point

/-- A name that blanks and a mark follow is one token. -/
theorem obeys_bare (named : name ≠ []) (inside : ∀ c ∈ name, isWordChar c = true)
    (full : gap ≠ []) (blank : AllBlank gap) (mark : startsWithWord after = false)
    (visible : after.head?.any isBlank = false) :
    Obeys Phrase.all [] ⟨bareKind name, name⟩ (gap ++ after) := by
  have stops : startsWithWord (gap ++ after) = false := stops_word_of_gap full blank
  have point : (gap ++ after).head? ≠ some '.' := by
    obtain ⟨c, cs, rfl⟩ := List.exists_cons_of_ne_nil full
    have here := blank c List.mem_cons_self
    rintro ⟨⟩
    cases here
  have phrase := @no_phrase_of_mark name gap after inside full blank mark visible []
  have region {e : Rule} (early : e ∈ Rule.phrase.earlier) :
      ¬ e.Applies Phrase.all [] (name ++ (gap ++ after)) := by
    obtain ⟨c, cs, rfl⟩ := List.exists_cons_of_ne_nil named
    have letter := inside c List.mem_cons_self
    exact no_region Phrase.table_all (not_opener_of_isWordChar letter) early _
  unfold bareKind
  split
  case isTrue digits =>
    refine ⟨.number, .wholeNumber named (List.all_eq_true.1 digits) stops ?_, ?_⟩
    · intro d rest shape
      rw [shape] at point
      exact absurd rfl point
    · intro e earlier
      rcases Rule.earlier_number earlier with early | rfl
      · exact region early
      · exact phrase
  case isFalse other =>
    refine ⟨.word, .word named inside stops, fun e earlier applies => ?_⟩
    rcases Rule.earlier_word earlier with early | rfl | rfl
    · exact region early applies
    · exact phrase applies
    · exact other (digits_of_number inside stops applies point)

theorem bareKind_eq_plain_iff : bareKind name = .plain ↔
    name.all Char.isDigit = false ∧ isReserved (upper name) = false := by
  unfold bareKind Token.wordKind
  cases name.all Char.isDigit <;> cases isReserved (upper name) <;> simp

end QueryDesk.Sql

namespace QueryDesk.Csv

open Text Sql

/-- A name that can stand for a table without quotes. -/
structure IsIdentifier (name : Text) : Prop where
  begins : ∃ c cs, name = c :: cs ∧ (c.isAlpha = true ∨ c = '_')
  inside : ∀ c ∈ name, isWordChar c = true
  free : isReserved (upper name) = false

/-- What is kept of a stem is an identifier: the first character kept is no digit, and all of it is
no reserved word. A blank is kept as an underscore, which no reserved word has. -/
structure IsUsable (stem : Text) : Prop where
  begins : ∀ c, stem.find? (fun c => isBlank c || isWordChar c) = some c → c.isDigit = false
  free : (∃ c ∈ stem, isBlank c = true) ∨ isReserved (upper (stem.filter isWordChar)) = false

theorem word_cleanName (afterBlank : Bool) (t : Text) :
    ∀ c ∈ cleanName afterBlank t, isWordChar c = true := by
  induction t generalizing afterBlank with
  | nil => nofun
  | cons c cs ih =>
    unfold cleanName
    split
    · split
      · exact ih true
      · exact List.forall_mem_cons.2 ⟨rfl, ih true⟩
    · split
      · exact List.forall_mem_cons.2 ⟨by assumption, ih false⟩
      · exact ih false

theorem cleanName_of_visible {t : Text} (visible : ∀ c ∈ t, isBlank c = false)
    (afterBlank : Bool) : cleanName afterBlank t = t.filter isWordChar := by
  induction t generalizing afterBlank with
  | nil => rfl
  | cons c cs ih =>
    obtain ⟨here, rest⟩ := List.forall_mem_cons.1 visible
    rw [cleanName, here, if_neg Bool.false_ne_true, ih rest, List.filter_cons]

theorem underscore_mem_cleanName {t : Text} (blank : ∃ c ∈ t, isBlank c = true) :
    '_' ∈ cleanName false t := by
  induction t with
  | nil =>
    obtain ⟨c, member, -⟩ := blank
    cases member
  | cons c cs ih =>
    unfold cleanName
    split
    · exact List.mem_cons_self
    · rename_i visible
      have rest : '_' ∈ cleanName false cs := by
        obtain ⟨d, member, here⟩ := blank
        rcases List.mem_cons.1 member with rfl | member
        · exact absurd here visible
        · exact ih ⟨d, member, here⟩
      split
      · exact List.mem_cons_of_mem c rest
      · exact rest

theorem head?_cleanName (t : Text) : (cleanName false t).head? =
    (t.find? fun c => isBlank c || isWordChar c).map fun c => if isBlank c then '_' else c := by
  induction t with
  | nil => rfl
  | cons c cs ih =>
    unfold cleanName
    by_cases blank : isBlank c = true
    · simp [blank]
    · by_cases word : isWordChar c = true
      · simp [blank, word]
      · simp [blank, word, ih]

/-- A name of word characters is an identifier if it begins with no digit and is not reserved. -/
theorem isIdentifier_iff {name : Text} (full : name ≠ [])
    (inside : ∀ c ∈ name, isWordChar c = true) : IsIdentifier name ↔
      name.head?.any Char.isDigit = false ∧ isReserved (upper name) = false := by
  obtain ⟨c, cs, rfl⟩ := List.exists_cons_of_ne_nil full
  have first : (c.isAlpha = true ∨ c = '_') ↔ c.isDigit = false := by
    have word := inside c List.mem_cons_self
    rw [isWordChar_iff] at word
    rw [Bool.eq_false_iff, ne_eq, isAlpha_iff, isDigit_iff, eq_iff_toNat]
    change _ ∨ c.toNat = 95 ↔ _
    omega
  constructor
  · rintro ⟨⟨d, ds, same, begins⟩, -, free⟩
    obtain ⟨rfl, rfl⟩ := List.cons.inj same
    exact ⟨first.1 begins, free⟩
  · rintro ⟨digit, free⟩
    exact ⟨⟨c, cs, rfl, first.2 digit⟩, inside, free⟩

/-- An identifier is scanned as a plain word, and such a word is one unless it begins with a
digit. -/
theorem isIdentifier_iff_bareKind {name : Text} (full : name ≠ [])
    (inside : ∀ c ∈ name, isWordChar c = true) : IsIdentifier name ↔
      bareKind name = .plain ∧ name.head?.any Char.isDigit = false := by
  rw [isIdentifier_iff full inside, bareKind_eq_plain_iff]
  have some_other (digit : name.head?.any Char.isDigit = false) :
      name.all Char.isDigit = false := by
    obtain ⟨c, cs, rfl⟩ := List.exists_cons_of_ne_nil full
    have here : c.isDigit = false := digit
    rw [List.all_cons, here, Bool.false_and]
  constructor
  · rintro ⟨digit, free⟩
    exact ⟨⟨some_other digit, free⟩, digit⟩
  · rintro ⟨⟨-, free⟩, digit⟩
    exact ⟨digit, free⟩

/-- The name that is kept of a stem is an identifier just if the stem is usable. -/
theorem isIdentifier_cleanName_iff {stem : Text} (full : cleanName false stem ≠ []) :
    IsIdentifier (cleanName false stem) ↔ IsUsable stem := by
  have inside := word_cleanName false stem
  have first : (cleanName false stem).head?.any Char.isDigit = false ↔
      ∀ c, stem.find? (fun c => isBlank c || isWordChar c) = some c → c.isDigit = false := by
    rw [head?_cleanName]
    cases stem.find? fun c => isBlank c || isWordChar c with
    | none => simp
    | some c =>
      by_cases blank : isBlank c = true
      · have digit := not_isDigit_of_not_isWordChar (not_isWordChar_of_isBlank blank)
        simp [blank, digit]
      · simp [blank]
  have free : isReserved (upper (cleanName false stem)) = false ↔
      (∃ c ∈ stem, isBlank c = true) ∨ isReserved (upper (stem.filter isWordChar)) = false := by
    by_cases blank : ∃ c ∈ stem, isBlank c = true
    · refine iff_of_true ?_ (.inl blank)
      cases reserved : isReserved (upper (cleanName false stem)) with
      | false => rfl
      | true =>
        have letter := letters_of_isReserved reserved _ (underscore_mem_cleanName blank)
        cases letter
    · have visible : ∀ c ∈ stem, isBlank c = false := by simpa using blank
      rw [cleanName_of_visible visible]
      exact (or_iff_right blank).symm
  rw [isIdentifier_iff full inside, first, free]
  exact ⟨fun usable => ⟨usable.1, usable.2⟩, fun usable => ⟨usable.begins, usable.free⟩⟩

/-- Whether a name that begins at an offset of a text is one token there. -/
def NamedAt (source : Text) (start : Nat) (name : Text) : Prop :=
  ∃ s ∈ Span.raw source, s.start = start ∧ s.token source = ⟨bareKind name, name⟩

theorem split_phrase (p : Phrase) (lexeme : Text) (member : p ∈ Phrase.all)
    (found : Token.takeWords? p lexeme = some (lexeme, [])) (after : Text) :
    Token.split (lexeme ++ ' ' :: after) =
      ⟨.keywordPhrase, lexeme⟩ :: ⟨.plain, [' ']⟩ :: Token.split after := by
  have formed := Phrase.table_all.wellFormed p member
  have phrase : Obeys Phrase.all [] ⟨.keywordPhrase, lexeme⟩ (' ' :: after) :=
    obeys_phrase member (Token.spells_of_takeWords? formed.1 found) rfl
  have space : Obeys Phrase.all [] ⟨.plain, [' ']⟩ after :=
    obeys_blank Phrase.table_all (by decide)
  have rest := split_cons space
  rw [List.singleton_append] at rest
  rw [← rest]
  exact split_cons phrase

/-- A name before a list of columns is one token after any that it does not run into. -/
theorem namedAt_of_front {name : Text} (front : List Token) (full : name ≠ [])
    (inside : ∀ c ∈ name, isWordChar c = true)
    (read : ∀ after, Token.split (Token.concat front ++ after) = front ++ Token.split after)
    (columns : Text) :
    NamedAt (Token.concat front ++ (name ++ (' ' :: '(' :: columns)))
      (byteSize (Token.concat front)) name := by
  have one : Obeys Phrase.all [] ⟨bareKind name, name⟩ ([' '] ++ '(' :: columns) :=
    obeys_bare full inside (by decide) (List.forall_mem_singleton.2 (by decide)) rfl rfl
  have divided := read (name ++ (' ' :: '(' :: columns))
  rw [show Token.split (name ++ (' ' :: '(' :: columns)) = _ from split_cons one] at divided
  exact Span.mem_raw_of_split divided

theorem namedAt_createStatement {name : Text} (full : name ≠ [])
    (inside : ∀ c ∈ name, isWordChar c = true) (headers : List Text) (types : List ColumnType) :
    NamedAt (createStatement name headers types) 27 name := by
  have create := split_phrase ["CREATE".toList, "TABLE".toList] "CREATE TABLE".toList
    (by decide +kernel) (by decide)
  have missing := split_phrase ["IF".toList, "NOT".toList, "EXISTS".toList]
    "IF NOT EXISTS".toList (by decide +kernel) (by decide)
  rw [createStatement_eq]
  simp only [List.append_assoc]
  refine namedAt_of_front [⟨.keywordPhrase, "CREATE TABLE".toList⟩, ⟨.plain, [' ']⟩,
    ⟨.keywordPhrase, "IF NOT EXISTS".toList⟩, ⟨.plain, [' ']⟩] full inside (fun after => ?_) _
  have whole := create ("IF NOT EXISTS".toList ++ ' ' :: after)
  rw [missing after] at whole
  exact whole

theorem namedAt_insertStatement {name : Text} (full : name ≠ [])
    (inside : ∀ c ∈ name, isWordChar c = true) (headers : List Text) {rows : List (List Text)}
    (some_row : rows ≠ []) : NamedAt (insertStatement name headers rows) 12 name := by
  have insert := split_phrase ["INSERT".toList, "INTO".toList] "INSERT INTO".toList
    (by decide +kernel) (by decide)
  rw [insertStatement_eq name headers some_row]
  simp only [List.append_assoc]
  exact namedAt_of_front [⟨.keywordPhrase, "INSERT INTO".toList⟩, ⟨.plain, [' ']⟩] full inside
    insert _

/-- The file name at the end of a path without its extension. -/
def fileStem (path : Text) : Text := stem ((Files.fileName? path).getD [])

theorem tableFor_eq_ok_iff {path name : Text} : Session.tableFor path none = .ok name ↔
    name = cleanName false (fileStem path) ∧ name ≠ [] := by
  change (if (cleanName false (fileStem path)).isEmpty then Except.error _ else
    Except.ok (cleanName false (fileStem path))) = Except.ok name ↔ _
  cases shape : cleanName false (fileStem path) with
  | nil => simp
  | cons c cs =>
    constructor
    · rintro ⟨⟩
      exact ⟨rfl, List.cons_ne_nil c cs⟩
    · rintro ⟨rfl, -⟩
      rfl

/-- A name that a file suggests is one token of either statement. It is an identifier just if it is
a plain word that begins with no digit, and that depends on the stem of the file name alone. -/
theorem tableFor_identifier {path name : Text}
    (named : Session.tableFor path none = .ok name) :
    (name ≠ [] ∧ ∀ c ∈ name, isWordChar c = true) ∧
    (∀ headers types, NamedAt (createStatement name headers types) 27 name) ∧
    (∀ headers rows, rows ≠ [] → NamedAt (insertStatement name headers rows) 12 name) ∧
    (IsIdentifier name ↔ bareKind name = .plain ∧ name.head?.any Char.isDigit = false) ∧
    (IsIdentifier name ↔ IsUsable (fileStem path)) := by
  obtain ⟨rfl, full⟩ := tableFor_eq_ok_iff.1 named
  have inside := word_cleanName false (fileStem path)
  refine ⟨⟨full, inside⟩, ?_, ?_, ?_, ?_⟩
  · exact namedAt_createStatement full inside
  · intro headers rows some_row
    exact namedAt_insertStatement full inside headers some_row
  · exact isIdentifier_iff_bareKind full inside
  · exact isIdentifier_cleanName_iff full

theorem tableFor_identifier_report :
    Session.tableFor "reports/Q1 sales-2024.csv".toList none = .ok "Q1_sales2024".toList ∧
      IsIdentifier "Q1_sales2024".toList ∧
      NamedAt (createStatement "Q1_sales2024".toList ["id".toList] [.integer]) 27
        "Q1_sales2024".toList := by
  have named : Session.tableFor "reports/Q1 sales-2024.csv".toList none =
      .ok "Q1_sales2024".toList := by decide +kernel
  obtain ⟨-, created, -, -, usable⟩ := tableFor_identifier named
  have stem : IsUsable (fileStem "reports/Q1 sales-2024.csv".toList) := by
    refine ⟨fun c kept => ?_, .inl ⟨' ', by decide +kernel, by decide⟩⟩
    obtain rfl : 'Q' = c := Option.some.inj kept
    rfl
  exact ⟨named, usable.2 stem, created _ _⟩

/-- A file can suggest a number as the name of a table. -/
theorem tableFor_no_identifier : ¬ ∀ path name : Text,
    Session.tableFor path none = .ok name → IsIdentifier name ∧ bareKind name = .plain := by
  intro identifier
  have number := (identifier "1.csv".toList ['1'] (by decide +kernel)).2
  cases number

end QueryDesk.Csv
