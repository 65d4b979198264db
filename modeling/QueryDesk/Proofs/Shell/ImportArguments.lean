import QueryDesk.Shell.Command
import QueryDesk.Proofs.Text.Cutting
import QueryDesk.Proofs.Cursor.Agreement

/-!
# What to import, as it is written

A path is written between quotes or bare (`WritesPath`) and a table behind it (`WritesTable`).
Reading gives back both, and it fails for the texts of `NoPath` alone (`parse?_eq_none_iff`).

The reader is said here a second time with offsets into the text, as it finds and cuts at them
(`ImportRequest.sliced`). No such cut fails, and the two agree.

* `importArguments_invert`: what was written is read, nothing else is refused than `NoPath`, and
  every offset lies between characters.
-/

set_option autoImplicit false

namespace QueryDesk.Shell

open Text
open Sql (first_or_none beq_false_of_not_mem)

def IsQuote (c : Char) : Prop := c = '"' ∨ c = '\''

instance (c : Char) : Decidable (IsQuote c) := inferInstanceAs (Decidable (_ ∨ _))

/-- A path as it is written: between quotes of a kind that is not in it, or bare if it has no blanks
and no quote in front. -/
inductive WritesPath (path : Text) : Text → Prop
  | quoted {quote : Char} : IsQuote quote → quote ∉ path →
      WritesPath path (quote :: (path ++ [quote]))
  | bare : (∀ c ∈ path, isBlank c = false) → (∀ c ∈ path.head?, ¬ IsQuote c) →
      WritesPath path path

/-- What stands behind a path: blanks alone, or blanks and the name of a table, and after it nothing
or a blank and anything else. -/
inductive WritesTable : Option Text → Text → Prop
  | none {gap : Text} : AllBlank gap → WritesTable none gap
  | some {gap name more : Text} : gap ≠ [] → AllBlank gap → name ≠ [] →
      (∀ c ∈ name, isBlank c = false) → (∀ c ∈ more.head?, isBlank c = true) →
      WritesTable (some name) (gap ++ (name ++ more))

/-- The trimmed texts in which there is no path. -/
inductive NoPath : Text → Prop
  | nothing : NoPath []
  | unclosed {quote : Char} {rest : Text} : IsQuote quote → quote ∉ rest → NoPath (quote :: rest)
  | nameless {quote : Char} {rest : Text} : IsQuote quote → NoPath (quote :: quote :: rest)

/-- The offsets before and after the first character with property `p`, if there is one. -/
def firstMatch? (p : Char → Bool) : Text → Option (Nat × Nat)
  | [] => none
  | c :: cs =>
    if p c then some (0, c.utf8Size)
    else (firstMatch? p cs).map fun m => (c.utf8Size + m.1, c.utf8Size + m.2)

/-- The texts before and after the first `quote`, which is one octet long. -/
def slicedQuoted (quote : Char) (inner : Text) : Except BadOffset (Option (Text × Text)) :=
  match firstMatch? (· == quote) inner with
  | none => .ok none
  | some (close, _) => do
    let path ← textBetween inner 0 close
    let after ← textFrom inner (close + 1)
    return some (path, after)

/-- The texts before and after the first blank, or all of the text. -/
def slicedBare (t : Text) : Except BadOffset (Option (Text × Text)) :=
  match firstMatch? isBlank t with
  | none => .ok (some (t, []))
  | some (stop, next) => do
    let path ← textBetween t 0 stop
    let after ← textFrom t next
    return some (path, after)

/-- The path at the front, and the text after it. -/
def slicedPath : Text → Except BadOffset (Option (Text × Text))
  | [] => .ok none
  | c :: cs =>
    if IsQuote c then do
      let inner ← textFrom (c :: cs) 1
      slicedQuoted c inner
    else slicedBare (c :: cs)

/-- A path, and after it the name of a table if there is a word left. -/
def ImportRequest.sliced (rest : Text) : Except BadOffset (Option ImportRequest) := do
  let parts ← slicedPath (trim rest)
  return parts.bind fun r => if r.1.isEmpty then none else some ⟨r.1, (words r.2).head?⟩

section Find

variable {p : Char → Bool} {front rest : Text} {c : Char}

/-- A text without characters of a class, or one that is cut at the first of them. -/
theorem exists_first (p : Char → Bool) (t : Text) : (∀ c ∈ t, p c = false) ∨
    ∃ front c rest, t = front ++ c :: rest ∧ (∀ d ∈ front, p d = false) ∧ p c = true := by
  cases found : t.find? p with
  | none => exact .inl fun c member => Bool.eq_false_iff.2 (List.find?_eq_none.1 found c member)
  | some c =>
    obtain ⟨here, front, rest, rfl, before⟩ := List.find?_eq_some_iff_append.1 found
    exact .inr ⟨front, c, rest, rfl, fun d member => by simpa using before d member, here⟩

theorem firstMatch?_none {t : Text} (absent : ∀ c ∈ t, p c = false) : firstMatch? p t = none := by
  induction t with
  | nil => rfl
  | cons c cs ih =>
    obtain ⟨here, rest⟩ := List.forall_mem_cons.1 absent
    rw [firstMatch?, here, ih rest]
    rfl

theorem firstMatch?_append (before : ∀ d ∈ front, p d = false) (here : p c = true) :
    firstMatch? p (front ++ c :: rest) = some (byteSize front, byteSize (front ++ [c])) := by
  induction front with
  | nil =>
    rw [List.nil_append, firstMatch?, if_pos here]
    rfl
  | cons d ds ih =>
    obtain ⟨other, others⟩ := List.forall_mem_cons.1 before
    rw [List.cons_append, firstMatch?, other, ih others]
    rfl

theorem cutAt_none {t : Text} (absent : ∀ c ∈ t, p c = false) : cutAt p t = (t, []) := by
  have inside : ∀ c ∈ t, (!p c) = true := fun c member => by rw [absent c member]; rfl
  have stops : ([] : Text).head?.any (!p ·) = false := rfl
  have front := takeWhile_run inside stops
  have back := dropWhile_run inside stops
  rw [List.append_nil] at front back
  rw [cutAt, front, back]
  rfl

theorem cutAt_append (before : ∀ d ∈ front, p d = false) (here : p c = true) :
    cutAt p (front ++ c :: rest) = (front, rest) := by
  have inside : ∀ d ∈ front, (!p d) = true := fun d member => by rw [before d member]; rfl
  have stops : (c :: rest).head?.any (!p ·) = false := by
    change (!p c) = false
    rw [here]
    rfl
  rw [cutAt, takeWhile_run inside stops, dropWhile_run inside stops]
  rfl

end Find

section Path

variable {quote c : Char} {path cs tail t : Text}

/-- A quote is one octet long. -/
theorem byteSize_quote (quoted : IsQuote quote) : byteSize [quote] = 1 := by
  rcases quoted with rfl | rfl <;> rfl

theorem cutPath?_unclosed (opened : IsQuote quote) (alone : quote ∉ cs) :
    cutPath? (quote :: cs) = none := by
  have absent : ¬ cs.contains quote = true := fun found => alone (List.contains_iff_mem.1 found)
  rw [cutPath?, if_neg absent]
  exact if_pos opened

theorem cutPath?_quoted (opened : IsQuote quote) (absent : quote ∉ path) :
    cutPath? (quote :: (path ++ quote :: tail)) = some (path, tail) := by
  have closed : (path ++ quote :: tail).contains quote = true :=
    List.contains_iff_mem.2 (List.mem_append_right path List.mem_cons_self)
  rw [cutPath?, if_pos closed, cutAt_append (beq_false_of_not_mem absent) (beq_self_eq_true quote)]
  exact if_pos opened

theorem cutPath?_bare (unquoted : ¬ IsQuote c) :
    cutPath? (c :: cs) = some (cutAt isBlank (c :: cs)) := by
  rw [cutPath?]
  exact if_neg unquoted

/-- A bare path goes up to a blank, or to the end. -/
theorem cutPath?_visible (full : path ≠ []) (visible : ∀ c ∈ path, isBlank c = false)
    (unquoted : ∀ c ∈ path.head?, ¬ IsQuote c) (stops : ∀ c ∈ tail.head?, isBlank c = true) :
    cutPath? (path ++ tail) = some (path, tail.drop 1) := by
  obtain ⟨d, ds, rfl⟩ := List.exists_cons_of_ne_nil full
  rw [List.cons_append, cutPath?_bare (unquoted d rfl), ← List.cons_append]
  cases tail with
  | nil => rw [List.append_nil, cutAt_none visible]; rfl
  | cons blank after => rw [cutAt_append visible (stops blank rfl)]; rfl

/-- The texts before and after a character, cut out by their offsets. -/
theorem slices_append (front : Text) (c : Char) (rest : Text) (n : Nat)
    (size : n = byteSize (front ++ [c])) : (do
      let path ← textBetween (front ++ c :: rest) 0 (byteSize front)
      let after ← textFrom (front ++ c :: rest) n
      return some (path, after)) = Except.ok (some (front, rest)) := by
  have path : textBetween (front ++ c :: rest) 0 (byteSize front) = .ok front :=
    textBetween_append [] front (c :: rest)
  have after : textFrom (front ++ c :: rest) n = .ok rest := by
    rw [size, List.append_cons, textFrom_append]
  rw [path, after]
  rfl

theorem slicedQuoted_eq (quoted : IsQuote quote) (inner : Text) :
    slicedQuoted quote inner = .ok (cutPath? (quote :: inner)) := by
  rcases first_or_none quote inner with ⟨path, tail, rfl, absent⟩ | alone
  · have found : firstMatch? (· == quote) (path ++ quote :: tail) =
        some (byteSize path, byteSize (path ++ [quote])) :=
      firstMatch?_append (beq_false_of_not_mem absent) (beq_self_eq_true quote)
    have size : byteSize path + 1 = byteSize (path ++ [quote]) := by
      rw [byteSize_append, byteSize_quote quoted]
    rw [slicedQuoted, found, cutPath?_quoted quoted absent]
    exact slices_append path quote tail _ size
  · rw [slicedQuoted, firstMatch?_none (beq_false_of_not_mem alone),
      cutPath?_unclosed quoted alone]

theorem slicedBare_eq (unquoted : ¬ IsQuote c) :
    slicedBare (c :: cs) = .ok (cutPath? (c :: cs)) := by
  rw [cutPath?_bare unquoted]
  obtain visible | ⟨path, blank, tail, shape, before, here⟩ := exists_first isBlank (c :: cs)
  · rw [slicedBare, firstMatch?_none visible, cutAt_none visible]
  · rw [shape, slicedBare, firstMatch?_append before here, cutAt_append before here]
    exact slices_append path blank tail _ rfl

/-- Offsets at which a path is cut off lie between characters. -/
theorem slicedPath_eq (t : Text) : slicedPath t = .ok (cutPath? t) := by
  cases t with
  | nil => rfl
  | cons c cs =>
    rw [slicedPath]
    split
    case isTrue quoted =>
      have inner : textFrom (c :: cs) 1 = .ok cs := by
        rw [← byteSize_quote quoted]
        exact textFrom_append [c] cs
      rw [inner]
      exact slicedQuoted_eq quoted cs
    case isFalse unquoted => exact slicedBare_eq unquoted

theorem sliced_eq (rest : Text) :
    ImportRequest.sliced rest = .ok (ImportRequest.parse? rest) := by
  rw [ImportRequest.sliced, slicedPath_eq]
  rfl

/-- A text without blanks at its front has no path, or one that is cut off. -/
theorem noPath_or_cut (trimmed : t.head?.any isBlank = false) :
    NoPath t ∧ (∀ path tail, cutPath? t = some (path, tail) → path = []) ∨
      ¬ NoPath t ∧ ∃ path tail, path ≠ [] ∧ cutPath? t = some (path, tail) := by
  cases t with
  | nil => exact .inl ⟨.nothing, fun _ _ found => nomatch found⟩
  | cons c cs =>
    by_cases quoted : IsQuote c
    · rcases first_or_none c cs with ⟨path, tail, rfl, absent⟩ | alone
      · rw [cutPath?_quoted quoted absent]
        cases path with
        | nil => exact .inl ⟨.nameless quoted, fun _ _ found => by cases found; rfl⟩
        | cons first rest =>
          refine .inr ⟨fun noPath => ?_, _, _, List.cons_ne_nil first rest, rfl⟩
          cases noPath with
          | unclosed _ alone => exact alone (List.mem_append_right _ List.mem_cons_self)
          | nameless => exact absent List.mem_cons_self
      · rw [cutPath?_unclosed quoted alone]
        exact .inl ⟨.unclosed quoted alone, fun _ _ found => nomatch found⟩
    · have visible : isBlank c = false := trimmed
      have path : (cutAt isBlank (c :: cs)).1 ≠ [] := by simp [cutAt, visible]
      refine .inr ⟨fun noPath => ?_, _, _, path, cutPath?_bare quoted⟩
      cases noPath with
      | unclosed opened => exact quoted opened
      | nameless opened => exact quoted opened

end Path

theorem parse?_eq_some_iff (rest : Text) (request : ImportRequest) :
    ImportRequest.parse? rest = some request ↔ ∃ path tail, path ≠ [] ∧
      cutPath? (trim rest) = some (path, tail) ∧ request = ⟨path, (words tail).head?⟩ := by
  rw [ImportRequest.parse?, Option.bind_eq_some_iff]
  constructor
  · rintro ⟨⟨path, tail⟩, cut, found⟩
    by_cases empty : path = []
    · rw [if_pos (List.isEmpty_iff.2 empty)] at found
      cases found
    · rw [if_neg fun none => empty (List.isEmpty_iff.1 none)] at found
      cases found
      exact ⟨path, tail, empty, cut, rfl⟩
  · rintro ⟨path, tail, full, cut, rfl⟩
    exact ⟨(path, tail), cut, if_neg fun none => full (List.isEmpty_iff.1 none)⟩

theorem parse?_eq_none_iff (rest : Text) :
    ImportRequest.parse? rest = none ↔ NoPath (trim rest) := by
  obtain ⟨noPath, empty⟩ | ⟨held, path, tail, full, cut⟩ :=
    noPath_or_cut (trimmed_trim rest).front
  · refine ⟨fun _ => noPath, fun _ => Option.eq_none_iff_forall_ne_some.2 fun request found => ?_⟩
    obtain ⟨path, tail, full, cut, -⟩ := (parse?_eq_some_iff rest request).1 found
    exact full (empty path tail cut)
  · have found := (parse?_eq_some_iff rest _).2 ⟨path, tail, full, cut, rfl⟩
    rw [found]
    exact ⟨fun none => (nomatch none), fun noPath => absurd noPath held⟩

/-- What is read has a path with characters in it, and a table without blanks if it has one. -/
theorem wellFormed_of_parse? {rest : Text} {request : ImportRequest}
    (found : ImportRequest.parse? rest = some request) : request.path ≠ [] ∧
      ∀ name ∈ request.table, name ≠ [] ∧ ∀ c ∈ name, isBlank c = false := by
  obtain ⟨path, tail, full, -, rfl⟩ := (parse?_eq_some_iff rest request).1 found
  exact ⟨full, fun name member => mem_words (List.mem_of_head? member)⟩

section Writing

variable {path written after : Text} {table : Option Text}

/-- Blanks stand behind a path, if anything does. -/
theorem WritesTable.gap (writes : WritesTable table after) :
    ∀ c ∈ after.head?, isBlank c = true := by
  cases writes with
  | none blank => exact fun c member => blank c (List.mem_of_head? member)
  | @some gap name more full blank =>
    obtain ⟨d, ds, rfl⟩ := List.exists_cons_of_ne_nil full
    rintro c ⟨⟩
    exact blank d List.mem_cons_self

theorem WritesTable.head?_words (writes : WritesTable table after) :
    (words after).head? = table := by
  cases writes with
  | none blank => rw [words_of_allBlank blank]; rfl
  | @some gap name more _ blank full visible stops =>
    rw [words_gap blank]
    cases more with
    | nil => rw [List.append_nil, words_of_visible full visible]; rfl
    | cons c cs => rw [words_append_blank (stops c rfl), words_of_visible full visible]; rfl

theorem WritesPath.ends (writes : WritesPath path written) (full : path ≠ []) :
    written ≠ [] ∧ Trimmed written := by
  cases writes with
  | @quoted quote opened _ =>
    have visible : isBlank quote = false := by rcases opened with rfl | rfl <;> decide
    refine ⟨List.cons_ne_nil _ _, visible, ?_⟩
    rw [← List.cons_append, List.getLast?_append]
    exact visible
  | bare visible _ => exact ⟨full, trimmed_of_visible visible⟩

/-- A path is cut off where it was written, and one blank behind it if it is bare. -/
theorem WritesPath.cutPath? (writes : WritesPath path written) (full : path ≠ []) {tail : Text}
    (stops : ∀ c ∈ tail.head?, isBlank c = true) : ∃ rest,
      Shell.cutPath? (written ++ tail) = some (path, rest) ∧ words rest = words tail := by
  cases writes with
  | @quoted quote opened absent =>
    refine ⟨tail, ?_, rfl⟩
    rw [List.cons_append, List.append_assoc]
    exact cutPath?_quoted opened absent
  | bare visible unquoted =>
    refine ⟨tail.drop 1, cutPath?_visible full visible unquoted stops, ?_⟩
    cases tail with
    | nil => rfl
    | cons c cs => exact (words_append_blank (stops c rfl) [] cs).symm

theorem parse?_written {front : Text} (blank : AllBlank front) (full : path ≠ [])
    (writesPath : WritesPath path written) (writesTable : WritesTable table after) :
    ImportRequest.parse? (front ++ (written ++ after)) = some ⟨path, table⟩ := by
  obtain ⟨some, trimmed⟩ := writesPath.ends full
  obtain ⟨kept, back, blank', rfl, cut⟩ := exists_trim_append blank some trimmed after
  have stops : ∀ c ∈ kept.head?, isBlank c = true := by
    intro c member
    refine writesTable.gap c ?_
    rw [List.head?_append, Option.mem_def.1 member]
    rfl
  obtain ⟨rest, found, same⟩ := writesPath.cutPath? full stops
  refine (parse?_eq_some_iff _ _).2 ⟨path, rest, full, ?_, ?_⟩
  · rw [cut, found]
  · rw [same, ← words_append_gap blank' kept, writesTable.head?_words]

end Writing

/-- What is written with blanks around it is what is read. Nothing is read from the texts of
`NoPath` alone; from all others a path and perhaps a table that are not empty, and no text is cut
inside a character. -/
theorem importArguments_invert :
    (∀ (front written after path : Text) (table : Option Text), AllBlank front → path ≠ [] →
      WritesPath path written → WritesTable table after →
      ImportRequest.parse? (front ++ (written ++ after)) = some ⟨path, table⟩) ∧
    ∀ rest : Text, (ImportRequest.parse? rest = none ↔ NoPath (trim rest)) ∧
      (∀ request, ImportRequest.parse? rest = some request → request.path ≠ [] ∧
        ∀ name ∈ request.table, name ≠ [] ∧ ∀ c ∈ name, isBlank c = false) ∧
      ImportRequest.sliced rest = .ok (ImportRequest.parse? rest) :=
  ⟨fun _ _ _ _ _ blank full path table => parse?_written blank full path table,
    fun rest => ⟨parse?_eq_none_iff rest, fun _ found => wellFormed_of_parse? found,
      sliced_eq rest⟩⟩

/-- A path with a blank at its end and the other quote in it, with words behind its table; and one
without a name. -/
theorem importArguments_invert_quoted :
    ImportRequest.parse? " \"Bob's list \"\t\u00a0rides now ".toList =
        some ⟨"Bob's list ".toList, some "rides".toList⟩ ∧
      ImportRequest.parse? "'' rides".toList = none := by
  have blank : AllBlank [' '] := List.forall_mem_singleton.2 (by decide)
  have path : WritesPath "Bob's list ".toList ('"' :: ("Bob's list ".toList ++ ['"'])) :=
    .quoted (.inl rfl) (by decide)
  have gap : AllBlank "\t\u00a0".toList :=
    List.all_eq_true.1 (show "\t\u00a0".toList.all isBlank = true by decide)
  have word := List.all_eq_true.1 (show "rides".toList.all isWordChar = true by decide)
  have visible : ∀ c ∈ "rides".toList, isBlank c = false :=
    fun c member => not_isBlank_of_isWordChar (word c member)
  have table : WritesTable (some "rides".toList)
      ("\t\u00a0".toList ++ ("rides".toList ++ " now ".toList)) :=
    .some (by decide) gap (by decide) visible (by rintro c ⟨⟩; decide)
  have noPath : NoPath (trim "'' rides".toList) := by
    have trimmed : trim "'' rides".toList = '\'' :: '\'' :: " rides".toList := by decide
    rw [trimmed]
    exact .nameless (.inr rfl)
  exact ⟨importArguments_invert.1 _ _ _ _ _ blank (by decide) path table,
    (importArguments_invert.2 _).1.2 noPath⟩

end QueryDesk.Shell
