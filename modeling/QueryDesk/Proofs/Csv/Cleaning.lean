import QueryDesk.Proofs.Csv.TableName

/-!
# How a file name is cleaned

What is left of a file name is said here without the loop that finds it. `StemOf` takes the extension
off, if there is one, and `Cleans` puts one underscore for each maximal run of blanks and leaves the
word characters of the rest. Each of them is a function (`stemOf_iff`, `cleans_iff`).

* `tableName_cleans`: a table name is its file name's stem, cleaned, and cleaning it again changes
  nothing.
-/

set_option autoImplicit false

namespace QueryDesk.Csv

open Text

/-- What stands behind the last point of a file name, if it is an extension. -/
structure Extension (t : Text) : Prop where
  full : t ≠ []
  point : '.' ∉ t
  slash : '/' ∉ t

/-- A file name and what is left of it without its extension. -/
inductive StemOf : Text → Text → Prop
  | cut {stem extension : Text} : Extension extension → StemOf (stem ++ '.' :: extension) stem
  | whole {fileName : Text} : (∀ stem extension, fileName = stem ++ '.' :: extension →
      ¬ Extension extension) → StemOf fileName fileName

theorem cutAtLastPoint?_eq_some_iff {t before after : Text} :
    cutAtLastPoint? t = some (before, after) ↔ t = before ++ '.' :: after ∧ '.' ∉ after := by
  constructor
  · intro found
    unfold cutAtLastPoint? at found
    split at found
    · cases found
    · rename_i point rest shape
      cases found
      have whole := List.takeWhile_append_dropWhile (p := (· != '.')) (l := t.reverse)
      have stops := stops_dropWhile (· != '.') t.reverse
      rw [shape] at whole stops
      obtain rfl : point = '.' := by simpa using stops
      refine ⟨?_, fun inside => ?_⟩
      · have back := congrArg List.reverse whole
        rw [List.reverse_reverse, List.reverse_append, List.reverse_cons, List.append_assoc] at back
        exact back.symm
      · have other := inside_takeWhile '.' (List.mem_reverse.1 inside)
        exact absurd other (by decide)
  · rintro ⟨rfl, bare⟩
    have inside : ∀ c ∈ after.reverse, (c != '.') = true :=
      ne_of_not_mem fun member => bare (List.mem_reverse.1 member)
    have shape : (before ++ '.' :: after).reverse = after.reverse ++ '.' :: before.reverse := by
      rw [List.reverse_append, List.reverse_cons, List.append_assoc]
      rfl
    have front : (after.reverse ++ '.' :: before.reverse).takeWhile (· != '.') = after.reverse :=
      takeWhile_run inside rfl
    have back : (after.reverse ++ '.' :: before.reverse).dropWhile (· != '.') =
        '.' :: before.reverse := dropWhile_run inside rfl
    rw [cutAtLastPoint?, shape, front, back, List.reverse_reverse]
    exact congrArg (fun u : Text => some (u, after)) (List.reverse_reverse before)

theorem extension_iff (t : Text) :
    Extension t ↔ '.' ∉ t ∧ ¬ (t.isEmpty || t.contains '/') = true := by
  rw [Bool.or_eq_true, List.isEmpty_iff, List.contains_iff_mem, not_or]
  exact ⟨fun extension => ⟨extension.point, extension.full, extension.slash⟩,
    fun ⟨point, full, slash⟩ => ⟨full, point, slash⟩⟩

theorem stem_of_extension {before after : Text} (extension : Extension after) :
    stem (before ++ '.' :: after) = before := by
  have cut : cutAtLastPoint? (before ++ '.' :: after) = some (before, after) :=
    cutAtLastPoint?_eq_some_iff.2 ⟨rfl, extension.point⟩
  rw [stem, cut]
  exact if_neg ((extension_iff after).1 extension).2

theorem stem_of_none {fileName : Text}
    (none : ∀ before after, fileName = before ++ '.' :: after → ¬ Extension after) :
    stem fileName = fileName := by
  unfold stem
  split
  · rename_i before after found
    obtain ⟨shape, point⟩ := cutAtLastPoint?_eq_some_iff.1 found
    split
    · rfl
    · rename_i rest
      exact absurd ((extension_iff after).2 ⟨point, rest⟩) (none before after shape)
  · rfl

theorem stemOf_iff (fileName t : Text) : StemOf fileName t ↔ t = stem fileName := by
  constructor
  · intro stemOf
    cases stemOf with
    | cut extension => exact (stem_of_extension extension).symm
    | whole none => exact (stem_of_none none).symm
  · rintro rfl
    by_cases some : ∃ before after, fileName = before ++ '.' :: after ∧ Extension after
    · obtain ⟨before, after, rfl, extension⟩ := some
      rw [stem_of_extension extension]
      exact .cut extension
    · have none : ∀ before after, fileName = before ++ '.' :: after → ¬ Extension after :=
        fun before after shape extension => some ⟨before, after, shape, extension⟩
      rw [stem_of_none none]
      exact .whole none

/-- A text and what is left of it: an underscore for every run of blanks, as long as it goes, and of
the other characters those of words. -/
inductive Cleans : Text → Text → Prop
  | nil : Cleans [] []
  | blanks {run t name : Text} : run ≠ [] → AllBlank run → t.head?.any isBlank = false →
      Cleans t name → Cleans (run ++ t) ('_' :: name)
  | word {c : Char} {t name : Text} : isWordChar c = true → Cleans t name →
      Cleans (c :: t) (c :: name)
  | other {c : Char} {t name : Text} : isBlank c = false → isWordChar c = false →
      Cleans t name → Cleans (c :: t) name

/-- After a blank the rest of its run is passed over. -/
theorem cleanName_run {run t : Text} (blank : AllBlank run) (stops : t.head?.any isBlank = false) :
    cleanName true (run ++ t) = cleanName false t := by
  induction run with
  | nil =>
    cases t with
    | nil => rfl
    | cons c cs =>
      have visible : isBlank c = false := stops
      rw [List.nil_append, cleanName, cleanName, visible, if_neg Bool.false_ne_true,
        if_neg Bool.false_ne_true]
  | cons c cs ih =>
    obtain ⟨here, rest⟩ := List.forall_mem_cons.1 blank
    rw [List.cons_append, cleanName, if_pos here, if_pos rfl, ih rest]

theorem Cleans.eq {t name : Text} (cleans : Cleans t name) : name = cleanName false t := by
  induction cleans with
  | nil => rfl
  | @blanks run t name full blank stops _ ih =>
    obtain ⟨c, cs, rfl⟩ := List.exists_cons_of_ne_nil full
    obtain ⟨here, rest⟩ := List.forall_mem_cons.1 blank
    rw [List.cons_append, cleanName, if_pos here, if_neg Bool.false_ne_true,
      cleanName_run rest stops, ih]
  | word letter _ ih =>
    rw [cleanName, not_isBlank_of_isWordChar letter, if_neg Bool.false_ne_true, if_pos letter, ih]
  | other visible mark _ ih =>
    rw [cleanName, visible, mark, if_neg Bool.false_ne_true, if_neg Bool.false_ne_true, ih]

/-- A text is cleaned, and so is what stands behind the blanks at its front. -/
theorem cleans_cleanName (t : Text) : Cleans t (cleanName false t) ∧
    ∃ run rest, t = run ++ rest ∧ AllBlank run ∧ rest.head?.any isBlank = false ∧
      Cleans rest (cleanName true t) := by
  induction t with
  | nil => exact ⟨.nil, [], [], rfl, List.forall_mem_nil _, rfl, .nil⟩
  | cons c cs ih =>
    obtain ⟨cleans, run, rest, rfl, blank, stops, later⟩ := ih
    by_cases here : isBlank c = true
    · have longer : AllBlank (c :: run) := List.forall_mem_cons.2 ⟨here, blank⟩
      rw [cleanName, cleanName, if_pos here, if_pos here, if_neg Bool.false_ne_true, if_pos rfl]
      exact ⟨.blanks (List.cons_ne_nil c run) longer stops later, c :: run, rest, rfl, longer, stops,
        later⟩
    · have visible : isBlank c = false := Bool.eq_false_iff.2 here
      have one : Cleans (c :: (run ++ rest)) (cleanName false (c :: (run ++ rest))) := by
        rw [cleanName, if_neg here]
        split
        case isTrue letter => exact .word letter cleans
        case isFalse mark => exact .other visible (Bool.eq_false_iff.2 mark) cleans
      refine ⟨one, [], c :: (run ++ rest), rfl, List.forall_mem_nil _, visible, ?_⟩
      rw [cleanName, if_neg here]
      rw [cleanName, if_neg here] at one
      exact one

theorem cleans_iff (t name : Text) : Cleans t name ↔ name = cleanName false t :=
  ⟨Cleans.eq, fun same => same ▸ (cleans_cleanName t).1⟩

theorem cleanName_eq_nil_iff (t : Text) :
    cleanName false t = [] ↔ ∀ c ∈ t, isBlank c = false ∧ isWordChar c = false := by
  rw [← List.head?_eq_none_iff, head?_cleanName, Option.map_eq_none_iff, List.find?_eq_none]
  simp only [Bool.not_eq_true, Bool.or_eq_false_iff]

/-- A name of word characters has no extension and nothing to be cleaned of. -/
theorem tableName_of_word {name : Text} (word : ∀ c ∈ name, isWordChar c = true) :
    tableName name = name := by
  have bare : StemOf name name := .whole fun before after shape _ => by
    have point := word '.' (shape ▸ List.mem_append_right before List.mem_cons_self)
    cases point
  have visible : ∀ c ∈ name, isBlank c = false := fun c member =>
    not_isBlank_of_isWordChar (word c member)
  rw [tableName, ← (stemOf_iff name name).1 bare, cleanName_of_visible visible,
    List.filter_eq_self.2 word]

/-- The name for a table is what is left of the file name's one stem when it is cleaned: word
characters only, and none just if the stem has neither blanks nor word characters. It suggests
itself as a name. -/
theorem tableName_cleans (fileName : Text) :
    ∃ stem, (∀ t, StemOf fileName t ↔ t = stem) ∧
      (∀ name, Cleans stem name ↔ name = tableName fileName) ∧
      (∀ c ∈ tableName fileName, isWordChar c = true) ∧
      tableName (tableName fileName) = tableName fileName ∧
      (tableName fileName = [] ↔ ∀ c ∈ stem, isBlank c = false ∧ isWordChar c = false) := by
  have word : ∀ c ∈ tableName fileName, isWordChar c = true := word_cleanName false (stem fileName)
  exact ⟨stem fileName, stemOf_iff fileName, cleans_iff (stem fileName), word,
    tableName_of_word word, cleanName_eq_nil_iff (stem fileName)⟩

end QueryDesk.Csv
