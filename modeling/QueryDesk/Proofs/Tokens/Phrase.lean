import QueryDesk.Sql.Token
import QueryDesk.Proofs.Text.Classes

/-!
# Phrases at a place of a text

`Spells p t` says that a text consists of the words of a phrase, typed in any case, with blanks
between neighbours. The reader of phrases tries the entries of a table one by one; here it is shown
to depend on the table as a set only.

* `takePhrase?_eq_some_iff`: a phrase is taken exactly where it is spelled and no word character
  follows.
* `Spells.comparable`: of two phrases that stand at one place, one begins the other.
* `findPhrase_eq_some_iff`: in a table where no entry begins another, the first match is the only
  one.
-/

set_option autoImplicit false

namespace QueryDesk.Sql

open Text

/-- The words of a phrase in any case, with blanks between neighbours. -/
inductive Spells : Phrase → Text → Prop
  | last {word : Text} : Spells [upper word] word
  | more {words : Phrase} {word gap rest : Text} : gap ≠ [] → (∀ c ∈ gap, isBlank c = true) →
      Spells words rest → Spells (upper word :: words) (word ++ (gap ++ rest))

/-- A phrase of words in capitals. -/
def Phrase.WellFormed (p : Phrase) : Prop :=
  p ≠ [] ∧ ∀ w ∈ p, w ≠ [] ∧ ∀ c ∈ w, c.isUpper = true

/-- A table of which no entry begins another one. -/
structure Phrase.Table (phrases : List Phrase) : Prop where
  wellFormed : ∀ p ∈ phrases, p.WellFormed
  apart : ∀ p ∈ phrases, ∀ q ∈ phrases, p <+: q → p = q

theorem Phrase.table_all : Phrase.Table Phrase.all := by
  refine ⟨?_, ?_⟩
  · have check : (Phrase.all.all fun p =>
        !p.isEmpty && List.all p fun w => !w.isEmpty && w.all Char.isUpper) = true := by
      decide +kernel
    intro p member
    have formed := List.all_eq_true.1 check p member
    simp only [Bool.and_eq_true, Bool.not_eq_true', List.isEmpty_eq_false_iff,
      List.all_eq_true] at formed
    exact formed
  · decide +kernel

theorem Phrase.WellFormed.tail {w : Text} {p : Phrase} (formed : Phrase.WellFormed (w :: p))
    (more : p ≠ []) : p.WellFormed :=
  ⟨more, fun v member => formed.2 v (List.mem_cons_of_mem w member)⟩

/-- What spells a word in capitals is a run of letters. -/
theorem letters_of_upper {word : Text} (capitals : ∀ c ∈ upper word, c.isUpper = true) :
    ∀ c ∈ word, c.isAlpha = true := by
  intro c member
  exact isAlpha_of_isUpper_toUpper (capitals c.toUpper (List.mem_map_of_mem member))

/-- Reserved words have letters only. -/
theorem letters_of_isReserved {word : Text} (reserved : isReserved (upper word) = true) :
    ∀ c ∈ word, c.isAlpha = true := by
  have capitals : (reservedWords.all fun r => r.toList.all Char.isUpper) = true := by
    decide +kernel
  obtain ⟨r, member, same⟩ := List.any_eq_true.1 reserved
  have letters := List.all_eq_true.1 (List.all_eq_true.1 capitals r member)
  rw [beq_iff_eq.1 same] at letters
  exact letters_of_upper letters

theorem Phrase.WellFormed.word {word : Text} {p : Phrase}
    (formed : Phrase.WellFormed (upper word :: p)) : ∀ c ∈ word, isWordChar c = true := by
  intro c member
  exact isWordChar_of_isAlpha (letters_of_upper (formed.2 _ (List.mem_cons_self ..)).2 c member)

theorem Spells.ne_nil {p : Phrase} {t : Text} (spelled : Spells p t) : p ≠ [] := by
  cases spelled <;> simp

/-- A spelled phrase begins with a letter. -/
theorem Spells.head {p : Phrase} {t : Text} (spelled : Spells p t) (formed : p.WellFormed) :
    ∃ c cs, t = c :: cs ∧ c.isAlpha = true := by
  have first {word : Text} {ws : Phrase} (formed : Phrase.WellFormed (upper word :: ws)) :
      ∃ c cs, word = c :: cs ∧ c.isAlpha = true := by
    have formed := formed.2 _ (List.mem_cons_self ..)
    cases word with
    | nil => exact absurd rfl formed.1
    | cons c cs => exact ⟨c, cs, rfl, letters_of_upper formed.2 c (List.mem_cons_self ..)⟩
  cases spelled with
  | last => exact first formed
  | more =>
    obtain ⟨c, cs, rfl, letter⟩ := first formed
    exact ⟨c, _, rfl, letter⟩

/-- The word after a gap stops the gap. -/
theorem Spells.stops_gap {p : Phrase} {t : Text} (spelled : Spells p t) (formed : p.WellFormed)
    (after : Text) : (t ++ after).head?.any isBlank = false := by
  obtain ⟨c, cs, rfl, letter⟩ := spelled.head formed
  exact not_isBlank_of_isWordChar (isWordChar_of_isAlpha letter)

theorem stops_word_of_gap {gap after : Text} (full : gap ≠ [])
    (blank : ∀ c ∈ gap, isBlank c = true) : startsWithWord (gap ++ after) = false := by
  cases gap with
  | nil => exact absurd rfl full
  | cons c cs => exact not_isWordChar_of_isBlank (blank c (List.mem_cons_self ..))

namespace Token

theorem takeWord?_eq_some_iff {w t : Text} {r : Text × Text} :
    takeWord? w t = some r ↔ upper r.1 = w ∧ t = r.1 ++ r.2 := by
  refine ⟨fun found => ?_, ?_⟩
  · refine ⟨?_, (takeWord?_append found).symm⟩
    induction w generalizing t r with
    | nil => cases found; rfl
    | cons w ws ih =>
      cases t with
      | nil => cases found
      | cons c cs =>
        rw [takeWord?] at found
        split at found
        · rename_i same
          obtain ⟨s, hs, rfl⟩ := Option.map_eq_some_iff.1 found
          change c.toUpper :: upper s.1 = w :: ws
          rw [same, ih hs]
        · cases found
  · obtain ⟨word, after⟩ := r
    rintro ⟨rfl, rfl⟩
    induction word with
    | nil => rfl
    | cons c cs ih => simp [upper, takeWord?, extend] at ih ⊢; exact ih

theorem takeWords?_of_spells {p : Phrase} {t after : Text} (spelled : Spells p t)
    (formed : p.WellFormed) : takeWords? p (t ++ after) = some (t, after) := by
  induction spelled with
  | last => exact takeWord?_eq_some_iff.2 ⟨rfl, rfl⟩
  | @more ws word gap rest full blank tail ih =>
    have formedTail := formed.tail tail.ne_nil
    have first : takeWord? (upper word) (word ++ (gap ++ (rest ++ after))) =
        some (word, gap ++ (rest ++ after)) := takeWord?_eq_some_iff.2 ⟨rfl, rfl⟩
    have stops := tail.stops_gap formedTail after
    obtain ⟨v, vs, rfl⟩ := List.exists_cons_of_ne_nil tail.ne_nil
    rw [List.append_assoc, List.append_assoc, takeWords?, first, Option.bind_some]
    · simp only [takeWhile_run blank stops, dropWhile_run blank stops, ih formedTail]
      simp [full, extend]
    · simp

theorem spells_of_takeWords? {p : Phrase} {t : Text} {r : Text × Text} (some_word : p ≠ [])
    (found : takeWords? p t = some r) : Spells p r.1 := by
  fun_induction takeWords? p t generalizing r with
  | case1 t => exact absurd rfl some_word
  | case2 w t =>
    obtain ⟨rfl, -⟩ := takeWord?_eq_some_iff.1 found
    exact .last
  | case3 w ws t more ih =>
    obtain ⟨first, hfirst, tail⟩ := Option.bind_eq_some_iff.1 found
    obtain ⟨rfl, -⟩ := takeWord?_eq_some_iff.1 hfirst
    split at tail
    · cases tail
    · rename_i full
      obtain ⟨s, hs, rfl⟩ := Option.map_eq_some_iff.1 tail
      simp only [extend, List.append_assoc]
      exact .more (by simpa using full) inside_takeWhile (ih first (by simpa using more) hs)

/-- A phrase is taken exactly where it is spelled and no word character follows. -/
theorem takePhrase?_eq_some_iff {p : Phrase} {t : Text} {r : Text × Text} (formed : p.WellFormed) :
    takePhrase? p t = some r ↔
      Spells p r.1 ∧ startsWithWord r.2 = false ∧ t = r.1 ++ r.2 := by
  rw [takePhrase?, Option.filter_eq_some_iff]
  constructor
  · rintro ⟨found, ends⟩
    refine ⟨spells_of_takeWords? formed.1 found, by simp_all, (takeWords?_append found).symm⟩
  · rintro ⟨spelled, ends, rfl⟩
    obtain ⟨c, cs, nonempty, -⟩ := spelled.head formed
    exact ⟨takeWords?_of_spells spelled formed, by simp [nonempty, ends]⟩

end Token

/-- Of two phrases that stand at one place, one begins the other. -/
theorem Spells.comparable {p q : Phrase} {t u after after' : Text} (spelled : Spells p t)
    (spelled' : Spells q u) (formed : p.WellFormed) (formed' : q.WellFormed)
    (ends : startsWithWord after = false) (ends' : startsWithWord after' = false)
    (same : t ++ after = u ++ after') : p <+: q ∨ q <+: p := by
  induction spelled generalizing q u with
  | @last word =>
    cases spelled' with
    | last =>
      obtain ⟨rfl, -⟩ := run_unique same formed.word ends formed'.word ends'
      exact .inl (List.prefix_refl _)
    | more full blank tail =>
      rw [List.append_assoc, List.append_assoc] at same
      obtain ⟨rfl, -⟩ :=
        run_unique same formed.word ends formed'.word (stops_word_of_gap full blank)
      exact .inl (by simp)
  | @more ws word gap rest full blank tail ih =>
    rw [List.append_assoc, List.append_assoc] at same
    cases spelled' with
    | last =>
      obtain ⟨rfl, -⟩ :=
        run_unique same formed.word (stops_word_of_gap full blank) formed'.word ends'
      exact .inr (by simp)
    | @more ws' word' gap' rest' full' blank' tail' =>
      rw [List.append_assoc, List.append_assoc] at same
      have formedTail := formed.tail tail.ne_nil
      have formedTail' := formed'.tail tail'.ne_nil
      obtain ⟨rfl, gaps⟩ := run_unique same formed.word (stops_word_of_gap full blank)
        formed'.word (stops_word_of_gap full' blank')
      obtain ⟨rfl, rests⟩ := run_unique gaps blank (tail.stops_gap formedTail after)
        blank' (tail'.stops_gap formedTail' after')
      rcases ih tail' formedTail formedTail' rests with begins | begins
      · exact .inl (by simpa using begins)
      · exact .inr (by simpa using begins)

namespace Token

/-- A table of phrases of which none begins another has at most one of them at a place, so the
first one found is the one that stands there. -/
theorem findPhrase_eq_some_iff {phrases : List Phrase} (table : Phrase.Table phrases) {t : Text}
    {r : Text × Text} : (phrases.findSome? fun p => takePhrase? p t) = some r ↔
      ∃ p ∈ phrases, Spells p r.1 ∧ startsWithWord r.2 = false ∧ t = r.1 ++ r.2 := by
  constructor
  · intro found
    obtain ⟨p, member, taken⟩ := List.exists_of_findSome?_eq_some found
    exact ⟨p, member, (takePhrase?_eq_some_iff (table.wellFormed p member)).1 taken⟩
  · rintro ⟨p, member, stands⟩
    have taken := (takePhrase?_eq_some_iff (table.wellFormed p member)).2 stands
    cases found : phrases.findSome? fun p => takePhrase? p t with
    | none =>
      rw [List.findSome?_eq_none_iff] at found
      rw [found p member] at taken
      cases taken
    | some s =>
      obtain ⟨q, member', taken'⟩ := List.exists_of_findSome?_eq_some found
      have stands' := (takePhrase?_eq_some_iff (table.wellFormed q member')).1 taken'
      have one : p = q := by
        rcases stands.1.comparable stands'.1 (table.wellFormed p member)
          (table.wellFormed q member') stands.2.1 stands'.2.1
          (stands.2.2.symm.trans stands'.2.2) with begins | begins
        · exact table.apart p member q member' begins
        · exact (table.apart q member' p member begins).symm
      subst one
      rw [← taken', taken]

end Token

end QueryDesk.Sql
