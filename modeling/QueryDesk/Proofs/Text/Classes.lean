import QueryDesk.Text.Alphanumeric
import QueryDesk.Text.Blank

/-!
# Classes of characters and their runs

Each class of characters as bounds on the code point, so that inclusions between classes are
arithmetic. A run is a stretch of characters of one class that no further one of the class follows;
`run_unique` says that a text begins with at most one run of a class.
-/

set_option autoImplicit false

namespace QueryDesk.Text

theorem isUpper_iff (c : Char) : c.isUpper = true ↔ 65 ≤ c.toNat ∧ c.toNat ≤ 90 := by
  change decide ('A'.val ≤ c.val ∧ c.val ≤ 'Z'.val) = true ↔ _
  rw [decide_eq_true_eq, UInt32.le_iff_toNat_le, UInt32.le_iff_toNat_le]
  exact Iff.rfl

theorem isLower_iff (c : Char) : c.isLower = true ↔ 97 ≤ c.toNat ∧ c.toNat ≤ 122 := by
  change (decide ('a'.val ≤ c.val) && decide (c.val ≤ 'z'.val)) = true ↔ _
  rw [Bool.and_eq_true, decide_eq_true_eq, decide_eq_true_eq, UInt32.le_iff_toNat_le,
    UInt32.le_iff_toNat_le]
  exact Iff.rfl

theorem isDigit_iff (c : Char) : c.isDigit = true ↔ 48 ≤ c.toNat ∧ c.toNat ≤ 57 := by
  change (decide ('0'.val ≤ c.val) && decide (c.val ≤ '9'.val)) = true ↔ _
  rw [Bool.and_eq_true, decide_eq_true_eq, decide_eq_true_eq, UInt32.le_iff_toNat_le,
    UInt32.le_iff_toNat_le]
  exact Iff.rfl

theorem isAlpha_iff (c : Char) : c.isAlpha = true ↔
    (65 ≤ c.toNat ∧ c.toNat ≤ 90) ∨ (97 ≤ c.toNat ∧ c.toNat ≤ 122) := by
  change (c.isUpper || c.isLower) = true ↔ _
  rw [Bool.or_eq_true, isUpper_iff, isLower_iff]

theorem eq_iff_toNat (c d : Char) : c = d ↔ c.toNat = d.toNat :=
  ⟨congrArg Char.toNat, Char.toNat_inj.1⟩

theorem isWordChar_iff (c : Char) : isWordChar c = true ↔
    (65 ≤ c.toNat ∧ c.toNat ≤ 90) ∨ (97 ≤ c.toNat ∧ c.toNat ≤ 122) ∨
      (48 ≤ c.toNat ∧ c.toNat ≤ 57) ∨ c.toNat = 95 := by
  rw [isWordChar, Bool.or_eq_true, Char.isAlphanum, Bool.or_eq_true, isAlpha_iff, isDigit_iff,
    beq_iff_eq, eq_iff_toNat, or_assoc, or_assoc]
  exact Iff.rfl

theorem isBlank_iff (c : Char) : isBlank c = true ↔
    (9 ≤ c.toNat ∧ c.toNat ≤ 13) ∨ c.toNat = 32 ∨ c.toNat = 133 ∨ c.toNat = 160 ∨
      c.toNat = 5760 ∨ (8192 ≤ c.toNat ∧ c.toNat ≤ 8202) ∨
      (8232 ≤ c.toNat ∧ c.toNat ≤ 8233) ∨ c.toNat = 8239 ∨ c.toNat = 8287 ∨ c.toNat = 12288 := by
  simp only [isBlank, inRanges, blankRanges, List.any_cons, List.any_nil, Bool.or_false,
    Bool.or_eq_true, Bool.and_eq_true, decide_eq_true_eq]
  omega

theorem isPunctuation_iff (c : Char) : isPunctuation c = true ↔
    (33 ≤ c.toNat ∧ c.toNat ≤ 47) ∨ (58 ≤ c.toNat ∧ c.toNat ≤ 64) ∨
      (91 ≤ c.toNat ∧ c.toNat ≤ 96) ∨ (123 ≤ c.toNat ∧ c.toNat ≤ 126) := by
  simp only [isPunctuation, Bool.or_eq_true, Bool.and_eq_true, decide_eq_true_eq,
    Char.le_def, UInt32.le_iff_toNat_le, or_assoc]
  exact Iff.rfl

theorem toNat_toUpper (c : Char) :
    c.toUpper.toNat = if 97 ≤ c.toNat ∧ c.toNat ≤ 122 then c.toNat - 32 else c.toNat := by
  unfold Char.toUpper
  by_cases small : 97 ≤ c.toNat ∧ c.toNat ≤ 122
  · have small' : 'a'.val ≤ c.val ∧ c.val ≤ 'z'.val := by
      simp only [UInt32.le_iff_toNat_le]
      exact small
    rw [dif_pos small', if_pos small]
    change (c.val + ('A'.val - 'a'.val)).toNat = c.val.toNat - 32
    have low : 97 ≤ c.val.toNat := small.1
    have high : c.val.toNat ≤ 122 := small.2
    have step : ('A'.val - 'a'.val).toNat = 2 ^ 32 - 32 := by decide
    rw [UInt32.toNat_add, step]
    omega
  · have small' : ¬ ('a'.val ≤ c.val ∧ c.val ≤ 'z'.val) := by
      simp only [UInt32.le_iff_toNat_le]
      exact small
    rw [dif_neg small', if_neg small]

theorem isWordChar_of_isAlpha {c : Char} (letter : c.isAlpha = true) : isWordChar c = true := by
  simp [isWordChar, Char.isAlphanum, letter]

theorem isWordChar_of_isDigit {c : Char} (digit : c.isDigit = true) : isWordChar c = true := by
  simp [isWordChar, Char.isAlphanum, digit]

theorem isAlpha_of_isUpper_toUpper {c : Char} (capital : c.toUpper.isUpper = true) :
    c.isAlpha = true := by
  rw [isUpper_iff, toNat_toUpper] at capital
  rw [isAlpha_iff]
  split at capital <;> omega

theorem not_isBlank_of_isWordChar {c : Char} (word : isWordChar c = true) :
    isBlank c = false := by
  rw [isWordChar_iff] at word
  rw [Bool.eq_false_iff, ne_eq, isBlank_iff]
  omega

/-- Ranges that lie apart have no character in common. -/
theorem not_inRanges_of_apart {ranges others : List (Nat × Nat)} {c : Char}
    (apart : ∀ r ∈ ranges, ∀ o ∈ others, r.2 < o.1 ∨ o.2 < r.1) (inside : inRanges ranges c = true) :
    inRanges others c = false := by
  simp only [inRanges, List.any_eq_true, Bool.and_eq_true, decide_eq_true_eq] at inside
  simp only [inRanges, List.any_eq_false, Bool.and_eq_true, decide_eq_true_eq]
  obtain ⟨r, member, bounds⟩ := inside
  intro o member'
  have := apart r member o member'
  omega

theorem not_isBlank_of_isAlphanumeric {c : Char} (letter : isAlphanumeric c = true) :
    isBlank c = false := by
  rw [isAlphanumeric, Bool.or_eq_true, Bool.and_eq_true] at letter
  rcases letter with ascii | ⟨-, listed⟩
  · exact not_isBlank_of_isWordChar (by simp [isWordChar, ascii])
  · exact not_inRanges_of_apart (by decide +kernel) listed

theorem not_isWordChar_of_isBlank {c : Char} (blank : isBlank c = true) :
    isWordChar c = false := by
  cases word : isWordChar c with
  | false => rfl
  | true =>
    rw [not_isBlank_of_isWordChar word] at blank
    cases blank

theorem not_isAlpha_of_not_isWordChar {c : Char} (mark : isWordChar c = false) :
    c.isAlpha = false := by
  cases letter : c.isAlpha with
  | false => rfl
  | true =>
    rw [isWordChar_of_isAlpha letter] at mark
    cases mark

theorem not_isDigit_of_not_isWordChar {c : Char} (mark : isWordChar c = false) :
    c.isDigit = false := by
  cases digit : c.isDigit with
  | false => rfl
  | true =>
    rw [isWordChar_of_isDigit digit] at mark
    cases mark

theorem not_isPunctuation_of_isBlank {c : Char} (blank : isBlank c = true) :
    isPunctuation c = false := by
  rw [isBlank_iff] at blank
  rw [Bool.eq_false_iff, ne_eq, isPunctuation_iff]
  omega

theorem not_isAlpha_of_isDigit {c : Char} (digit : c.isDigit = true) : c.isAlpha = false := by
  rw [isDigit_iff] at digit
  rw [Bool.eq_false_iff, ne_eq, isAlpha_iff]
  omega

theorem takeWhile_run {α : Type} {p : α → Bool} {run after : List α}
    (inside : ∀ c ∈ run, p c = true) (stops : after.head?.any p = false) :
    (run ++ after).takeWhile p = run := by
  rw [List.takeWhile_append_of_pos inside]
  cases after with
  | nil => simp
  | cons c cs => simp_all

theorem dropWhile_run {α : Type} {p : α → Bool} {run after : List α}
    (inside : ∀ c ∈ run, p c = true) (stops : after.head?.any p = false) :
    (run ++ after).dropWhile p = after := by
  rw [List.dropWhile_append_of_pos inside]
  cases after with
  | nil => simp
  | cons c cs => simp_all

/-- Where a run ends does not depend on how it is cut off. -/
theorem run_unique {α : Type} {p : α → Bool} {run run' after after' : List α}
    (same : run ++ after = run' ++ after')
    (inside : ∀ c ∈ run, p c = true) (stops : after.head?.any p = false)
    (inside' : ∀ c ∈ run', p c = true) (stops' : after'.head?.any p = false) :
    run = run' ∧ after = after' := by
  have runs : run = run' := by
    rw [← takeWhile_run inside stops, same, takeWhile_run inside' stops']
  subst runs
  exact ⟨rfl, List.append_cancel_left same⟩

theorem ne_of_not_mem {t : Text} {d : Char} (absent : d ∉ t) : ∀ c ∈ t, (c != d) = true := by
  intro c member
  rw [bne_iff_ne]
  exact fun same => absent (same ▸ member)

theorem stops_dropWhile (p : Char → Bool) (t : Text) : (t.dropWhile p).head?.any p = false := by
  induction t with
  | nil => rfl
  | cons c cs ih => by_cases inside : p c <;> simp [inside, ih]

theorem inside_takeWhile {p : Char → Bool} {t : Text} : ∀ c ∈ t.takeWhile p, p c = true :=
  List.all_eq_true.1 List.all_takeWhile

/-- What is left when the ends are cut off neither begins nor ends in the class. -/
theorem trimWhile_stops (p : Char → Bool) (t : Text) :
    (trimWhile p t).head?.any p = false ∧ (trimWhile p t).getLast?.any p = false := by
  have front := stops_dropWhile p t
  have back := stops_dropWhile p (t.dropWhile p).reverse
  have parts : trimWhile p t ++ ((t.dropWhile p).reverse.takeWhile p).reverse = t.dropWhile p := by
    rw [trimWhile, ← List.reverse_append, List.takeWhile_append_dropWhile, List.reverse_reverse]
  refine ⟨?_, ?_⟩
  · cases shape : trimWhile p t with
    | nil => rfl
    | cons c cs =>
      rw [← parts, shape] at front
      exact front
  · rw [trimWhile, List.getLast?_reverse]
    exact back

/-- A trimmed text begins with no blank and ends in none. -/
theorem trim_stops (t : Text) :
    (trim t).head?.any isBlank = false ∧ (trim t).getLast?.any isBlank = false :=
  trimWhile_stops isBlank t

end QueryDesk.Text
