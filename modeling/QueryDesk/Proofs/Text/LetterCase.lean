import Mathlib.Data.List.Forall2
import QueryDesk.Proofs.Text.Cutting
import QueryDesk.Proofs.Text.Encoding

/-!
# The case of letters

Only the letters of ASCII have a case. A change of it leaves the size of a character alone, and it
moves a character into or out of a class only if the class tells the two cases apart (`CaseBlind`).
So what is cut off a text by such a class is cut off in the same place.

* `recased_iff`: two texts differ in the case of letters alone just if they are one in capitals.
-/

set_option autoImplicit false

namespace QueryDesk.Text

/-- The same character, or the same letter in the other case. -/
inductive Recases : Char → Char → Prop
  | same {c : Char} : Recases c c
  | capital {c : Char} : c.isLower = true → Recases c c.toUpper
  | small {c : Char} : c.isLower = true → Recases c.toUpper c

theorem toUpper_eq_self {c : Char} (large : ¬ c.isLower = true) : c.toUpper = c := by
  rw [isLower_iff] at large
  rw [eq_iff_toNat, toNat_toUpper, if_neg large]

theorem toUpper_toUpper (c : Char) : c.toUpper.toUpper = c.toUpper := by
  refine toUpper_eq_self fun small => ?_
  rw [isLower_iff, toNat_toUpper] at small
  split at small <;> omega

theorem recases_iff (c d : Char) : Recases c d ↔ c.toUpper = d.toUpper := by
  constructor
  · intro recases
    cases recases with
    | same => rfl
    | capital => exact (toUpper_toUpper _).symm
    | small => exact toUpper_toUpper _
  · intro capitals
    by_cases small : c.isLower = true
    · by_cases small' : d.isLower = true
      · have one : c = d := by
          rw [isLower_iff] at small small'
          rw [eq_iff_toNat, toNat_toUpper, toNat_toUpper, if_pos small, if_pos small'] at capitals
          rw [eq_iff_toNat]
          omega
        exact one ▸ .same
      · rw [toUpper_eq_self small'] at capitals
        exact capitals ▸ .capital small
    · rw [toUpper_eq_self small] at capitals
      subst capitals
      by_cases small' : d.isLower = true
      · exact .small small'
      · rw [toUpper_eq_self small']
        exact .same

theorem utf8Size_toUpper (c : Char) : c.toUpper.utf8Size = c.utf8Size := by
  by_cases small : c.isLower = true
  · rw [isLower_iff] at small
    have size : c.utf8Size = 1 := utf8Size_ascii (by omega)
    have size' : c.toUpper.utf8Size = 1 := utf8Size_ascii (by rw [toNat_toUpper]; split <;> omega)
    rw [size, size']
  · rw [toUpper_eq_self small]

/-- A character without a case is reached by a capital only from itself. -/
theorem toUpper_eq_iff {d : Char} (caseless : d.isAlpha = false) (c : Char) :
    c.toUpper = d ↔ c = d := by
  rw [Bool.eq_false_iff, ne_eq, isAlpha_iff] at caseless
  rw [eq_iff_toNat, eq_iff_toNat, toNat_toUpper]
  split <;> omega

def CaseBlind (p : Char → Bool) : Prop := ∀ c : Char, p c.toUpper = p c

theorem caseBlind_isAlpha : CaseBlind Char.isAlpha := by
  intro c
  rw [Bool.eq_iff_iff, isAlpha_iff, isAlpha_iff, toNat_toUpper]
  split <;> omega

theorem caseBlind_isDigit : CaseBlind Char.isDigit := by
  intro c
  rw [Bool.eq_iff_iff, isDigit_iff, isDigit_iff, toNat_toUpper]
  split <;> omega

theorem caseBlind_isWordChar : CaseBlind isWordChar := by
  intro c
  rw [Bool.eq_iff_iff, isWordChar_iff, isWordChar_iff, toNat_toUpper]
  split <;> omega

theorem caseBlind_isBlank : CaseBlind isBlank := by
  intro c
  rw [Bool.eq_iff_iff, isBlank_iff, isBlank_iff, toNat_toUpper]
  split <;> omega

theorem caseBlind_isPunctuation : CaseBlind isPunctuation := by
  intro c
  rw [Bool.eq_iff_iff, isPunctuation_iff, isPunctuation_iff, toNat_toUpper]
  split <;> omega

theorem caseBlind_beq {d : Char} (caseless : d.isAlpha = false) : CaseBlind (· == d) := by
  intro c
  rw [Bool.eq_iff_iff, beq_iff_eq, beq_iff_eq, toUpper_eq_iff caseless]

theorem CaseBlind.or {p q : Char → Bool} (blind : CaseBlind p) (blind' : CaseBlind q) :
    CaseBlind fun c => p c || q c :=
  fun c => congrArg₂ Bool.or (blind c) (blind' c)

theorem CaseBlind.comp {p : Char → Bool} (blind : CaseBlind p) : p ∘ Char.toUpper = p :=
  funext blind

@[simp] theorem upper_nil : upper [] = [] := rfl

@[simp] theorem upper_cons (c : Char) (t : Text) : upper (c :: t) = c.toUpper :: upper t := rfl

@[simp] theorem upper_append (t u : Text) : upper (t ++ u) = upper t ++ upper u := List.map_append

@[simp] theorem upper_reverse (t : Text) : upper t.reverse = (upper t).reverse := List.map_reverse

@[simp] theorem upper_eq_nil_iff (t : Text) : upper t = [] ↔ t = [] := List.map_eq_nil_iff

@[simp] theorem isEmpty_upper (t : Text) : (upper t).isEmpty = t.isEmpty := List.isEmpty_map

theorem upper_upper (t : Text) : upper (upper t) = upper t := by
  rw [upper, upper, List.map_map]
  exact congrArg (List.map · t) (funext toUpper_toUpper)

theorem head?_upper (t : Text) : (upper t).head? = t.head?.map Char.toUpper := List.head?_map

theorem byteSize_upper (t : Text) : byteSize (upper t) = byteSize t := by
  induction t with
  | nil => rfl
  | cons c cs ih => rw [upper_cons, byteSize, utf8Size_toUpper, ih, byteSize]

theorem upper_eq_singleton_iff {d : Char} (caseless : d.isAlpha = false) (t : Text) :
    upper t = [d] ↔ t = [d] := by
  cases t with
  | nil => rfl
  | cons c cs => simp [toUpper_eq_iff caseless]

theorem any_head?_upper {p : Char → Bool} (blind : CaseBlind p) (t : Text) :
    (upper t).head?.any p = t.head?.any p := by
  rw [head?_upper, Option.any_map]
  exact congrArg t.head?.any blind.comp

theorem any_getLast?_upper {p : Char → Bool} (blind : CaseBlind p) (t : Text) :
    (upper t).getLast?.any p = t.getLast?.any p := by
  rw [upper, List.getLast?_map, Option.any_map]
  exact congrArg t.getLast?.any blind.comp

theorem startsWithWord_upper (t : Text) : startsWithWord (upper t) = startsWithWord t :=
  any_head?_upper caseBlind_isWordChar t

theorem endsWithWord_upper (t : Text) : endsWithWord (upper t) = endsWithWord t :=
  any_getLast?_upper caseBlind_isWordChar t

theorem allBlank_upper (t : Text) : allBlank (upper t) = allBlank t := by
  rw [allBlank, upper, List.all_map, caseBlind_isBlank.comp, allBlank]

theorem takeWhile_upper {p : Char → Bool} (blind : CaseBlind p) (t : Text) :
    (upper t).takeWhile p = upper (t.takeWhile p) := by
  rw [upper, List.takeWhile_map, blind.comp, upper]

theorem dropWhile_upper {p : Char → Bool} (blind : CaseBlind p) (t : Text) :
    (upper t).dropWhile p = upper (t.dropWhile p) := by
  rw [upper, List.dropWhile_map, blind.comp, upper]

theorem trimStart_upper (t : Text) : trimStart (upper t) = upper (trimStart t) :=
  dropWhile_upper caseBlind_isBlank t

theorem trim_upper (t : Text) : trim (upper t) = upper (trim t) := by
  simp only [trim, trimWhile, dropWhile_upper caseBlind_isBlank, ← upper_reverse]

theorem splitOnP_upper {p : Char → Bool} (blind : CaseBlind p) (t : Text) :
    (upper t).splitOnP p = (t.splitOnP p).map upper := by
  induction t with
  | nil => rfl
  | cons c cs ih =>
    rw [upper_cons, List.splitOnP_cons_eq_if_modifyHead, List.splitOnP_cons_eq_if_modifyHead,
      blind c, ih]
    split
    · rfl
    · cases cs.splitOnP p <;> rfl

theorem words_upper (t : Text) : words (upper t) = (words t).map upper := by
  have full : (fun word : Text => !word.isEmpty) ∘ upper = fun word => !word.isEmpty :=
    funext fun word => congrArg Bool.not (isEmpty_upper word)
  rw [words, splitOnP_upper caseBlind_isBlank, List.filter_map, full, words]

theorem join_upper (separator : Text) (pieces : List Text) :
    join (upper separator) (pieces.map upper) = upper (join separator pieces) := by
  cases pieces with
  | nil => rfl
  | cons first rest =>
    rw [List.map_cons, join, join, intercalate_cons, intercalate_cons, upper_append,
      List.flatMap_map]
    refine congrArg (upper first ++ ·) ?_
    simp only [upper, List.map_flatMap, List.map_append]

/-- Both parts of a cut in capitals. -/
def upperParts (parts : Text × Text) : Text × Text := (upper parts.1, upper parts.2)

theorem upperParts_extend (front : Text) (parts : Text × Text) :
    upperParts (extend front parts) = extend (upper front) (upperParts parts) :=
  Prod.ext (upper_append front parts.1) rfl

theorem through_upper {p : Char → Bool} (blind : CaseBlind p) (t : Text) :
    through p (upper t) = upperParts (through p t) := by
  induction t with
  | nil => rfl
  | cons c cs ih =>
    rw [upper_cons, through, through, blind c, ih]
    split
    · rfl
    · exact (upperParts_extend [c] _).symm

/-- The same text but for the case of letters. -/
def Recased : Text → Text → Prop := List.Forall₂ Recases

theorem recased_iff (t t' : Text) : Recased t t' ↔ upper t = upper t' := by
  have each : Recases = fun c d => c.toUpper = d.toUpper :=
    funext fun c => funext fun d => propext (recases_iff c d)
  rw [Recased, each, upper, upper, ← List.forall₂_eq_eq_eq, List.forall₂_map_left_iff,
    List.forall₂_map_right_iff]

end QueryDesk.Text
