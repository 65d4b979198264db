import QueryDesk.Text.Basic

/-!
# Byte offsets between characters

An offset into a text is a boundary if a whole number of characters lies before it. Characters are
not empty, so a boundary is reached by one prefix only (`prefix_unique`), and between two of them
`slice` gives exactly the characters there (`slice_between`).
-/

set_option autoImplicit false

namespace QueryDesk.Text

/-- Whether an offset stands between two characters, or at an end. -/
def Boundary (t : Text) (n : Nat) : Prop := ∃ front rest, t = front ++ rest ∧ byteSize front = n

theorem byteSize_eq_zero {t : Text} (none : byteSize t = 0) : t = [] := by
  cases t with
  | nil => rfl
  | cons c cs =>
    have := Char.utf8Size_pos c
    simp only [byteSize] at none
    omega

theorem byteSize_pos {t : Text} (full : t ≠ []) : 0 < byteSize t :=
  Nat.pos_of_ne_zero fun none => full (byteSize_eq_zero none)

/-- Only one prefix of a text has a given size. -/
theorem prefix_unique {a b a' b' : Text} (same : a ++ b = a' ++ b')
    (size : byteSize a = byteSize a') : a = a' ∧ b = b' := by
  induction a generalizing a' with
  | nil =>
    have := byteSize_eq_zero size.symm
    subst this
    exact ⟨rfl, same⟩
  | cons c cs ih =>
    cases a' with
    | nil =>
      have := byteSize_eq_zero size
      cases this
    | cons d ds =>
      obtain ⟨rfl, tails⟩ := List.cons.inj same
      have sizes : byteSize cs = byteSize ds := by
        simp only [byteSize] at size
        omega
      obtain ⟨rfl, rests⟩ := ih tails sizes
      exact ⟨rfl, rests⟩

theorem Boundary.le {t : Text} {n : Nat} (boundary : Boundary t n) : n ≤ byteSize t := by
  obtain ⟨front, rest, rfl, rfl⟩ := boundary
  rw [byteSize_append]
  exact Nat.le_add_right _ _

theorem dropBytes_zero (t : Text) : dropBytes t 0 = t := by
  cases t <;> rfl

theorem takeBytes_zero (t : Text) : takeBytes t 0 = [] := by
  cases t <;> rfl

theorem dropBytes_append (a b : Text) : dropBytes (a ++ b) (byteSize a) = b := by
  induction a with
  | nil => exact dropBytes_zero b
  | cons c cs ih =>
    have := Char.utf8Size_pos c
    have some : c.utf8Size + byteSize cs ≠ 0 := by omega
    simp only [List.cons_append, byteSize, dropBytes, if_neg some, Nat.add_sub_cancel_left, ih]

theorem takeBytes_append (a b : Text) : takeBytes (a ++ b) (byteSize a) = a := by
  induction a with
  | nil => exact takeBytes_zero b
  | cons c cs ih =>
    have := Char.utf8Size_pos c
    have some : c.utf8Size + byteSize cs ≠ 0 := by omega
    simp only [List.cons_append, byteSize, takeBytes, if_neg some, Nat.add_sub_cancel_left, ih]

theorem slice_between (front middle rest : Text) :
    slice (front ++ (middle ++ rest)) (byteSize front) (byteSize (front ++ middle)) = middle := by
  rw [slice, dropBytes_append, byteSize_append, Nat.add_sub_cancel_left, takeBytes_append]

end QueryDesk.Text
