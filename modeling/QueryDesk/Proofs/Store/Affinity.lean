import QueryDesk.Proofs.Engine.Tables
import QueryDesk.Store.Table

/-!
# What a store makes of a text

A column of numbers takes a text for a number just if it is written as an ordinary decimal number
(`affinity_storedText`).
-/

set_option autoImplicit false

namespace QueryDesk.Store

open Text Csv

/-- What a column of a type makes of a text. -/
def storedText (type : ColumnType) (field : Text) : Value := stored type (.text field)

variable {type : ColumnType} {field : Text}

/-- A store looks for a number in all of a field, which has no blanks around it. -/
theorem numeral?_trimmed (trimmed : Trimmed field) : numeral? field = Numeral.parse? field := by
  have solid {c? : Option Char} (visible : c?.any isBlank = false) : c?.any isSpacing = false := by
    cases c? with
    | none => rfl
    | some c =>
      refine Bool.eq_false_iff.2 fun spacing => ?_
      have blank : isBlank c = true := by
        change (c == ' ' || (9 ≤ c.toNat && c.toNat ≤ 13)) = true at spacing
        simp only [Bool.or_eq_true, beq_iff_eq, Bool.and_eq_true, decide_eq_true_eq] at spacing
        rcases spacing with rfl | bounds
        · decide
        · exact (isBlank_iff c).2 (.inl bounds)
      exact absurd (visible.symm.trans blank) (by decide)
  rw [numeral?, trimWhile_eq_self (solid trimmed.front) (solid trimmed.back)]

theorem isNumber_asInteger (x : Binary64) : IsNumber (asInteger x) := by
  rw [asInteger]
  split
  · exact .inl ⟨_, rfl⟩
  · exact .inr ⟨_, rfl⟩

theorem stored_literal (trimmed : Trimmed field) (number : type ≠ .text)
    (literal : Numeral.Literal field) : IsNumber (stored type (.text field)) := by
  obtain ⟨n, read⟩ := Option.isSome_iff_exists.1 ((Numeral.isSome_parse?_iff field).2 literal)
  rw [← numeral?_trimmed trimmed] at read
  cases type with
  | text => exact absurd rfl number
  | integer =>
    rw [stored, read]
    dsimp only
    split
    · exact .inl ⟨_, rfl⟩
    · exact isNumber_asInteger _
  | real =>
    rw [stored, read]
    exact .inr ⟨_, rfl⟩

theorem stored_other (trimmed : Trimmed field) (other : ¬ Numeral.Literal field) :
    stored type (.text field) = .text field := by
  have read : numeral? field = none := by
    rw [numeral?_trimmed trimmed, ← Option.not_isSome_iff_eq_none, Numeral.isSome_parse?_iff]
    exact other
  cases type with
  | text => rfl
  | integer => rw [stored, read]
  | real => rw [stored, read]

theorem affinity_storedText : Affinity storedText where
  text _ := rfl
  other _ _ trimmed other := stored_other trimmed other
  number number trimmed literal := stored_literal trimmed number literal

end QueryDesk.Store
