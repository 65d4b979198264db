import QueryDesk.Number.Literal
import QueryDesk.Proofs.Text.Cutting

/-!
# The grammars of numbers

Which texts are read as numbers, said without the functions that read them. `Numeral.Literal` is the
grammar of ordinary decimal literals (`isSome_parse?_iff`). Number literals are more than that:
`NumberLiteral.of_isSome_parse?` lists what else there is.
-/

set_option autoImplicit false

namespace QueryDesk

open Text

namespace Numeral

def Digits (t : Text) : Prop := ∀ c ∈ t, c.isDigit = true

inductive Sign : Text → Prop
  | missing : Sign []
  | plus : Sign ['+']
  | minus : Sign ['-']

/-- Digits, with a point before, between or after them or without one. -/
inductive Mantissa : Text → Prop
  | whole {digits : Text} : digits ≠ [] → Digits digits → Mantissa digits
  | point {whole fraction : Text} : Digits whole → Digits fraction → whole ++ fraction ≠ [] →
      Mantissa (whole ++ '.' :: fraction)

inductive Exponent : Text → Prop
  | missing : Exponent []
  | power {e : Char} {sign digits : Text} : e = 'e' ∨ e = 'E' → Sign sign → digits ≠ [] →
      Digits digits → Exponent (e :: (sign ++ digits))

/-- An ordinary decimal number. -/
inductive Literal : Text → Prop
  | intro {sign mantissa exponent : Text} : Sign sign → Mantissa mantissa → Exponent exponent →
      Literal (sign ++ (mantissa ++ exponent))

theorem allDigits_iff (t : Text) : allDigits t = true ↔ t ≠ [] ∧ Digits t := by
  simp [allDigits, Digits]

theorem takeSign_split (t : Text) : ∃ sign, Sign sign ∧ t = sign ++ (takeSign t).2 := by
  unfold takeSign
  split
  · exact ⟨['-'], .minus, rfl⟩
  · exact ⟨['+'], .plus, rfl⟩
  · exact ⟨[], .missing, rfl⟩

/-- A sign ends where no other one follows. -/
theorem takeSign_append {sign rest : Text} (signed : Sign sign)
    (other : ∀ c, rest.head? = some c → c ≠ '-' ∧ c ≠ '+') :
    takeSign (sign ++ rest) = (decide (sign = ['-']), rest) := by
  cases signed with
  | plus => rfl
  | minus => rfl
  | missing =>
    rw [List.nil_append]
    unfold takeSign
    split
    · exact absurd rfl (other '-' rfl).1
    · exact absurd rfl (other '+' rfl).2
    · rfl

theorem not_sign_of_isDigit {c : Char} (digit : c.isDigit = true) : c ≠ '-' ∧ c ≠ '+' := by
  constructor <;> rintro rfl <;> cases digit

theorem head_digits {digits : Text} (inside : Digits digits) {c : Char} {rest : Text}
    (full : digits ≠ []) (first : (digits ++ rest).head? = some c) : c.isDigit = true := by
  obtain ⟨d, ds, rfl⟩ := List.exists_cons_of_ne_nil full
  cases first
  exact inside c List.mem_cons_self

theorem takeSign_digits {sign digits : Text} (signed : Sign sign) (full : digits ≠ [])
    (inside : Digits digits) : takeSign (sign ++ digits) = (decide (sign = ['-']), digits) := by
  refine takeSign_append signed fun c first => not_sign_of_isDigit ?_
  rw [← List.append_nil digits] at first
  exact head_digits inside full first

theorem isSome_exponent?_iff (t : Text) : (exponent? t).isSome = true ↔ Exponent t := by
  constructor
  · intro read
    cases t with
    | nil => exact .missing
    | cons c cs =>
      rw [exponent?] at read
      split at read
      case isTrue both =>
        obtain ⟨sign, signed, whole⟩ := takeSign_split cs
        obtain ⟨full, digits⟩ := (allDigits_iff _).1 both.2
        rw [whole]
        exact .power both.1 signed full digits
      case isFalse => cases read
  · intro exponent
    cases exponent with
    | missing => rfl
    | @power e sign digits letter signed full inside =>
      have all : allDigits (takeSign (sign ++ digits)).2 = true := by
        rw [takeSign_digits signed full inside]
        exact (allDigits_iff _).2 ⟨full, inside⟩
      rw [exponent?, if_pos ⟨letter, all⟩]
      rfl

/-- No digit and no point follows the mantissa. -/
theorem Exponent.stops {t : Text} (exponent : Exponent t) :
    t.head?.any Char.isDigit = false ∧ t.head? ≠ some '.' := by
  cases exponent with
  | missing => exact ⟨rfl, by simp⟩
  | power letter => rcases letter with rfl | rfl <;> exact ⟨rfl, by simp⟩

theorem takeFraction_other {t : Text} (other : t.head? ≠ some '.') : takeFraction t = ([], t) := by
  unfold takeFraction
  split
  · exact absurd rfl other
  · rfl

/-- Whether there are no digits before and none after the point. -/
def lacksDigits (t : Text) : Bool :=
  (t.takeWhile Char.isDigit).isEmpty && (takeFraction (t.dropWhile Char.isDigit)).1.isEmpty

theorem takeFraction_split (t : Text) :
    Digits (takeFraction t).1 ∧ t = '.' :: (takeFraction t).1 ++ (takeFraction t).2 ∨
      takeFraction t = ([], t) := by
  by_cases point : t.head? = some '.'
  case pos =>
    cases t with
    | nil => cases point
    | cons c cs =>
      obtain rfl := Option.some.inj point
      exact .inl ⟨inside_takeWhile, congrArg ('.' :: ·) List.takeWhile_append_dropWhile.symm⟩
  case neg => exact .inr (takeFraction_other point)

/-- The digits and the point that are taken are a mantissa, if there are digits. -/
theorem exists_mantissa {t : Text} (some : lacksDigits t = false) :
    ∃ mantissa, Mantissa mantissa ∧ t = mantissa ++ (takeFraction (t.dropWhile Char.isDigit)).2 := by
  have parts := List.takeWhile_append_dropWhile (p := Char.isDigit) (l := t)
  have digits : Digits (t.takeWhile Char.isDigit) := inside_takeWhile
  rw [lacksDigits] at some
  generalize t.takeWhile Char.isDigit = whole at parts digits some
  generalize t.dropWhile Char.isDigit = rest at parts some
  rcases takeFraction_split rest with ⟨inside, shape⟩ | none
  · refine ⟨whole ++ '.' :: (takeFraction rest).1, .point digits inside fun empty => ?_, ?_⟩
    · obtain ⟨front, fraction⟩ := List.append_eq_nil_iff.1 empty
      rw [front, fraction] at some
      cases some
    · rw [List.append_assoc, ← shape, parts]
  · refine ⟨whole, .whole (fun empty => ?_) digits, ?_⟩
    · rw [none, empty] at some
      cases some
    · rw [none, parts]

/-- A mantissa is taken as a whole, if neither a digit nor a point follows. -/
theorem Mantissa.taken {mantissa rest : Text} (formed : Mantissa mantissa)
    (stop : rest.head?.any Char.isDigit = false) (point : rest.head? ≠ some '.') :
    lacksDigits (mantissa ++ rest) = false ∧
      (takeFraction ((mantissa ++ rest).dropWhile Char.isDigit)).2 = rest := by
  cases formed with
  | whole full digits =>
    rw [lacksDigits, takeWhile_run digits stop, dropWhile_run digits stop,
      takeFraction_other point]
    simp [full]
  | @point whole fraction digits digits' full =>
    have stop' : ('.' :: (fraction ++ rest)).head?.any Char.isDigit = false := rfl
    rw [lacksDigits, List.append_assoc, List.cons_append, takeWhile_run digits stop',
      dropWhile_run digits stop', takeFraction, takeWhile_run digits' stop,
      dropWhile_run digits' stop]
    refine ⟨Bool.eq_false_iff.2 fun none => full ?_, rfl⟩
    simpa [List.isEmpty_iff] using none

/-- No sign begins a mantissa. -/
theorem Mantissa.unsigned {mantissa rest : Text} (formed : Mantissa mantissa) :
    ∀ c, (mantissa ++ rest).head? = some c → c ≠ '-' ∧ c ≠ '+' := by
  intro c first
  cases formed with
  | whole full digits => exact not_sign_of_isDigit (head_digits digits full first)
  | @point whole fraction digits =>
    cases whole with
    | nil =>
      cases first
      decide
    | cons d ds =>
      rw [List.append_assoc] at first
      exact not_sign_of_isDigit (head_digits digits (List.cons_ne_nil d ds) first)

/-- A text is read if digits are found and what follows them is an exponent. -/
theorem isSome_parse? (t : Text) : (parse? t).isSome = (!lacksDigits (takeSign t).2 &&
    (exponent? (takeFraction ((takeSign t).2.dropWhile Char.isDigit)).2).isSome) := by
  rw [parse?, lacksDigits]
  split
  case isTrue none => simp [none]
  case isFalse some => simp [some]

theorem isSome_parse?_iff (t : Text) : (parse? t).isSome = true ↔ Literal t := by
  rw [isSome_parse?, Bool.and_eq_true, Bool.not_eq_true', isSome_exponent?_iff]
  constructor
  · rintro ⟨some, exponent⟩
    obtain ⟨sign, signed, whole⟩ := takeSign_split t
    obtain ⟨mantissa, formed, shape⟩ := exists_mantissa some
    rw [whole, shape]
    exact .intro signed formed exponent
  · rintro @⟨sign, mantissa, exponent, signed, formed, power⟩
    obtain ⟨some, rest⟩ := formed.taken power.stops.1 power.stops.2
    have unsigned : (takeSign (sign ++ (mantissa ++ exponent))).2 = mantissa ++ exponent :=
      congrArg Prod.snd (takeSign_append signed formed.unsigned)
    rw [unsigned]
    exact ⟨some, by rw [rest]; exact power⟩

end Numeral

namespace NumberLiteral

/-- A whole number in the base that its second character announces. -/
def Radix (t : Text) : Prop :=
  ∃ c base digits, t = '0' :: c :: digits ∧ base? c = some base ∧ digits ≠ [] ∧
    ∀ d ∈ digits, (digitValue? base d).isSome = true

/-- Infinity by its name. -/
def Infinite (t : Text) : Prop := ∃ sign, Numeral.Sign sign ∧ t = sign ++ "Infinity".toList

/-- A byte-order mark stands at an end. -/
def Marked (t : Text) : Prop :=
  t.head? = some byteOrderMark ∨ t.getLast? = some byteOrderMark

theorem isSome_accumulate_iff (base : Nat) (x : Binary64) (digits : Text) :
    (accumulate base x digits).isSome = true ↔
      ∀ d ∈ digits, (digitValue? base d).isSome = true := by
  induction digits generalizing x with
  | nil => exact iff_of_true rfl (List.forall_mem_nil _)
  | cons d ds ih =>
    rw [accumulate, List.forall_mem_cons]
    cases value : digitValue? base d with
    | none => simp
    | some v => simpa using ih _

theorem isSome_inBase?_iff (base : Nat) (digits : Text) : (inBase? base digits).isSome = true ↔
    digits ≠ [] ∧ ∀ d ∈ digits, (digitValue? base d).isSome = true := by
  unfold inBase?
  cases digits with
  | nil => simp
  | cons d ds => simpa using isSome_accumulate_iff base (.zero false) (d :: ds)

theorem isSome_signed?_iff (t : Text) : (signed? t).isSome = true ↔
    Numeral.Literal t ∨ Infinite t := by
  rw [signed?]
  constructor
  · intro read
    obtain ⟨sign, signed, whole⟩ := Numeral.takeSign_split t
    split at read
    case isTrue infinite => exact .inr ⟨sign, signed, infinite ▸ whole⟩
    case isFalse =>
      rw [Option.isSome_map, Numeral.isSome_parse?_iff] at read
      exact .inl read
  · rintro (literal | ⟨sign, signed, rfl⟩)
    · split
      · rfl
      · rw [Option.isSome_map, Numeral.isSome_parse?_iff]
        exact literal
    · cases signed <;> rfl

theorem letter_of_base? {c : Char} {base : Nat} (known : base? c = some base) :
    (c = 'x' ∨ c = 'X') ∨ (c = 'o' ∨ c = 'O') ∨ (c = 'b' ∨ c = 'B') := by
  unfold base? at known
  split at known
  case isTrue sixteen => exact .inl sixteen
  case isFalse =>
    split at known
    case isTrue eight => exact .inr (.inl eight)
    case isFalse =>
      split at known
      case isTrue two => exact .inr (.inr two)
      case isFalse => cases known

/-- A text with a radix prefix is no decimal literal, so it does not matter which is tried first. -/
theorem not_literal_of_base? {c : Char} {base : Nat} (known : base? c = some base) (cs : Text) :
    ¬ Numeral.Literal ('0' :: c :: cs) := by
  rw [← Numeral.isSome_parse?_iff, Numeral.isSome_parse?]
  rcases letter_of_base? known with (rfl | rfl) | (rfl | rfl) | (rfl | rfl) <;>
    simp [Numeral.takeSign, Numeral.takeFraction, Numeral.exponent?]

theorem isSome_bare?_iff (t : Text) : (bare? t).isSome = true ↔
    t = [] ∨ Numeral.Literal t ∨ Radix t ∨ Infinite t := by
  have not_infinite (c : Char) (cs : Text) : ¬ Infinite ('0' :: c :: cs) := by
    rintro ⟨sign, signed, same⟩
    cases signed <;> cases same
  unfold bare?
  split
  case h_1 => exact iff_of_true rfl (.inl rfl)
  case h_2 c cs =>
    cases known : base? c with
    | none =>
      have not_radix : ¬ Radix ('0' :: c :: cs) := by
        rintro ⟨d, base, digits, same, known', -⟩
        cases same
        rw [known] at known'
        cases known'
      simp only [isSome_signed?_iff]
      simp [not_radix]
    | some base =>
      have literal := not_literal_of_base? known cs
      have radix : Radix ('0' :: c :: cs) ↔
          cs ≠ [] ∧ ∀ d ∈ cs, (digitValue? base d).isSome = true := by
        constructor
        · rintro ⟨d, base', digits, same, known', full, inside⟩
          cases same
          rw [known] at known'
          cases known'
          exact ⟨full, inside⟩
        · rintro ⟨full, inside⟩
          exact ⟨c, base, cs, rfl, known, full, inside⟩
      simp only [isSome_inBase?_iff]
      simp [literal, not_infinite, radix]
  case h_3 some other =>
    have full : t ≠ [] := some
    have not_radix : ¬ Radix t := by
      rintro ⟨c, base, digits, rfl, -⟩
      exact other c digits rfl
    rw [isSome_signed?_iff]
    simp [full, not_radix]

/-- What is read as a number without being an ordinary one. -/
theorem of_isSome_parse? {t : Text} (trimmed : Trimmed t) (full : t ≠ [])
    (read : (parse? t).isSome = true) :
    Numeral.Literal t ∨ Radix t ∨ Infinite t ∨ Marked t := by
  by_cases marked : Marked t
  · exact .inr (.inr (.inr marked))
  · obtain ⟨front, back⟩ := not_or.1 marked
    have unpadded {c? : Option Char} (visible : c?.any isBlank = false)
        (other : c? ≠ some byteOrderMark) : c?.any isPadding = false := by
      cases c? with
      | none => rfl
      | some c =>
        change (isBlank c || c == byteOrderMark) = false
        rw [Bool.or_eq_false_iff, beq_eq_false_iff_ne]
        exact ⟨visible, fun same => other (congrArg some same)⟩
    rw [parse?, trimWhile_eq_self (unpadded trimmed.front front) (unpadded trimmed.back back)]
      at read
    rcases (isSome_bare?_iff t).1 read with empty | literal | radix | infinite
    · exact absurd empty full
    · exact .inl literal
    · exact .inr (.inl radix)
    · exact .inr (.inr (.inl infinite))

/-- The number literals, with nothing around them. -/
inductive Formed : Text → Prop
  | empty : Formed []
  | infinite {sign : Text} : Numeral.Sign sign → Formed (sign ++ "Infinity".toList)
  | decimal {sign mantissa exponent : Text} : Numeral.Sign sign → Numeral.Mantissa mantissa →
      Numeral.Exponent exponent → Formed (sign ++ (mantissa ++ exponent))
  | radix {c : Char} {base : Nat} {digits : Text} : base? c = some base → digits ≠ [] →
      (∀ d ∈ digits, (digitValue? base d).isSome = true) → Formed ('0' :: c :: digits)

/-- The second text is the first without the blanks and byte-order marks around it. -/
structure Unpads (t u : Text) : Prop where
  cut : ∃ front back, (∀ c ∈ front, isPadding c = true) ∧ (∀ c ∈ back, isPadding c = true) ∧
    t = front ++ (u ++ back)
  front : u.head?.any isPadding = false
  back : u.getLast?.any isPadding = false

theorem formed_iff (t : Text) :
    Formed t ↔ t = [] ∨ Numeral.Literal t ∨ Radix t ∨ Infinite t := by
  constructor
  · intro formed
    cases formed with
    | empty => exact .inl rfl
    | infinite signed => exact .inr (.inr (.inr ⟨_, signed, rfl⟩))
    | decimal signed formed exponent => exact .inr (.inl (.intro signed formed exponent))
    | radix known full inside => exact .inr (.inr (.inl ⟨_, _, _, rfl, known, full, inside⟩))
  · rintro (rfl | ⟨signed, formed, exponent⟩ | ⟨c, base, digits, rfl, known, full, inside⟩ |
      ⟨sign, signed, rfl⟩)
    · exact .empty
    · exact .decimal signed formed exponent
    · exact .radix known full inside
    · exact .infinite signed

theorem unpads_iff (t u : Text) : Unpads t u ↔ trimWhile isPadding t = u := by
  rw [trimWhile_eq_iff]
  exact ⟨fun unpads => ⟨unpads.cut, unpads.front, unpads.back⟩,
    fun parts => ⟨parts.1, parts.2.1, parts.2.2⟩⟩

/-- The texts that are read are those of the grammar, with padding or without. -/
theorem isSome_parse?_iff (t : Text) :
    (parse? t).isSome = true ↔ ∃ u, Unpads t u ∧ Formed u := by
  simp only [unpads_iff, exists_eq_left']
  rw [parse?, isSome_bare?_iff, formed_iff]

end NumberLiteral

end QueryDesk
