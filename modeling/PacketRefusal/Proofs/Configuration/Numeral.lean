import PacketRefusal.Configuration.Numeral

/-!
# What numerals spell

A numeral is a sign, if any, and one or more decimal digits, and any number of them may be leading
zeros. `Spells` and `SpellsSigned` say which number that is. Reading compares the value with its
bound after each digit. Appending a digit never makes a value smaller (`le_value`), so that is one
comparison of the whole value (`extend_eq_ok_iff`). Hence a text is read just if it spells a number
of the range, and what is read is that number (`unsigned_eq_ok_iff`, `signed_eq_ok_iff`).
-/

set_option autoImplicit false
set_option relaxedAutoImplicit false

namespace PacketRefusal.Numeral

def AreDigits (text : List Char) : Prop := text ≠ [] ∧ ∀ char ∈ text, char.isDigit

/-- The number that digits in front of which another number was read stand for. -/
abbrev value (front : Nat) (digits : List Char) : Nat := Nat.ofDigitChars 10 digits front

/-- A text spells a number without a negative sign. -/
inductive Spells : List Char → Nat → Prop
  | bare {digits : List Char} (hdigits : AreDigits digits) : Spells digits (value 0 digits)
  | plus {digits : List Char} (hdigits : AreDigits digits) : Spells ('+' :: digits) (value 0 digits)

/-- A text spells a number with either sign. -/
inductive SpellsSigned : List Char → Int → Prop
  | unsigned {text : List Char} {number : Nat} (hspells : Spells text number) :
    SpellsSigned text number
  | minus {digits : List Char} (hdigits : AreDigits digits) :
    SpellsSigned ('-' :: digits) (-(value 0 digits))

variable {bound : Nat} {excess : Error}

theorem digit?_eq_some {char : Char} (hdigit : char.isDigit) :
    digit? char = some (char.toNat - '0'.toNat) := if_pos hdigit

theorem digit?_eq_none {char : Char} (hdigit : ¬char.isDigit) : digit? char = none := if_neg hdigit

/-- Digits are appended, so that a value only grows. -/
theorem le_value (front : Nat) (digits : List Char) : front ≤ value front digits := by
  induction digits generalizing front with
  | nil => exact Nat.le_refl front
  | cons char digits ih =>
    rw [value, Nat.ofDigitChars_cons]
    exact Nat.le_trans (by omega) (ih _)

/-- Appending digits succeeds just if there are only digits and the final value is within the
bound. -/
theorem extend_eq_ok_iff {front number : Nat} (hfront : front ≤ bound) (text : List Char) :
    extend bound excess front text = .ok number ↔
      (∀ char ∈ text, char.isDigit) ∧ number = value front text ∧ number ≤ bound := by
  induction text generalizing front with
  | nil =>
    simp only [extend, Except.ok.injEq, List.not_mem_nil, false_implies, implies_true, true_and]
    constructor
    · rintro rfl
      exact ⟨rfl, hfront⟩
    · rintro ⟨rfl, -⟩
      rfl
  | cons char text ih =>
    by_cases hdigit : char.isDigit
    · simp only [extend, digit?_eq_some hdigit, List.forall_mem_cons, hdigit, true_and]
      rw [value, Nat.ofDigitChars_cons]
      split
      · rename_i hexcess
        -- The value has left its range, and what follows cannot bring it back.
        have hgrows := le_value (10 * front + (char.toNat - '0'.toNat)) text
        refine iff_of_false nofun ?_
        rintro ⟨-, rfl, hnumber⟩
        exact absurd (Nat.le_trans hgrows hnumber) (Nat.not_le_of_lt hexcess)
      · rename_i hexcess
        exact ih (Nat.le_of_not_lt hexcess)
    · simp only [extend, digit?_eq_none hdigit, List.forall_mem_cons, hdigit]
      exact iff_of_false nofun nofun

/-- A text with a character in front that is no digit is not made of digits. -/
theorem not_areDigits_cons {char : Char} (hdigit : ¬char.isDigit) (text : List Char) :
    ¬AreDigits (char :: text) :=
  fun hdigits ↦ hdigit (hdigits.2 char List.mem_cons_self)

/-- A text spells one number at most. -/
theorem Spells.unique {text : List Char} {number other : Nat} (hspells : Spells text number)
    (hother : Spells text other) : number = other := by
  cases hspells with
  | bare hdigits =>
    cases hother with
    | bare => rfl
    | plus => exact absurd hdigits (not_areDigits_cons (by decide) _)
  | plus =>
    cases hother with
    | bare hdigits => exact absurd hdigits (not_areDigits_cons (by decide) _)
    | plus => rfl

/-- Digits are read just if they stand for a number within the bound. -/
theorem extend_zero_eq_ok_iff {text : List Char} (htext : text ≠ []) (number : Nat) :
    extend bound excess 0 text = .ok number ↔
      AreDigits text ∧ number = value 0 text ∧ number ≤ bound := by
  rw [extend_eq_ok_iff (Nat.zero_le bound), AreDigits, and_iff_right htext]

/-- A text without a sign is read just if it is made of digits that stand for a number within the
bound. -/
theorem unsigned_eq_ok_iff (text : List Char) (number : Nat) :
    unsigned bound text = .ok number ↔ Spells text number ∧ number ≤ bound := by
  have hspells_plus (digits : List Char) :
      Spells ('+' :: digits) number ↔ AreDigits digits ∧ number = value 0 digits := by
    constructor
    · intro hspells
      cases hspells with
      | bare hdigits => exact absurd hdigits (not_areDigits_cons (by decide) digits)
      | plus hdigits => exact ⟨hdigits, rfl⟩
    · rintro ⟨hdigits, rfl⟩
      exact .plus hdigits
  unfold unsigned
  split
  · refine iff_of_false nofun ?_
    rintro ⟨hspells, -⟩
    cases hspells with
    | bare hdigits => exact hdigits.1 rfl
  · rw [hspells_plus]
    exact iff_of_false nofun fun hspells ↦ hspells.1.1.1 rfl
  · rename_i digits hdigits
    rw [hspells_plus, extend_zero_eq_ok_iff hdigits, and_assoc]
  · rename_i hempty hsign hplus
    rw [extend_zero_eq_ok_iff hempty, ← and_assoc]
    refine and_congr_left fun _ ↦ ⟨?_, ?_⟩
    · rintro ⟨hdigits, rfl⟩
      exact .bare hdigits
    · intro hspells
      cases hspells with
      | bare hdigits => exact ⟨hdigits, rfl⟩
      | plus hdigits => exact absurd rfl (hplus _)

/-- A magnitude that was read becomes a number, and an error stays. -/
theorem map_magnitude_eq_ok_iff {sign : Int → Int} {read : Except Error Nat} {number : Int} :
    Except.map sign (read >>= fun magnitude ↦ pure (magnitude : Int)) = .ok number ↔
      ∃ magnitude, read = .ok magnitude ∧ sign (magnitude : Int) = number := by
  cases read with
  | error error => exact iff_of_false nofun nofun
  | ok magnitude =>
    constructor
    · rintro ⟨rfl⟩
      exact ⟨magnitude, rfl, rfl⟩
    · rintro ⟨_, ⟨rfl⟩, rfl⟩
      rfl

/-- A text is read as a signed number just if it spells one within the range. -/
theorem signed_eq_ok_iff {lower upper : Nat} (text : List Char) (number : Int) :
    signed lower upper text = .ok number ↔
      SpellsSigned text number ∧ -(lower : Int) ≤ number ∧ number ≤ upper := by
  have hspells_minus (digits : List Char) :
      SpellsSigned ('-' :: digits) number ↔
        AreDigits digits ∧ -(value 0 digits : Int) = number := by
    constructor
    · intro hspells
      cases hspells with
      | unsigned hspells =>
        cases hspells with
        | bare hdigits => exact absurd hdigits (not_areDigits_cons (by decide) digits)
      | minus hdigits => exact ⟨hdigits, rfl⟩
    · rintro ⟨hdigits, rfl⟩
      exact .minus hdigits
  unfold signed
  split
  · rw [hspells_minus]
    exact iff_of_false nofun fun hspells ↦ hspells.1.1.1 rfl
  · rename_i digits hdigits
    rw [map_magnitude_eq_ok_iff, hspells_minus]
    simp only [extend_zero_eq_ok_iff hdigits]
    constructor
    · rintro ⟨magnitude, ⟨hdigits, rfl, hbound⟩, rfl⟩
      exact ⟨⟨hdigits, rfl⟩, by omega, by omega⟩
    · rintro ⟨⟨hdigits, rfl⟩, hlower, -⟩
      exact ⟨_, ⟨hdigits, rfl, by omega⟩, rfl⟩
  · rename_i hsign hminus
    rw [map_magnitude_eq_ok_iff]
    simp only [unsigned_eq_ok_iff]
    constructor
    · rintro ⟨magnitude, ⟨hspells, hbound⟩, rfl⟩
      exact ⟨.unsigned hspells, by omega, by omega⟩
    · rintro ⟨hspells, -, hupper⟩
      cases hspells with
      | unsigned hspells => exact ⟨_, ⟨hspells, by omega⟩, rfl⟩
      | minus hdigits => exact absurd rfl (hminus _)

end PacketRefusal.Numeral
