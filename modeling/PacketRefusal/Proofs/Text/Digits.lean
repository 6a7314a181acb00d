import PacketRefusal.Proofs.Text.Separated

/-!
# Numbers in digits

Decimal and hexadecimal numerals without a sign are printed by `Nat.toDigits`. The digits of a
number determine it in every base up to sixteen (`toDigits_injective`), and no numeral contains
anything but digits (`mem_hexadecimalDigits`). Numerals with a separator between them that is not
a digit therefore show the whole list of numbers (`numerals_injective`). Digits are among the
characters that leave a mark (`Visible`).
-/

set_option autoImplicit false
set_option relaxedAutoImplicit false

namespace PacketRefusal

/-- All characters of a text are of ASCII and leave a mark: none is a space or a control
character. -/
def Visible (text : List Char) : Prop := ∀ char ∈ text, '!' ≤ char ∧ char ≤ '~'

instance (text : List Char) : Decidable (Visible text) :=
  List.decidableBAll (fun char ↦ '!' ≤ char ∧ char ≤ '~') text

def hexadecimalDigits : List Char := (List.range 16).map Nat.digitChar

variable {base : Nat}

theorem digitChar_mem {digit : Nat} (hdigit : digit < 16) :
    Nat.digitChar digit ∈ hexadecimalDigits :=
  List.mem_map_of_mem (List.mem_range.mpr hdigit)

theorem digitChar_injective {first second : Nat} (hfirst : first < 16) (hsecond : second < 16)
    (hdigits : Nat.digitChar first = Nat.digitChar second) : first = second := by
  have hall : ∀ one ∈ List.range 16, ∀ other ∈ List.range 16,
      Nat.digitChar one = Nat.digitChar other → one = other := by
    decide
  exact hall first (List.mem_range.mpr hfirst) second (List.mem_range.mpr hsecond) hdigits

/-- A numeral ends in the last digit, and the other digits, if any, are a numeral again. -/
theorem toDigits_eq_concat (hbase : 1 < base) (number : Nat) :
    Nat.toDigits base number =
      (if number < base then [] else Nat.toDigits base (number / base)) ++
        [Nat.digitChar (number % base)] := by
  split
  · next hsmall => rw [Nat.toDigits_of_lt_base hsmall, Nat.mod_eq_of_lt hsmall, List.nil_append]
  · next hlarge => exact Nat.toDigits_of_base_le hbase (Nat.le_of_not_lt hlarge)

/-- A numeral is made of digits. -/
theorem mem_hexadecimalDigits (hbase : 1 < base) (hdigits : base ≤ 16) {number : Nat} {char : Char}
    (hchar : char ∈ Nat.toDigits base number) : char ∈ hexadecimalDigits := by
  induction number using Nat.strongRecOn with
  | ind number ih =>
    rw [toDigits_eq_concat hbase number, List.mem_append, List.mem_singleton] at hchar
    rcases hchar with hfront | rfl
    · split at hfront
      · exact absurd hfront List.not_mem_nil
      · exact ih (number / base) (Nat.div_lt_self (by omega) hbase) hfront
    · exact digitChar_mem (Nat.lt_of_lt_of_le (Nat.mod_lt _ (by omega)) hdigits)

/-- Two numbers with the same numeral are equal. -/
theorem toDigits_injective (hbase : 1 < base) (hdigits : base ≤ 16) {first second : Nat}
    (hnumeral : Nat.toDigits base first = Nat.toDigits base second) : first = second := by
  induction first using Nat.strongRecOn generalizing second with
  | ind first ih =>
    rw [toDigits_eq_concat hbase first, toDigits_eq_concat hbase second] at hnumeral
    obtain ⟨hfront, hlast⟩ := List.append_inj' hnumeral rfl
    have hbelow (number : Nat) : number % base < 16 :=
      Nat.lt_of_lt_of_le (Nat.mod_lt number (by omega)) hdigits
    have hlast' : first % base = second % base :=
      digitChar_injective (hbelow first) (hbelow second) (List.singleton_inj.mp hlast)
    split at hfront <;> split at hfront
    · next hfirst hsecond =>
      rwa [Nat.mod_eq_of_lt hfirst, Nat.mod_eq_of_lt hsecond] at hlast'
    · exact absurd hfront.symm Nat.toDigits_ne_nil
    · exact absurd hfront Nat.toDigits_ne_nil
    · next hfirst _ =>
      have hdivided : first / base = second / base :=
        ih (first / base) (Nat.div_lt_self (by omega) hbase) hfront
      rw [← Nat.div_add_mod first base, ← Nat.div_add_mod second base, hdivided, hlast']

theorem visible_hexadecimalDigits : Visible hexadecimalDigits := by decide

theorem visible_toDigits (hbase : 1 < base) (hdigits : base ≤ 16) (number : Nat) :
    Visible (Nat.toDigits base number) :=
  fun char hchar ↦ visible_hexadecimalDigits char (mem_hexadecimalDigits hbase hdigits hchar)

theorem visible_repr (number : Nat) : Visible number.repr.toList := by
  rw [Nat.toList_repr]
  exact visible_toDigits (by decide) (by decide) number

/-! ### Numerals in a row -/

variable {separator : Char}

/-- A separator that is not a digit can be put between numerals. -/
theorem separable_numerals (hbase : 1 < base) (hdigits : base ≤ 16)
    (hseparator : separator ∉ hexadecimalDigits) (numbers : List Nat) :
    Separable separator (numbers.map (Nat.toDigits base)) := by
  intro numeral hnumeral
  obtain ⟨number, -, rfl⟩ := List.mem_map.mp hnumeral
  exact ⟨Nat.toDigits_ne_nil, fun hmem ↦
    hseparator (mem_hexadecimalDigits hbase hdigits hmem)⟩

/-- Numbers are read off their numerals if the separator is not a digit. -/
theorem numerals_injective (hbase : 1 < base) (hdigits : base ≤ 16)
    (hseparator : separator ∉ hexadecimalDigits) {first second : List Nat}
    (hnumerals : [separator].intercalate (first.map (Nat.toDigits base)) =
      [separator].intercalate (second.map (Nat.toDigits base))) : first = second := by
  have hpieces : first.map (Nat.toDigits base) = second.map (Nat.toDigits base) :=
    (separable_numerals hbase hdigits hseparator first).eq_of_intercalate_eq
      (separable_numerals hbase hdigits hseparator second) hnumerals
  refine List.map_injective_iff.mpr (fun number other hnumeral ↦ ?_) hpieces
  exact toDigits_injective hbase hdigits hnumeral

end PacketRefusal
