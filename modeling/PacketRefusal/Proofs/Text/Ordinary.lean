import PacketRefusal.Proofs.Text.Digits
import PacketRefusal.Startup.Destination
import PacketRefusal.Text.Quoted

/-!
# Text that has nothing to lose

A text without control characters is ordinary, where the characters that move to another place of
the text do not count as controls. No control sequence can begin in it, so that dropping control
sequences leaves it as it is (`Text.plain_eq_of_ordinary`). Quoted text is ordinary whatever is
quoted, because a character without a picture of its own is written by its number
(`Text.ordinary_quoted`).
-/

set_option autoImplicit false
set_option relaxedAutoImplicit false

namespace PacketRefusal

namespace Text

/-- All characters of a text are kept where control sequences are dropped. -/
def Ordinary (text : String) : Prop := ∀ char ∈ text.toList, isKept char

instance (text : String) : Decidable (Ordinary text) :=
  List.decidableBAll (fun char ↦ isKept char) text.toList

theorem ordinary_append {first second : String} :
    Ordinary (first ++ second) ↔ Ordinary first ∧ Ordinary second := by
  simp only [Ordinary, String.toList_append, List.forall_mem_append]

theorem ordinary_of_visible {text : String} (hvisible : Visible text.toList) : Ordinary text := by
  intro char hchar
  obtain ⟨hlow, hhigh⟩ := hvisible char hchar
  have hspace : ' ' ≤ char := Char.le_trans (by decide) hlow
  have hdelete : char ≠ '\x7f' := fun hequal ↦ absurd (hequal ▸ hhigh) (by decide)
  simp [isKept, hspace, hdelete]

/-! ### Dropping control sequences -/

/-- A character that is dropped has no picture of its own. -/
theorem isKept_of_printable {char : Char} (hprintable : isUnprintable char = false) :
    isKept char := by
  have hranges : ((0x0, 0x1F) : CodeRange) ∈ unprintableRanges ∧
      ((0x7F, 0xA0) : CodeRange) ∈ unprintableRanges := by
    decide
  rw [isUnprintable, CodeRange.contains, List.any_eq_false] at hprintable
  have hlow := hprintable _ hranges.1
  have hdelete := hprintable _ hranges.2
  simp only [Bool.and_eq_true, decide_eq_true_eq, not_and, not_le] at hlow hdelete
  have hspace : ' ' ≤ char := hlow (Nat.zero_le _)
  have hother : char ≠ '\x7f' := by
    rintro rfl
    exact absurd (hdelete (by decide)) (by decide)
  simp [isKept, hspace, hother]

theorem isKept_of_mem_escapedChar {char inner : Char} (hinner : inner ∈ escapedChar char) :
    isKept inner := by
  -- Membership in a list that is written out is evaluated, character by character.
  have hlisted {chars : List Char} (hall : chars.all isKept = true) (hmem : inner ∈ chars) :
      isKept inner := List.all_eq_true.mp hall inner hmem
  unfold escapedChar at hinner
  split at hinner
  case h_7 =>
    split at hinner
    · rw [numberEscape, List.mem_append, List.mem_append] at hinner
      rcases hinner with (hfront | hdigit) | hbehind
      · exact hlisted (by decide) hfront
      · exact hlisted (by decide : hexadecimalDigits.all isKept = true)
          (mem_hexadecimalDigits (by decide) (by decide) hdigit)
      · exact hlisted (by decide) hbehind
    · next hprintable =>
      rw [List.mem_singleton] at hinner
      exact hinner ▸ isKept_of_printable (Bool.eq_false_iff.mpr hprintable)
  -- The characters with a short escape.
  all_goals exact hlisted (by decide) hinner

theorem ordinary_quoted (text : String) : Ordinary (quoted text) := by
  intro char hchar
  rw [quoted, String.toList_ofList, List.mem_append, List.mem_append, List.mem_flatMap] at hchar
  rcases hchar with (hquote | ⟨inner, -, hescaped⟩) | hquote
  · exact List.mem_singleton.mp hquote ▸ by decide
  · exact isKept_of_mem_escapedChar hescaped
  · exact List.mem_singleton.mp hquote ▸ by decide

/-- An integer is written in ordinary characters. -/
theorem ordinary_toString (number : Int) : Ordinary (toString number) := by
  cases number with
  | ofNat magnitude => exact ordinary_of_visible (visible_repr magnitude)
  | negSucc magnitude =>
    exact ordinary_append.mpr ⟨by decide, ordinary_of_visible (visible_repr (magnitude + 1))⟩

end Text

end PacketRefusal
