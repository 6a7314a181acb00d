import PacketRefusal.Log

/-!
# Words for levels

A word stands for the level whose name it is, without regard to the case of ASCII letters
(`SameLetters`). `Log.Level.ofText?` capitalises the word and looks it up among the names. The names
are capitalised already and differ from each other, so a level is found just if the word has the
letters of its name (`Log.Level.ofText?_eq_some_iff`).
-/

set_option autoImplicit false
set_option relaxedAutoImplicit false

namespace PacketRefusal

/-- Two texts differ in the case of ASCII letters at most. -/
def SameLetters (first second : String) : Prop :=
  first.toList.map Char.toLower = second.toList.map Char.toLower

/-! ### The case of a letter -/

section Case

variable {char : Char}

theorem val_toUpper (hsmall : 'a'.val ≤ char.val ∧ char.val ≤ 'z'.val) :
    char.toUpper.val = char.val + ('A'.val - 'a'.val) := by
  unfold Char.toUpper
  rw [dif_pos hsmall]

theorem toUpper_of_not_small (hsmall : ¬('a'.val ≤ char.val ∧ char.val ≤ 'z'.val)) :
    char.toUpper = char :=
  dif_neg hsmall

theorem val_toLower (hcapital : char.val ≥ 'A'.val ∧ char.val ≤ 'Z'.val) :
    char.toLower.val = char.val + ('a'.val - 'A'.val) := by
  unfold Char.toLower
  rw [dif_pos hcapital]

theorem toLower_of_not_capital (hcapital : ¬(char.val ≥ 'A'.val ∧ char.val ≤ 'Z'.val)) :
    char.toLower = char :=
  dif_neg hcapital

/-- Capitalising a character changes at most the case of a letter. -/
theorem toLower_toUpper (char : Char) : char.toUpper.toLower = char.toLower := by
  by_cases hsmall : 'a'.val ≤ char.val ∧ char.val ≤ 'z'.val
  · have hcapital : char.toUpper.val ≥ 'A'.val ∧ char.toUpper.val ≤ 'Z'.val := by
      rw [val_toUpper hsmall]
      grind
    refine Char.ext ?_
    rw [val_toLower hcapital, val_toUpper hsmall, toLower_of_not_capital (by grind)]
    grind
  · rw [toUpper_of_not_small hsmall]

theorem toUpper_toLower (char : Char) : char.toLower.toUpper = char.toUpper := by
  by_cases hcapital : char.val ≥ 'A'.val ∧ char.val ≤ 'Z'.val
  · have hsmall : 'a'.val ≤ char.toLower.val ∧ char.toLower.val ≤ 'z'.val := by
      rw [val_toLower hcapital]
      grind
    refine Char.ext ?_
    rw [val_toUpper hsmall, val_toLower hcapital, toUpper_of_not_small (by grind)]
    grind
  · rw [toLower_of_not_capital hcapital]

end Case

def levelWords : List String := ["OFF", "ERROR", "WARN", "INFO", "DEBUG", "TRACE"]

namespace Log.Level

theorem mem_all (level : Level) : level ∈ all := by
  cases level with
  | off => decide
  | upTo severity => cases severity <;> decide

theorem map_text_all : all.map text = levelWords := rfl

theorem text_injective {first second : Level} (htext : first.text.toList = second.text.toList) :
    first = second := by
  have hall : ∀ level ∈ all, ∀ other ∈ all, level.text.toList = other.text.toList →
      level = other := by decide
  exact hall first (mem_all first) second (mem_all second) htext

theorem map_toUpper_text (level : Level) :
    level.text.toList.map Char.toUpper = level.text.toList := by
  have hall : ∀ level ∈ all, level.text.toList.map Char.toUpper = level.text.toList := by decide
  exact hall level (mem_all level)

/-- Capitalising a word gives the word for a level just if the two have the same letters. -/
theorem text_eq_map_toUpper_iff (word : String) (level : Level) :
    level.text.toList = word.toList.map Char.toUpper ↔ SameLetters word level.text := by
  constructor
  · intro hword
    rw [SameLetters, hword, List.map_map]
    exact List.map_congr_left fun char _ ↦ (toLower_toUpper char).symm
  · intro hletters
    have hupper := congrArg (List.map Char.toUpper) hletters
    have hfolded : Char.toUpper ∘ Char.toLower = Char.toUpper :=
      funext toUpper_toLower
    rw [List.map_map, List.map_map, hfolded, map_toUpper_text] at hupper
    exact hupper.symm

/-- A word stands for a level just if it has the letters of the word for it. -/
theorem ofText?_eq_some_iff (word : String) (level : Level) :
    ofText? word = some level ↔ SameLetters word level.text := by
  have hfind {other : Level} (hfound : ofText? word = some other) :
      other.text.toList = word.toList.map Char.toUpper := by
    unfold ofText? at hfound
    have hother := List.find?_some hfound
    exact eq_of_beq hother
  rw [← text_eq_map_toUpper_iff]
  refine ⟨hfind, fun hword ↦ ?_⟩
  cases hfound : ofText? word with
  | none =>
    have hother := List.find?_eq_none.mp hfound level (mem_all level)
    exact absurd (beq_iff_eq.mpr hword) hother
  | some other => rw [text_injective ((hfind hfound).trans hword.symm)]

/-- A word stands for no level just if it has the letters of none of the words for them. -/
theorem ofText?_eq_none_iff (word : String) :
    ofText? word = none ↔ ∀ name ∈ levelWords, ¬SameLetters word name := by
  rw [← map_text_all, Option.eq_none_iff_forall_ne_some]
  simp only [List.forall_mem_map, Ne, ofText?_eq_some_iff]
  exact ⟨fun hnone level _ ↦ hnone level, fun hnone level ↦ hnone level (mem_all level)⟩

end Log.Level

end PacketRefusal
