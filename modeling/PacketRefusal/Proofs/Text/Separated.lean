import Mathlib.Data.List.Infix

/-!
# Texts with separators

A text that is put together from pieces shows where one piece ends and the next one begins if no
piece contains the separator; if none is empty either, the pieces can be told from the text
(`Separable.eq_of_intercalate_eq`). Such a text is `Tight`: it neither begins nor ends with the
separator, and no two separators stand side by side (`Separable.tight`). A double separator that is
put between two texts of which the first is tight is therefore found again
(`Tight.eq_of_append_double`).

If a separator stands behind each piece, the text is split there (`splitOn_flatMap_append`).
-/

set_option autoImplicit false
set_option relaxedAutoImplicit false

namespace PacketRefusal

variable {α : Type} {separator : α}

/-- Pieces between which a separator can be put: none is empty, and none contains it. -/
def Separable (separator : α) (pieces : List (List α)) : Prop :=
  ∀ piece ∈ pieces, piece ≠ [] ∧ separator ∉ piece

/-- A separator stands in a text only singly, and only between other elements. -/
structure Tight (separator : α) (text : List α) : Prop where
  head : text.head? ≠ some separator
  last : text.getLast? ≠ some separator
  single : ¬[separator, separator] <:+: text

theorem intercalate_cons {piece : List α} {pieces : List (List α)} (hpieces : pieces ≠ []) :
    [separator].intercalate (piece :: pieces) =
      piece ++ separator :: [separator].intercalate pieces := by
  cases pieces with
  | nil => exact absurd rfl hpieces
  | cons next pieces => simp [List.intercalate]

/-- The first separator of a text is found. -/
theorem eq_of_append_separator {first second front back : List α} (hfirst : separator ∉ first)
    (hsecond : separator ∉ second)
    (htext : first ++ separator :: front = second ++ separator :: back) :
    first = second ∧ front = back := by
  rcases List.append_eq_append_iff.mp htext with ⟨middle, rfl, hbehind⟩ | ⟨middle, rfl, hbehind⟩
  all_goals
    cases middle with
    | nil => simpa [eq_comm] using hbehind
    | cons element middle =>
      rw [List.cons_append, List.cons.injEq] at hbehind
      obtain ⟨rfl, -⟩ := hbehind
      simp at hfirst hsecond

/-- Whatever stands in a text is the separator or stands in one of the pieces. -/
theorem mem_intercalate {element : α} {pieces : List (List α)}
    (helement : element ∈ [separator].intercalate pieces) :
    element = separator ∨ ∃ piece ∈ pieces, element ∈ piece := by
  induction pieces with
  | nil => simp [List.intercalate] at helement
  | cons piece pieces ih =>
    by_cases hpieces : pieces = []
    · subst hpieces
      exact .inr ⟨piece, List.mem_cons_self, by simpa [List.intercalate] using helement⟩
    · rw [intercalate_cons hpieces, List.mem_append, List.mem_cons] at helement
      rcases helement with hpiece | rfl | hrest
      · exact .inr ⟨piece, List.mem_cons_self, hpiece⟩
      · exact .inl rfl
      · refine (ih hrest).imp_right ?_
        rintro ⟨other, hother, helement⟩
        exact ⟨other, List.mem_cons_of_mem piece hother, helement⟩

namespace Tight

variable {text rest : List α}

theorem of_not_mem (htext : separator ∉ text) : Tight separator text where
  head := fun hhead ↦ htext (List.mem_of_head? hhead)
  last := fun hlast ↦ htext (List.mem_of_getLast? hlast)
  single := fun hdouble ↦ htext (hdouble.subset List.mem_cons_self)

/-- Another element in front keeps separators apart. -/
theorem single_cons {element : α} (helement : element ≠ separator)
    (hsingle : ¬[separator, separator] <:+: text) :
    ¬[separator, separator] <:+: element :: text := by
  rw [List.infix_cons_iff, not_or]
  refine ⟨fun hfront ↦ ?_, hsingle⟩
  exact helement (List.cons_prefix_cons.mp hfront).1.symm

/-- A piece and a tight text with a separator between them are a tight text. -/
theorem append (hpiece : text ≠ []) (hseparator : separator ∉ text) (hrest : Tight separator rest)
    (hne : rest ≠ []) : Tight separator (text ++ separator :: rest) where
  head := by
    rw [List.head?_append_of_ne_nil _ hpiece]
    exact (of_not_mem hseparator).head
  last := by
    rw [List.getLast?_append_of_ne_nil _ (List.cons_ne_nil _ _), List.getLast?_cons_of_ne_nil hne]
    exact hrest.last
  single := by
    have hbehind : ¬[separator, separator] <:+: separator :: rest := by
      rw [List.infix_cons_iff, not_or]
      refine ⟨fun hfront ↦ hrest.head ?_, hrest.single⟩
      obtain ⟨back, hback⟩ := (List.cons_prefix_cons.mp hfront).2
      rw [← hback]
      rfl
    clear hpiece
    induction text with
    | nil => exact hbehind
    | cons element text ih =>
      rw [List.mem_cons, not_or] at hseparator
      exact single_cons (Ne.symm hseparator.1) (ih hseparator.2)

/-- A tight text does not reach into the double separator that follows it. -/
theorem eq_nil_of_append {middle front back : List α} (htight : Tight separator (text ++ middle))
    (hbehind : separator :: separator :: front = middle ++ separator :: separator :: back) :
    middle = [] := by
  cases middle with
  | nil => rfl
  | cons first middle =>
    rw [List.cons_append, List.cons.injEq] at hbehind
    obtain ⟨rfl, hbehind⟩ := hbehind
    cases middle with
    | nil => exact absurd List.getLast?_concat htight.last
    | cons second middle =>
      rw [List.cons_append, List.cons.injEq] at hbehind
      obtain ⟨rfl, -⟩ := hbehind
      exact absurd ⟨text, middle, by simp⟩ htight.single

/-- A double separator is found where the tight text in front of it ends. -/
theorem eq_of_append_double {first second front back : List α} (hfirst : Tight separator first)
    (hsecond : Tight separator second)
    (htext : first ++ separator :: separator :: front = second ++ separator :: separator :: back) :
    first = second ∧ front = back := by
  rcases List.append_eq_append_iff.mp htext with ⟨middle, rfl, hbehind⟩ | ⟨middle, rfl, hbehind⟩
  · obtain rfl := eq_nil_of_append hsecond hbehind
    simpa using hbehind
  · obtain rfl := eq_nil_of_append hfirst hbehind
    simpa [eq_comm] using hbehind

/-- No double separator stands in a tight text. -/
theorem ne_append_double {front back : List α} (htext : Tight separator text) :
    text ≠ front ++ separator :: separator :: back := by
  rintro rfl
  exact htext.single ⟨front, back, by simp⟩

end Tight

namespace Separable

variable {pieces others : List (List α)}

/-- Only no pieces at all make an empty text. -/
theorem intercalate_ne_nil (hpieces : Separable separator pieces) (hne : pieces ≠ []) :
    [separator].intercalate pieces ≠ [] := by
  cases pieces with
  | nil => exact absurd rfl hne
  | cons piece pieces =>
    have hpiece := (hpieces piece List.mem_cons_self).1
    cases pieces <;> simp [List.intercalate, hpiece]

/-- Pieces with separators between them are a tight text. -/
theorem tight (hpieces : Separable separator pieces) :
    Tight separator ([separator].intercalate pieces) := by
  induction pieces with
  | nil => exact .of_not_mem List.not_mem_nil
  | cons piece pieces ih =>
    rw [Separable, List.forall_mem_cons] at hpieces
    obtain ⟨⟨hpiece, hseparator⟩, hpieces⟩ := hpieces
    by_cases hlast : pieces = []
    · subst hlast
      exact .of_not_mem (by simpa [List.intercalate] using hseparator)
    · rw [intercalate_cons hlast]
      exact (ih hpieces).append hpiece hseparator (intercalate_ne_nil hpieces hlast)

theorem eq_of_intercalate_eq [DecidableEq α] (hpieces : Separable separator pieces)
    (hothers : Separable separator others)
    (htext : [separator].intercalate pieces = [separator].intercalate others) :
    pieces = others := by
  have hsplit {parts : List (List α)} (hparts : Separable separator parts) (hne : parts ≠ []) :
      ([separator].intercalate parts).splitOn separator = parts :=
    List.splitOn_intercalate separator (fun piece hpiece ↦ (hparts piece hpiece).2) hne
  by_cases hne : pieces = []
  · subst hne
    by_contra hother
    exact intercalate_ne_nil hothers (Ne.symm hother) htext.symm
  · have hne' : others ≠ [] := by
      rintro rfl
      exact intercalate_ne_nil hpieces hne htext
    rw [← hsplit hpieces hne, htext, hsplit hothers hne']

end Separable

/-! ### Pieces that end with a separator -/

section Terminated

variable {pieces : List (List α)}

theorem flatMap_append_eq_intercalate (separator : α) (pieces : List (List α)) :
    pieces.flatMap (· ++ [separator]) = [separator].intercalate (pieces ++ [[]]) := by
  induction pieces with
  | nil => simp [List.intercalate]
  | cons piece pieces ih =>
    rw [List.flatMap_cons, ih, List.cons_append, intercalate_cons (by simp), List.append_assoc,
      List.singleton_append]

/-- Pieces with a separator behind each of them are split there, and nothing follows the last. -/
theorem splitOn_flatMap_append [DecidableEq α] (hpieces : ∀ piece ∈ pieces, separator ∉ piece) :
    (pieces.flatMap (· ++ [separator])).splitOn separator = pieces ++ [[]] := by
  rw [flatMap_append_eq_intercalate]
  refine List.splitOn_intercalate separator (fun piece hpiece ↦ ?_) (by simp)
  rcases List.mem_append.mp hpiece with hpiece | hpiece
  · exact hpieces piece hpiece
  · rw [List.mem_singleton.mp hpiece]
    exact List.not_mem_nil

/-- There are as many separators as pieces. -/
theorem count_flatMap_append [DecidableEq α] (hpieces : ∀ piece ∈ pieces, separator ∉ piece) :
    (pieces.flatMap (· ++ [separator])).count separator = pieces.length := by
  induction pieces with
  | nil => rfl
  | cons piece pieces ih =>
    rw [List.forall_mem_cons] at hpieces
    rw [List.flatMap_cons, List.count_append, List.count_append,
      List.count_eq_zero_of_not_mem hpieces.1, List.count_singleton_self, ih hpieces.2,
      List.length_cons]
    omega

end Terminated

end PacketRefusal
