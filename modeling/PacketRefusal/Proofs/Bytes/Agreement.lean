import Mathlib.Order.Interval.Set.Basic
import PacketRefusal.Proofs.Bytes.Append

/-!
# Byte strings that agree outside a set of positions

A buffer that is reused holds old octets in some of its positions. `Bytes.AgreeExcept` compares two
byte strings of one length and names the positions in which they may differ, so that a proof about
a reused buffer can compare it with a new one and keep account of what is still old.

`AgreeExcept.overwrite` is the step: writing the same octets into both strings takes the written
positions out of the account. `AgreeExcept.eq_of_subset_empty` is the end, when nothing is left in
it. `agreeExcept_overwrite` is the frame of one write, `AgreeExcept.octetAt_eq` and
`AgreeExcept.wordAt_eq` say that reading elsewhere gives the same.
-/

set_option autoImplicit false
set_option relaxedAutoImplicit false

namespace PacketRefusal.Bytes

/-- Two byte strings of the same length that differ at most in the positions of a set. -/
structure AgreeExcept (stale : Set ℕ) (first second : Bytes) : Prop where
  length_eq : first.length = second.length
  getElem?_eq : ∀ index ∉ stale, first[index]? = second[index]?

namespace AgreeExcept

variable {stale larger : Set ℕ} {first second third : Bytes}

theorem refl (stale : Set ℕ) (bytes : Bytes) : AgreeExcept stale bytes bytes :=
  ⟨rfl, fun _ _ ↦ rfl⟩

theorem symm (hagree : AgreeExcept stale first second) : AgreeExcept stale second first :=
  ⟨hagree.length_eq.symm, fun index hindex ↦ (hagree.getElem?_eq index hindex).symm⟩

theorem mono (hagree : AgreeExcept stale first second) (hsubset : stale ⊆ larger) :
    AgreeExcept larger first second :=
  ⟨hagree.length_eq, fun index hindex ↦ hagree.getElem?_eq index fun hstale ↦
    hindex (hsubset hstale)⟩

theorem trans (hfirst : AgreeExcept stale first second)
    (hsecond : AgreeExcept stale second third) : AgreeExcept stale first third :=
  ⟨hfirst.length_eq.trans hsecond.length_eq, fun index hindex ↦
    (hfirst.getElem?_eq index hindex).trans (hsecond.getElem?_eq index hindex)⟩

/-- Byte strings that can differ nowhere are equal. -/
theorem eq_of_subset_empty (hagree : AgreeExcept stale first second) (hempty : stale ⊆ ∅) :
    first = second :=
  List.ext_getElem? fun index ↦ hagree.getElem?_eq index fun hstale ↦ hempty hstale

/-- Writing the same octets into both byte strings takes their positions out of the account. -/
theorem overwrite (hagree : AgreeExcept stale first second) (offset : ℕ) (new : Bytes) :
    AgreeExcept (stale \ Set.Ico offset (offset + new.length))
      (Bytes.overwrite offset new first) (Bytes.overwrite offset new second) := by
  refine ⟨by simp [hagree.length_eq], fun index hindex ↦ ?_⟩
  by_cases hlength : index < first.length
  · rw [getElem?_overwrite offset new first index hlength,
      getElem?_overwrite offset new second index (hagree.length_eq ▸ hlength)]
    by_cases hwritten : offset ≤ index ∧ index < offset + new.length
    · rw [if_pos hwritten, if_pos hwritten]
    · rw [if_neg hwritten, if_neg hwritten]
      exact hagree.getElem?_eq index fun hstale ↦ hindex ⟨hstale, hwritten⟩
  · rw [List.getElem?_eq_none (by simpa using hlength),
      List.getElem?_eq_none (by simpa [← hagree.length_eq] using hlength)]

/-- The front parts of byte strings that agree do so, too, and differ in none of the positions
behind them. -/
theorem take (hagree : AgreeExcept stale first second) (length : ℕ) :
    AgreeExcept (stale ∩ Set.Iio length) (first.take length) (second.take length) := by
  refine ⟨by simp [hagree.length_eq], fun index hindex ↦ ?_⟩
  rw [List.getElem?_take, List.getElem?_take]
  by_cases hlength : index < length
  · rw [hagree.getElem?_eq index fun hstale ↦ hindex ⟨hstale, hlength⟩]
  · rw [if_neg hlength, if_neg hlength]

/-- The hind parts of byte strings that agree do so in the positions counted from their start. -/
theorem drop (hagree : AgreeExcept stale first second) (length : ℕ) :
    AgreeExcept {index | length + index ∈ stale} (first.drop length) (second.drop length) := by
  refine ⟨by simp [hagree.length_eq], fun index hindex ↦ ?_⟩
  rw [List.getElem?_drop, List.getElem?_drop]
  exact hagree.getElem?_eq (length + index) hindex

/-- Two parts that agree with two others do so, too, when they are laid end to end. -/
theorem append {other : Set ℕ} {front back : Bytes} (hfirst : AgreeExcept stale first front)
    (hsecond : AgreeExcept other second back) :
    AgreeExcept (stale ∪ (front.length + ·) '' other) (first ++ second) (front ++ back) := by
  refine ⟨by simp [hfirst.length_eq, hsecond.length_eq], fun index hindex ↦ ?_⟩
  rw [Set.mem_union, not_or] at hindex
  by_cases hlength : index < front.length
  · rw [List.getElem?_append_left (hfirst.length_eq ▸ hlength), List.getElem?_append_left hlength]
    exact hfirst.getElem?_eq index hindex.1
  · rw [not_lt] at hlength
    rw [List.getElem?_append_right (hfirst.length_eq ▸ hlength),
      List.getElem?_append_right hlength, hfirst.length_eq]
    refine hsecond.getElem?_eq _ fun hother ↦ hindex.2 ⟨_, hother, ?_⟩
    exact Nat.add_sub_cancel' hlength

/-- Octets that stand behind both of two parts are no further difference. -/
theorem append_rest (hagree : AgreeExcept stale first second) (rest : Bytes) :
    AgreeExcept stale (first ++ rest) (second ++ rest) := by
  refine (hagree.append (.refl ∅ rest)).mono (Set.union_subset subset_rfl ?_)
  rintro _ ⟨_, hnone, -⟩
  exact hnone.elim

/-- Octets that stand in front of both of two parts move the differences. -/
theorem append_front (hagree : AgreeExcept stale first second) (front : Bytes) :
    AgreeExcept ((front.length + ·) '' stale) (front ++ first) (front ++ second) := by
  have hparts := (AgreeExcept.refl ∅ front).append hagree
  rwa [Set.empty_union] at hparts

/-- A byte string that agrees with two parts laid end to end has two such parts itself. -/
theorem split {front back bytes : Bytes} (hagree : AgreeExcept stale bytes (front ++ back)) :
    ∃ front' back', bytes = front' ++ back' ∧
      AgreeExcept (stale ∩ Set.Iio front.length) front' front ∧
      AgreeExcept {index | front.length + index ∈ stale} back' back := by
  refine ⟨bytes.take front.length, bytes.drop front.length, (List.take_append_drop _ _).symm,
    ?_, ?_⟩
  · simpa using hagree.take front.length
  · simpa using hagree.drop front.length

/-- An octet in another position is the same. -/
theorem octetAt_eq (hagree : AgreeExcept stale first second) {index : ℕ} (hindex : index ∉ stale) :
    octetAt first index = octetAt second index := by
  rw [octetAt, octetAt, List.getD_eq_getElem?_getD, List.getD_eq_getElem?_getD,
    hagree.getElem?_eq index hindex]

/-- A word in other positions is the same. -/
theorem wordAt_eq (hagree : AgreeExcept stale first second) {index : ℕ} (hhigh : index ∉ stale)
    (hlow : index + 1 ∉ stale) : wordAt first index = wordAt second index := by
  rw [wordAt, wordAt, hagree.octetAt_eq hhigh, hagree.octetAt_eq hlow]

/-- A number of four octets in other positions is the same. -/
theorem longAt_eq (hagree : AgreeExcept stale first second) {index : ℕ}
    (hother : ∀ octet ∈ Set.Ico index (index + 4), octet ∉ stale) :
    longAt first index = longAt second index := by
  have hhigh := hagree.wordAt_eq (hother index (by simp)) (hother (index + 1) (by simp))
  have hlow := hagree.wordAt_eq (hother (index + 2) (by simp)) (hother (index + 3) (by simp))
  rw [longAt, longAt, hhigh, hlow]

/-- Octets that are taken out of other positions are the same. -/
theorem fit_drop_eq (hagree : AgreeExcept stale first second) {offset length : ℕ}
    (hother : ∀ index ∈ Set.Ico offset (offset + length), index ∉ stale) :
    fit length (first.drop offset) = fit length (second.drop offset) := by
  rw [fit_eq_map, fit_eq_map]
  refine List.map_congr_left ?_
  intro index hindex
  rw [octetAt_drop, octetAt_drop, hagree.octetAt_eq (hother _ ?_)]
  simpa using List.mem_range.mp hindex

end AgreeExcept

/-- Byte strings of one length differ at most in the positions up to their end. -/
theorem agreeExcept_of_length_eq {first second : Bytes} (hlength : first.length = second.length) :
    AgreeExcept (Set.Iio second.length) first second := by
  refine ⟨hlength, fun index hindex ↦ ?_⟩
  rw [Set.mem_Iio, not_lt] at hindex
  rw [List.getElem?_eq_none (hlength ▸ hindex), List.getElem?_eq_none hindex]

/-- Byte strings that are filled up to one length agree where their octets do. -/
theorem agreeExcept_fit {stale : Set ℕ} {first second : Bytes} {length : ℕ}
    (hoctets : ∀ index ∉ stale, index < length → octetAt first index = octetAt second index) :
    AgreeExcept stale (fit length first) (fit length second) := by
  refine ⟨by simp, fun index hindex ↦ ?_⟩
  rw [fit_eq_map, fit_eq_map, List.getElem?_map, List.getElem?_map]
  cases hrange : (List.range length)[index]? with
  | none => rfl
  | some position =>
    obtain ⟨hlength, hposition⟩ := List.getElem?_eq_some_iff.mp hrange
    rw [List.getElem_range] at hposition
    rw [List.length_range] at hlength
    rw [Option.map_some, Option.map_some, ← hposition, hoctets index hindex hlength]

/-- A write changes at most the positions of the octets that are written. -/
theorem agreeExcept_overwrite (offset : ℕ) (new buffer : Bytes) :
    AgreeExcept (Set.Ico offset (offset + new.length)) (overwrite offset new buffer) buffer := by
  refine ⟨by simp, fun index hindex ↦ ?_⟩
  by_cases hlength : index < buffer.length
  · rw [getElem?_overwrite offset new buffer index hlength]
    exact if_neg hindex
  · rw [List.getElem?_eq_none (by simpa using hlength),
      List.getElem?_eq_none (by simpa using hlength)]

end PacketRefusal.Bytes
