import PacketRefusal.Checksum.OnesComplement
import PacketRefusal.Proofs.Bytes.Agreement
import PacketRefusal.Proofs.Bytes.Append

/-!
# Stored checksums verify

A receiver adds all words of what a checksum covers, the checksum among them, folds the carries and
expects sixteen ones. `foldCarries_store` says that this is what it finds once `Checksum.store` has
put the checksum into its word, whatever stood there before.

The argument is arithmetic modulo 65535. Folding a carry keeps a sum modulo 65535
(`foldCarries_mod`) and apart from zero (`foldCarries_eq_zero_iff`), so that a sum folds to sixteen
ones exactly when it is a positive multiple of 65535 (`foldCarries_eq_ones_iff`). A sum together
with the complement of its folding is one (`foldCarries_add_complement`).

The word of the checksum is left out of the sum by its place: `wordSumSkipping_eq` writes the sum as
that of the parts in front of it and behind it. Hence what stood in the word before is forgotten,
`store_congr`. The word that is stored may be zero, and `checksum_eq_zero_iff` says when it is.
-/

set_option autoImplicit false
set_option relaxedAutoImplicit false

namespace PacketRefusal.Checksum

open Bytes

/-! ### Carries -/

/-- A folded sum fits sixteen bits. -/
theorem foldCarries_lt (sum : ℕ) : foldCarries sum < 65536 := by
  induction sum using foldCarries.induct with
  | case1 sum hsmall => rwa [foldCarries, if_pos hsmall]
  | case2 sum hlarge ih => rwa [foldCarries, if_neg hlarge]

/-- Folding keeps a sum modulo 65535. -/
theorem foldCarries_mod (sum : ℕ) : foldCarries sum % 65535 = sum % 65535 := by
  induction sum using foldCarries.induct with
  | case1 sum hsmall => rw [foldCarries, if_pos hsmall]
  | case2 sum hlarge ih =>
    rw [foldCarries, if_neg hlarge, ih]
    omega

/-- Only nothing folds to nothing. -/
theorem foldCarries_eq_zero_iff (sum : ℕ) : foldCarries sum = 0 ↔ sum = 0 := by
  induction sum using foldCarries.induct with
  | case1 sum hsmall => rw [foldCarries, if_pos hsmall]
  | case2 sum hlarge ih =>
    rw [foldCarries, if_neg hlarge, ih]
    omega

/-- A sum folds to sixteen ones when it is a positive multiple of 65535. -/
theorem foldCarries_eq_ones_iff (sum : ℕ) :
    foldCarries sum = 0xFFFF ↔ sum ≠ 0 ∧ sum % 65535 = 0 := by
  have hlt := foldCarries_lt sum
  have hmod := foldCarries_mod sum
  have hzero := foldCarries_eq_zero_iff sum
  omega

/-- A sum and the complement of its folding fold to sixteen ones. -/
theorem foldCarries_add_complement (sum : ℕ) :
    foldCarries (sum + (65535 - foldCarries sum)) = 0xFFFF := by
  have hlt := foldCarries_lt sum
  have hmod := foldCarries_mod sum
  have hzero := foldCarries_eq_zero_iff sum
  rw [foldCarries_eq_ones_iff]
  omega

/-! ### Sums of words -/

/-- Behind an even number of octets the words are counted anew. -/
theorem wordSum_append {front : Bytes} (heven : 2 ∣ front.length) (back : Bytes) :
    wordSum (front ++ back) = wordSum front + wordSum back := by
  induction front using wordSum.induct with
  | case1 => simp [wordSum]
  | case2 high => simp at heven
  | case3 high low rest ih =>
    have hrest : 2 ∣ rest.length := by simpa using heven
    simp [wordSum, ih hrest, Nat.add_assoc]

/-- The two octets of a word add up to it. -/
theorem wordSum_ofWord (word : UInt16) : wordSum (ofWord word) = word.toNat := by
  have hword := word.toNat_lt
  simp [ofWord, wordSum]
  omega

/-- The sum without one word is that of the octets in front of it and of those behind it. -/
theorem wordSumSkipping_eq (skipped : ℕ) (bytes : Bytes) :
    wordSumSkipping skipped bytes =
      wordSum (bytes.take (2 * skipped)) + wordSum (bytes.drop (2 * skipped + 2)) := by
  induction skipped, bytes using wordSumSkipping.induct with
  | case1 => simp [wordSumSkipping, wordSum]
  | case2 high => simp [wordSumSkipping, wordSum]
  | case3 skipped high => simp [wordSumSkipping, wordSum, Nat.mul_add]
  | case4 high low rest => simp [wordSumSkipping, wordSum]
  | case5 skipped high low rest ih =>
    simp [wordSumSkipping, wordSum, ih, Nat.mul_add, Nat.add_assoc]

/-! ### Storing a checksum -/

def wordPositions (word : ℕ) : Set ℕ := Set.Ico (2 * word) (2 * word + 2)

/-- The byte string with its checksum in the word that the checksum leaves out. -/
def store (added skipped : ℕ) (bytes : Bytes) : Bytes :=
  overwrite (2 * skipped) (ofWord (checksum added skipped bytes)) bytes

@[simp] theorem length_store (added skipped : ℕ) (bytes : Bytes) :
    (store added skipped bytes).length = bytes.length := length_overwrite _ _ _

/-- Storing a checksum changes no other word. -/
theorem agreeExcept_store (added skipped : ℕ) (bytes : Bytes) :
    AgreeExcept (wordPositions skipped) (store added skipped bytes) bytes :=
  agreeExcept_overwrite (2 * skipped) (ofWord (checksum added skipped bytes)) bytes

/-- The octets in which a checksum is stored do not take part in it. -/
theorem checksum_congr {skipped : ℕ} {first second : Bytes}
    (hagree : AgreeExcept (wordPositions skipped) first second) (added : ℕ) :
    checksum added skipped first = checksum added skipped second := by
  have hfront : first.take (2 * skipped) = second.take (2 * skipped) := by
    refine List.ext_getElem? ?_
    intro index
    by_cases hindex : index < 2 * skipped
    · rw [List.getElem?_take_of_lt hindex, List.getElem?_take_of_lt hindex]
      exact hagree.getElem?_eq index (by simp only [wordPositions, Set.mem_Ico]; omega)
    · rw [List.getElem?_eq_none (by simp; omega), List.getElem?_eq_none (by simp; omega)]
  have hback : first.drop (2 * skipped + 2) = second.drop (2 * skipped + 2) := by
    refine (hagree.drop _).eq_of_subset_empty ?_
    intro index hindex
    simp only [wordPositions, Set.mem_ofPred_eq, Set.mem_Ico] at hindex
    omega
  rw [checksum, checksum, wordSumSkipping_eq, wordSumSkipping_eq, hfront, hback]

/-- What stood in the word of the checksum is forgotten. -/
theorem store_congr {skipped : ℕ} {first second : Bytes}
    (hagree : AgreeExcept (wordPositions skipped) first second) (added : ℕ) :
    store added skipped first = store added skipped second := by
  rw [store, store, checksum_congr hagree]
  refine (hagree.overwrite _ _).eq_of_subset_empty ?_
  intro index hindex
  exact hindex.2 hindex.1

/-- The checksum is read where it was stored. -/
theorem wordAt_store {skipped : ℕ} {bytes : Bytes} (hroom : 2 * skipped + 2 ≤ bytes.length)
    (added : ℕ) :
    wordAt (store added skipped bytes) (2 * skipped) = checksum added skipped bytes := by
  refine wordAt_of_drop (bytes.drop (2 * skipped + 2)) ?_
  rw [store, overwrite_eq _ _ _ (by simpa using hroom), List.append_assoc,
    List.drop_left' (List.length_take_of_le (by omega)), length_ofWord]

/-- The sum of all words after one of them is written. -/
theorem wordSum_overwrite {skipped : ℕ} {bytes : Bytes} (hroom : 2 * skipped + 2 ≤ bytes.length)
    (word : UInt16) :
    wordSum (overwrite (2 * skipped) (ofWord word) bytes) =
      wordSumSkipping skipped bytes + word.toNat := by
  have hfront : 2 ∣ (bytes.take (2 * skipped)).length := by
    rw [List.length_take_of_le (by omega)]
    exact Nat.dvd_mul_right 2 skipped
  have hword : 2 ∣ (ofWord word).length := by simp
  rw [overwrite_eq _ _ _ (by simpa using hroom), List.append_assoc, wordSum_append hfront,
    wordSum_append hword, wordSum_ofWord, wordSumSkipping_eq, length_ofWord]
  omega

/-- A checksum is the complement of the folded sum. -/
theorem toNat_checksum (added skipped : ℕ) (bytes : Bytes) :
    (checksum added skipped bytes).toNat =
      65535 - foldCarries (added + wordSumSkipping skipped bytes) := by
  rw [checksum, UInt16.toNat_ofNat_of_lt']
  exact Nat.lt_of_le_of_lt (Nat.sub_le _ _) (by decide)

/-- The checksum of a positive sum is zero when the sum is a multiple of 65535. -/
theorem checksum_eq_zero_iff {added skipped : ℕ} {bytes : Bytes}
    (hpositive : added + wordSumSkipping skipped bytes ≠ 0) :
    checksum added skipped bytes = 0 ↔ 65535 ∣ added + wordSumSkipping skipped bytes := by
  have hlt := foldCarries_lt (added + wordSumSkipping skipped bytes)
  have hones := foldCarries_eq_ones_iff (added + wordSumSkipping skipped bytes)
  rw [← UInt16.toNat_inj, toNat_checksum, UInt16.toNat_zero, Nat.dvd_iff_mod_eq_zero]
  omega

/-- A stored checksum verifies: all words together, with the amount that was added, fold to sixteen
ones. -/
theorem foldCarries_store {skipped : ℕ} {bytes : Bytes} (hroom : 2 * skipped + 2 ≤ bytes.length)
    (added : ℕ) : foldCarries (added + wordSum (store added skipped bytes)) = 0xFFFF := by
  rw [store, wordSum_overwrite hroom, toNat_checksum, ← Nat.add_assoc]
  exact foldCarries_add_complement _

/-- The words of a byte string fold to sixteen ones, as a receiver expects of what a checksum
covers. -/
def Verifies (bytes : Bytes) : Prop := foldCarries (wordSum bytes) = 0xFFFF

/-- A stored checksum verifies behind octets that it covers, too, when their sum was added. -/
theorem verifies_append_store {front : Bytes} (heven : 2 ∣ front.length) {added : ℕ}
    (hadded : wordSum front = added) {skipped : ℕ} {bytes : Bytes}
    (hroom : 2 * skipped + 2 ≤ bytes.length) :
    Verifies (front ++ store added skipped bytes) := by
  rw [Verifies, wordSum_append heven, hadded]
  exact foldCarries_store hroom added

end PacketRefusal.Checksum
