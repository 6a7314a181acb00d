import PacketRefusal.Bytes

/-!
# Byte strings laid end to end

Packets are built by laying headers and payload end to end, and read at offsets that reach over
what stands in front. `octetAt_append_left` and its counterparts for words and numbers move a
reading to the front part, `wordAt_of_drop` and `longAt_of_drop` read a field where it was laid out,
and `overwrite_append_left`, `overwrite_append_right` and `overwrite_append_middle` move a writing
to the part that it falls into. `fit_of_ge` says what filling in zeros makes of a byte string that
is too short.
-/

set_option autoImplicit false
set_option relaxedAutoImplicit false

namespace PacketRefusal.Bytes

variable {front back : Bytes}

/-! ### Parts -/

/-- A byte string is three parts, of which the middle one stands between two positions. -/
theorem exists_parts {bytes : Bytes} {start stop : Nat} (horder : start ≤ stop)
    (hstop : stop ≤ bytes.length) :
    ∃ front middle back, bytes = front ++ middle ++ back ∧
      (bytes.take stop).drop start = middle ∧ front.length = start ∧
      front.length + middle.length = stop := by
  refine ⟨bytes.take start, (bytes.take stop).drop start, bytes.drop stop, ?_, rfl, ?_, ?_⟩
  · have hfront : bytes.take start = (bytes.take stop).take start := by
      rw [List.take_take, Nat.min_eq_left horder]
    rw [hfront, List.take_append_drop, List.take_append_drop]
  · exact List.length_take_of_le (Nat.le_trans horder hstop)
  · rw [List.length_drop, List.length_take_of_le hstop, List.length_take_of_le (by omega)]
    exact Nat.add_sub_cancel' horder

/-- Behind the first of two parts stands the second one. -/
theorem drop_add_of_drop {bytes : Bytes} {offset length : Nat}
    (hdrop : bytes.drop offset = front ++ back) (hlength : front.length = length) :
    bytes.drop (offset + length) = back := by
  rw [← List.drop_drop, hdrop, List.drop_left' hlength]

/-! ### Reading -/

theorem head?_eq_octetAt {bytes : Bytes} (hlength : 0 < bytes.length) :
    bytes.head? = some (octetAt bytes 0) := by
  cases bytes with
  | nil => simp at hlength
  | cons octet rest => rfl

theorem octetAt_of_length_le {bytes : Bytes} {index : Nat} (hindex : bytes.length ≤ index) :
    octetAt bytes index = 0 := by
  rw [octetAt, List.getD_eq_getElem?_getD, List.getElem?_eq_none hindex, Option.getD_none]

theorem octetAt_append_left {index : Nat} (hindex : index < front.length) :
    octetAt (front ++ back) index = octetAt front index := by
  rw [octetAt, octetAt, List.getD_eq_getElem?_getD, List.getD_eq_getElem?_getD,
    List.getElem?_append_left hindex]

/-- What stands at the start of three parts is read in the first one. -/
theorem octetAt_append_append (middle back : Bytes) {index : Nat}
    (hindex : index < front.length) :
    octetAt (front ++ middle ++ back) index = octetAt front index := by
  rw [List.append_assoc, octetAt_append_left hindex]

theorem octetAt_take {bytes : Bytes} {index length : Nat} (hindex : index < length) :
    octetAt (bytes.take length) index = octetAt bytes index := by
  rw [octetAt, octetAt, List.getD_eq_getElem?_getD, List.getD_eq_getElem?_getD,
    List.getElem?_take_of_lt hindex]

theorem octetAt_drop (bytes : Bytes) (length index : Nat) :
    octetAt (bytes.drop length) index = octetAt bytes (length + index) := by
  rw [octetAt, octetAt, List.getD_eq_getElem?_getD, List.getD_eq_getElem?_getD, List.getElem?_drop]

/-- What stands behind the first of two parts is read in the second one. -/
theorem octetAt_append_right {length : Nat} (hlength : front.length = length) (index : Nat) :
    octetAt (front ++ back) (length + index) = octetAt back index := by
  rw [← octetAt_drop, List.drop_left' hlength]

/-- A word shows both of its octets. -/
theorem octetAt_eq_of_wordAt_eq {first second : Bytes} {index : Nat}
    (hword : wordAt first index = wordAt second index) :
    octetAt first index = octetAt second index ∧
      octetAt first (index + 1) = octetAt second (index + 1) := by
  have hfirstHigh := (octetAt first index).toNat_lt
  have hfirstLow := (octetAt first (index + 1)).toNat_lt
  have hsecondHigh := (octetAt second index).toNat_lt
  have hsecondLow := (octetAt second (index + 1)).toNat_lt
  have hnumber := congrArg UInt16.toNat hword
  simp only [wordAt, UInt16.toNat_ofNat'] at hnumber
  refine ⟨UInt8.toNat_inj.mp ?_, UInt8.toNat_inj.mp ?_⟩ <;> omega

/-- A word is zero when both of its octets are. -/
theorem wordAt_eq_zero_iff {bytes : Bytes} {index : Nat} :
    wordAt bytes index = 0 ↔ octetAt bytes index = 0 ∧ octetAt bytes (index + 1) = 0 := by
  have hhigh := (octetAt bytes index).toNat_lt
  have hlow := (octetAt bytes (index + 1)).toNat_lt
  rw [← UInt16.toNat_inj, ← UInt8.toNat_inj, ← UInt8.toNat_inj, wordAt, UInt16.toNat_ofNat']
  simp only [UInt16.toNat_zero, UInt8.toNat_zero]
  omega

theorem wordAt_take {bytes : Bytes} {index length : Nat} (hindex : index + 1 < length) :
    wordAt (bytes.take length) index = wordAt bytes index := by
  rw [wordAt, wordAt, octetAt_take hindex, octetAt_take (Nat.lt_of_succ_lt hindex)]

theorem wordAt_append_left {index : Nat} (hindex : index + 1 < front.length) :
    wordAt (front ++ back) index = wordAt front index := by
  rw [wordAt, wordAt, octetAt_append_left hindex, octetAt_append_left (Nat.lt_of_succ_lt hindex)]

theorem wordAt_append_right {length : Nat} (hlength : front.length = length) (index : Nat) :
    wordAt (front ++ back) (length + index) = wordAt back index := by
  rw [wordAt, wordAt, Nat.add_assoc, octetAt_append_right hlength, octetAt_append_right hlength]

theorem longAt_append_left {index : Nat} (hindex : index + 3 < front.length) :
    longAt (front ++ back) index = longAt front index := by
  rw [longAt, longAt, wordAt_append_left (by omega), wordAt_append_left (by omega)]

/-- A word is read where it was laid out. -/
theorem wordAt_of_drop {bytes : Bytes} (rest : Bytes) {offset : Nat} {word : UInt16}
    (hdrop : bytes.drop offset = ofWord word ++ rest) : wordAt bytes offset = word := by
  have hword := wordAt_ofWord word rest
  rw [← hdrop] at hword
  rwa [wordAt, octetAt_drop, octetAt_drop] at hword

/-- A 32-bit number is read where it was laid out. -/
theorem longAt_of_drop {bytes : Bytes} (rest : Bytes) {offset : Nat} {long : UInt32}
    (hdrop : bytes.drop offset = ofLong long ++ rest) : longAt bytes offset = long := by
  have hlong := longAt_ofLong long rest
  rw [← hdrop] at hlong
  rwa [longAt, wordAt, wordAt, octetAt_drop, octetAt_drop, octetAt_drop, octetAt_drop] at hlong

/-! ### Writing -/

/-- A write that fits replaces as many octets as it writes. -/
theorem overwrite_eq (offset : Nat) (new buffer : Bytes)
    (hfit : offset + new.length ≤ buffer.length) :
    overwrite offset new buffer =
      buffer.take offset ++ new ++ buffer.drop (offset + new.length) := by
  induction buffer generalizing offset new with
  | nil =>
    have hnew : new = [] := by
      simp only [List.length_nil, Nat.le_zero_eq, Nat.add_eq_zero_iff] at hfit
      exact List.length_eq_zero_iff.mp hfit.2
    simp [overwrite, hnew]
  | cons octet buffer ih =>
    cases new with
    | nil => simp [overwrite]
    | cons first new =>
      simp only [List.length_cons] at hfit
      cases offset with
      | zero => simp [overwrite, ih 0 new (by omega)]
      | succ offset =>
        have hrest := ih offset (first :: new) (by simp; omega)
        simp [overwrite, hrest, Nat.add_right_comm offset 1]

/-- A write that fits between two parts replaces what stands there. -/
theorem overwrite_append_middle {offset : Nat} {old new : Bytes} (hoffset : front.length = offset)
    (hlength : old.length = new.length) :
    overwrite offset new (front ++ old ++ back) = front ++ new ++ back := by
  rw [overwrite_eq _ _ _ (by simp [hoffset, hlength]), ← hoffset]
  simp [← hlength, ← List.drop_drop]

theorem overwrite_append_left {offset : Nat} {new : Bytes}
    (hfit : offset + new.length ≤ front.length) :
    overwrite offset new (front ++ back) = overwrite offset new front ++ back := by
  rw [overwrite_eq _ _ _ hfit, overwrite_eq _ _ _ (by simp; omega),
    List.take_append_of_le_length (by omega), List.drop_append_of_le_length hfit]
  simp

theorem overwrite_append_right (offset : Nat) (new : Bytes) :
    overwrite (front.length + offset) new (front ++ back) = front ++ overwrite offset new back := by
  induction front with
  | nil => simp
  | cons octet front ih =>
    cases new with
    | nil => cases back <;> simp [overwrite]
    | cons first new =>
      have hshift : (octet :: front).length + offset = front.length + offset + 1 := by
        simp only [List.length_cons]
        omega
      rw [hshift, List.cons_append, List.cons_append, ← ih]
      simp [overwrite]

/-- A write in front of an index keeps the octets behind it. -/
theorem overwrite_eq_take_append {offset index : Nat} {new buffer : Bytes}
    (hfit : offset + new.length ≤ index) (hindex : index ≤ buffer.length) :
    overwrite offset new buffer =
      overwrite offset new (buffer.take index) ++ buffer.drop index := by
  rw [← overwrite_append_left (by rwa [List.length_take_of_le hindex]), List.take_append_drop]

/-- A write from an index on keeps the octets in front of it. -/
theorem overwrite_eq_append_drop {index : Nat} {buffer : Bytes} (hindex : index ≤ buffer.length)
    (new : Bytes) :
    overwrite index new buffer = buffer.take index ++ overwrite 0 new (buffer.drop index) := by
  have hlength : (buffer.take index).length + 0 = index := by
    rw [List.length_take_of_le hindex, Nat.add_zero]
  rw [← overwrite_append_right, List.take_append_drop, hlength]

/-- Two writes of which the second starts where the first one ends are one. -/
theorem overwrite_overwrite {offset : Nat} {first second buffer : Bytes}
    (hfit : offset + first.length + second.length ≤ buffer.length) :
    overwrite (offset + first.length) second (overwrite offset first buffer) =
      overwrite offset (first ++ second) buffer := by
  have hlength : ((buffer.drop (offset + first.length)).take second.length).length =
      second.length := by
    rw [List.length_take_of_le]
    rw [List.length_drop]
    omega
  have hfront : (buffer.take offset ++ first).length = offset + first.length := by
    rw [List.length_append, List.length_take_of_le (by omega)]
  rw [overwrite_eq offset first buffer (by omega),
    overwrite_eq offset _ buffer (by rw [List.length_append]; omega),
    ← List.take_append_drop second.length (buffer.drop (offset + first.length)),
    ← List.append_assoc, overwrite_append_middle hfront hlength, List.drop_drop]
  simp only [List.append_assoc, List.length_append, Nat.add_assoc]

/-! ### Filling in zeros -/

/-- A byte string that is not too long keeps its octets, and zeros follow them. -/
theorem fit_of_ge (length : Nat) (bytes : Bytes) (hlength : bytes.length ≤ length) :
    fit length bytes = bytes ++ List.replicate (length - bytes.length) 0 := by
  induction length generalizing bytes with
  | zero =>
    have hempty : bytes = [] := List.length_eq_zero_iff.mp (by omega)
    simp [hempty, fit]
  | succ length ih =>
    cases bytes with
    | nil => simpa [fit, List.replicate_succ] using ih [] (by simp)
    | cons octet rest => simpa [fit] using ih rest (by simpa using hlength)

/-- Filling in zeros and reading past the end amount to the same. -/
theorem fit_eq_map (length : Nat) (bytes : Bytes) :
    fit length bytes = (List.range length).map (octetAt bytes) := by
  induction length generalizing bytes with
  | zero => rfl
  | succ length ih =>
    cases bytes with
    | nil => rw [fit, ih, List.range_succ_eq_map, List.map_cons, List.map_map]; rfl
    | cons octet rest => rw [fit, ih, List.range_succ_eq_map, List.map_cons, List.map_map]; rfl

/-- What does not fit may be cut off before. -/
theorem fit_take (length : Nat) (bytes : Bytes) :
    fit length (bytes.take length) = fit length bytes := by
  rw [fit_eq_map, fit_eq_map]
  refine List.map_congr_left fun index hindex ↦ octetAt_take ?_
  exact List.mem_range.mp hindex

/-- The octets that are there come first, and zeros stand for the others. -/
theorem fit_eq_take_append (length : Nat) (bytes : Bytes) :
    fit length bytes = bytes.take length ++ List.replicate (length - bytes.length) 0 := by
  have hmissing : length - min length bytes.length = length - bytes.length := by omega
  rw [← fit_take, fit_of_ge length _ (List.length_take_le length bytes), List.length_take, hmissing]

/-- A byte string of the right length is taken out whole. -/
theorem fit_append_left {length : Nat} (hlength : front.length = length) :
    fit length (front ++ back) = front := by
  rw [fit_of_le (by simp [hlength]), List.take_left' hlength]

/-- Octets that are taken out of the front part do not depend on what follows it. -/
theorem fit_drop_append_left {offset length : Nat} (hfit : offset + length ≤ front.length) :
    fit length ((front ++ back).drop offset) = fit length (front.drop offset) := by
  have hlength : length ≤ (front.drop offset).length := by
    rw [List.length_drop]
    omega
  rw [List.drop_append_of_le_length (by omega), fit_of_le hlength,
    fit_of_le (by rw [List.length_append]; omega), List.take_append_of_le_length hlength]

/-- Two stretches of one length that stand side by side are one. -/
theorem fit_append_fit {bytes : Bytes} {offset length : Nat}
    (hfit : offset + 2 * length ≤ bytes.length) :
    fit length (bytes.drop offset) ++ fit length (bytes.drop (offset + length)) =
      (bytes.drop offset).take (2 * length) := by
  rw [fit_of_le (by rw [List.length_drop]; omega), fit_of_le (by rw [List.length_drop]; omega),
    ← List.drop_drop, ← List.take_add, Nat.two_mul]

end PacketRefusal.Bytes
