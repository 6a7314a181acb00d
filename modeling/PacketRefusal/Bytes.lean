/-!
# Byte strings and big-endian words

Packets are finite sequences of octets. This module holds the reading and writing that every
header needs: `octetAt`, `wordAt` and `longAt` read one, two or four octets in network order,
`ofWord` and `ofLong` write them, `fit` cuts or zero-fills a sequence to a given length, and
`overwrite` replaces a stretch of a buffer without changing the buffer's length.

Reading is total: an octet past the end counts as zero. The header parsers compare lengths before
they read, so no answer depends on that convention. `length_fit` and `length_overwrite` are the
length laws, `getElem?_overwrite` says octet by octet which part of a buffer a write touches, and
`wordAt_ofWord` and `longAt_ofLong` say that reading undoes writing.
-/

set_option autoImplicit false
set_option relaxedAutoImplicit false

namespace PacketRefusal

/-- A finite sequence of octets, in the order in which they travel. -/
abbrev Bytes := List UInt8

namespace Bytes

/-! ### Reading -/

/-- The octet at an index, and zero past the end. -/
def octetAt (bytes : Bytes) (index : Nat) : UInt8 := bytes.getD index 0

def highNibble (octet : UInt8) : Nat := octet.toNat / 16

def lowNibble (octet : UInt8) : Nat := octet.toNat % 16

/-- The two octets at an index as one word, the first octet the more significant. -/
def wordAt (bytes : Bytes) (index : Nat) : UInt16 :=
  .ofNat (256 * (octetAt bytes index).toNat + (octetAt bytes (index + 1)).toNat)

/-- The four octets at an index as one number, the first octet the most significant. -/
def longAt (bytes : Bytes) (index : Nat) : UInt32 :=
  .ofNat (65536 * (wordAt bytes index).toNat + (wordAt bytes (index + 2)).toNat)

/-- The first `length` octets, with zeros in the place of those that are missing. -/
def fit : Nat → Bytes → Bytes
  | 0, _ => []
  | length + 1, [] => 0 :: fit length []
  | length + 1, octet :: rest => octet :: fit length rest

@[simp] theorem length_fit (length : Nat) (bytes : Bytes) : (fit length bytes).length = length := by
  induction length generalizing bytes with
  | zero => rfl
  | succ length ih => cases bytes <;> simp [fit, ih]

/-- Nothing is filled in when the octets are there. -/
theorem fit_of_le {length : Nat} {bytes : Bytes} (hlength : length ≤ bytes.length) :
    fit length bytes = bytes.take length := by
  induction length generalizing bytes with
  | zero => simp [fit]
  | succ length ih =>
    cases bytes with
    | nil => simp at hlength
    | cons octet rest => simp [fit, ih (by simpa using hlength)]

/-! ### Writing -/

def ofWord (word : UInt16) : Bytes := [.ofNat (word.toNat / 256), .ofNat (word.toNat % 256)]

def ofLong (long : UInt32) : Bytes :=
  ofWord (.ofNat (long.toNat / 65536)) ++ ofWord (.ofNat (long.toNat % 65536))

/-- The buffer with the octets from `offset` on replaced by `new`, as far as the buffer
reaches. -/
def overwrite : Nat → Bytes → Bytes → Bytes
  | _, _, [] => []
  | _, [], buffer => buffer
  | 0, octet :: new, _ :: buffer => octet :: overwrite 0 new buffer
  | offset + 1, new, octet :: buffer => octet :: overwrite offset new buffer

@[simp] theorem length_ofWord (word : UInt16) : (ofWord word).length = 2 := rfl

@[simp] theorem length_ofLong (long : UInt32) : (ofLong long).length = 4 := rfl

@[simp] theorem length_overwrite (offset : Nat) (new buffer : Bytes) :
    (overwrite offset new buffer).length = buffer.length := by
  induction buffer generalizing offset new with
  | nil => simp [overwrite]
  | cons octet buffer ih =>
    cases new with
    | nil => simp [overwrite]
    | cons => cases offset <;> simp [overwrite, ih]

/-- A write changes the octets from its offset on, one for each octet written, and no other. -/
theorem getElem?_overwrite (offset : Nat) (new buffer : Bytes) (index : Nat)
    (hindex : index < buffer.length) :
    (overwrite offset new buffer)[index]? =
      if offset ≤ index ∧ index < offset + new.length then new[index - offset]?
      else buffer[index]? := by
  induction buffer generalizing offset new index with
  | nil => simp at hindex
  | cons octet buffer ih =>
    cases new with
    | nil =>
      have hempty : ¬(offset ≤ index ∧ index < offset) := by omega
      simp [overwrite, hempty]
    | cons first new =>
      cases offset with
      | zero =>
        cases index with
        | zero => simp [overwrite]
        | succ index => simp [overwrite, ih 0 new index (by simpa using hindex)]
      | succ offset =>
        cases index with
        | zero => simp [overwrite]
        | succ index =>
          have hstep := ih offset (first :: new) index (by simpa using hindex)
          simp [overwrite, hstep, Nat.add_right_comm offset 1]

/-- Reading a word where one was written gives it back. -/
theorem wordAt_ofWord (word : UInt16) (rest : Bytes) : wordAt (ofWord word ++ rest) 0 = word := by
  have hword := word.toNat_lt
  apply UInt16.toNat_inj.mp
  simp [wordAt, ofWord, octetAt]
  omega

/-- Reading a 32-bit number where one was written gives it back. -/
theorem longAt_ofLong (long : UInt32) (rest : Bytes) : longAt (ofLong long ++ rest) 0 = long := by
  have hlong := long.toNat_lt
  apply UInt32.toNat_inj.mp
  simp [longAt, wordAt, ofLong, ofWord, octetAt]
  omega

end Bytes

end PacketRefusal
