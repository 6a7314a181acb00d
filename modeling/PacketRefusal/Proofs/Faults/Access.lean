import Mathlib.Data.Nat.Notation
import PacketRefusal.Proofs.Bytes.Append

/-!
# Access and arithmetic that can go wrong

Reading here is total, and numbers are unbounded. On a machine they are not: an octet beyond the end
of a byte string, a part whose bounds are crossed, a sum that does not fit its type end the program
at once. `Checked` is the monad of computations that such a `Fault` can end, and its operations ask
for what the machine asks for: `octet`, `slice` and `write` for bounds, `copy` for equal lengths,
`add`, `multiply` and `accumulate` for room, `narrow` for bits that are kept.

Each operation has one lemma, which names what is asked for and gives the total operation in return.
Rewriting with these lemmas turns a computation whose bounds are known into its total counterpart.
-/

set_option autoImplicit false
set_option relaxedAutoImplicit false

namespace PacketRefusal

/-- What ends a program that goes wrong. -/
inductive Fault
  /-- An octet beyond the end of a byte string. -/
  | index
  /-- A part of a byte string whose bounds are crossed or lie beyond its end. -/
  | slice
  /-- A copy between parts of different lengths. -/
  | copy
  /-- A sum or a product that does not fit its type. -/
  | overflow
  /-- A number that loses bits in a smaller type. -/
  | narrowing
  deriving DecidableEq

/-- A computation that a fault can end. -/
abbrev Checked := Except Fault

namespace Checked

open Bytes

/-- The numbers that a length or an index can be. -/
def sizeLimit : ℕ := 0x10000000000000000

/-- The numbers that the accumulator of a checksum can hold. -/
def accumulatorLimit : ℕ := 0x100000000

@[simp] theorem ok_bind {first second : Type} (value : first) (next : first → Checked second) :
    (Except.ok value >>= next) = next value := rfl

/-! ### Byte strings -/

def octet (bytes : Bytes) (index : ℕ) : Checked UInt8 :=
  if index < bytes.length then .ok (octetAt bytes index) else .error .index

def word (bytes : Bytes) (index : ℕ) : Checked UInt16 := do
  let high ← octet bytes index
  let low ← octet bytes (index + 1)
  return .ofNat (256 * high.toNat + low.toNat)

def long (bytes : Bytes) (index : ℕ) : Checked UInt32 := do
  let high ← word bytes index
  let low ← word bytes (index + 2)
  return .ofNat (65536 * high.toNat + low.toNat)

def slice (bytes : Bytes) (start stop : ℕ) : Checked Bytes :=
  if start ≤ stop ∧ stop ≤ bytes.length then .ok ((bytes.take stop).drop start)
  else .error .slice

/-- The octets in front of an index and those behind it. -/
def split (bytes : Bytes) (index : ℕ) : Checked (Bytes × Bytes) :=
  if index ≤ bytes.length then .ok (bytes.take index, bytes.drop index) else .error .slice

/-- Copies octets over a part of the same length. -/
def copy (part octets : Bytes) : Checked Bytes :=
  if part.length = octets.length then .ok octets else .error .copy

/-- Overwrites the octets from an offset on. -/
def write (offset : ℕ) (octets buffer : Bytes) : Checked Bytes :=
  if offset + octets.length ≤ buffer.length then .ok (overwrite offset octets buffer)
  else .error .slice

variable {bytes octets buffer : Bytes} {index start stop offset : ℕ}

theorem octet_eq (hindex : index < bytes.length) :
    octet bytes index = .ok (octetAt bytes index) := if_pos hindex

theorem word_eq (hindex : index + 1 < bytes.length) :
    word bytes index = .ok (wordAt bytes index) := by
  rw [word, octet_eq (Nat.lt_of_succ_lt hindex), octet_eq hindex]
  rfl

theorem long_eq (hindex : index + 3 < bytes.length) :
    long bytes index = .ok (longAt bytes index) := by
  rw [long, word_eq (by omega), word_eq (by omega)]
  rfl

theorem slice_eq (horder : start ≤ stop) (hstop : stop ≤ bytes.length) :
    slice bytes start stop = .ok ((bytes.take stop).drop start) := if_pos ⟨horder, hstop⟩

/-- The front part up to an index. -/
theorem slice_zero (hstop : stop ≤ bytes.length) : slice bytes 0 stop = .ok (bytes.take stop) :=
  slice_eq (Nat.zero_le stop) hstop

/-- The front part up to an index or the end, whichever comes first. -/
theorem slice_min (bytes : Bytes) (stop : ℕ) :
    slice bytes 0 (min bytes.length stop) = .ok (bytes.take stop) := by
  rw [slice_zero (Nat.min_le_left _ _), Nat.min_comm, ← List.take_eq_take_min]

/-- The part from an index to the end. -/
theorem slice_length (hstart : start ≤ bytes.length) :
    slice bytes start bytes.length = .ok (bytes.drop start) := by
  rw [slice_eq hstart (Nat.le_refl _), List.take_length]

theorem split_eq (hindex : index ≤ bytes.length) :
    split bytes index = .ok (bytes.take index, bytes.drop index) := if_pos hindex

theorem copy_eq {part : Bytes} (hlength : part.length = octets.length) :
    copy part octets = .ok octets := if_pos hlength

theorem write_eq (hfit : offset + octets.length ≤ buffer.length) :
    write offset octets buffer = .ok (overwrite offset octets buffer) := if_pos hfit

/-! ### Numbers -/

def add (first second : ℕ) : Checked ℕ :=
  if first + second < sizeLimit then .ok (first + second) else .error .overflow

def multiply (first second : ℕ) : Checked ℕ :=
  if first * second < sizeLimit then .ok (first * second) else .error .overflow

/-- Adds an amount to the accumulator of a checksum. -/
def accumulate (sum amount : ℕ) : Checked ℕ :=
  if sum + amount < accumulatorLimit then .ok (sum + amount) else .error .overflow

/-- A length as a word. -/
def narrow (length : ℕ) : Checked UInt16 :=
  if length < UInt16.size then .ok (.ofNat length) else .error .narrowing

variable {first second sum amount length : ℕ}

theorem add_eq (hroom : first + second < sizeLimit) :
    add first second = .ok (first + second) := if_pos hroom

theorem multiply_eq (hroom : first * second < sizeLimit) :
    multiply first second = .ok (first * second) := if_pos hroom

theorem accumulate_eq (hroom : sum + amount < accumulatorLimit) :
    accumulate sum amount = .ok (sum + amount) := if_pos hroom

theorem narrow_eq (hroom : length < UInt16.size) :
    narrow length = .ok (.ofNat length) := if_pos hroom

end Checked

end PacketRefusal
