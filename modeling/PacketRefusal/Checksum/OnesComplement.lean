import PacketRefusal.Bytes

/-!
# One's-complement sums

The checksums of the internet protocols add the big-endian words of a byte string, fold the carries
back in until the sum fits sixteen bits, and store the complement. A last odd octet counts as the
high half of a word. `wordSum` is the plain sum, `wordSumSkipping` the sum without one word, which
is how a checksum leaves out the place where it will be stored, `foldCarries` the end-around carry
and `checksum` the complement.

Sums are natural numbers, so no carry is ever lost before it is folded.
-/

set_option autoImplicit false
set_option relaxedAutoImplicit false

namespace PacketRefusal.Checksum

/-- The sum of the big-endian words of a byte string, a last odd octet counting as high half. -/
def wordSum : Bytes → Nat
  | [] => 0
  | [high] => 256 * high.toNat
  | high :: low :: rest => 256 * high.toNat + low.toNat + wordSum rest

/-- The sum of the words of a byte string without the word that has the index `skipped`. -/
def wordSumSkipping : Nat → Bytes → Nat
  | _, [] => 0
  | 0, [_] => 0
  | _ + 1, [high] => 256 * high.toNat
  | 0, _ :: _ :: rest => wordSum rest
  | skipped + 1, high :: low :: rest =>
    256 * high.toNat + low.toNat + wordSumSkipping skipped rest

/-- Adds what exceeds sixteen bits to the low sixteen bits until nothing does. -/
def foldCarries (sum : Nat) : Nat :=
  if sum < 65536 then sum else foldCarries (sum / 65536 + sum % 65536)
termination_by sum
decreasing_by omega

/-- The checksum over a byte string and an amount added to it, leaving out one word. -/
def checksum (added skipped : Nat) (bytes : Bytes) : UInt16 :=
  .ofNat (65535 - foldCarries (added + wordSumSkipping skipped bytes))

end PacketRefusal.Checksum
