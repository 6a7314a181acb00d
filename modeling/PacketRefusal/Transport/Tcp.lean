import PacketRefusal.Bytes

/-!
# TCP headers

`Tcp.Header` records the fields of a TCP header that are reported or answered, and
`Tcp.Header.parse?` reads them from the front of a segment. The payload is what follows the header
and its options.
-/

set_option autoImplicit false
set_option relaxedAutoImplicit false

namespace PacketRefusal.Tcp

open Bytes

def protocol : UInt8 := 6

def minimumHeaderLength : Nat := 20

/-- The six control bits. -/
structure Flags where
  urgent : Bool
  acknowledgment : Bool
  push : Bool
  reset : Bool
  synchronize : Bool
  finish : Bool
  deriving DecidableEq

/-- The control bits of the octet that holds them. -/
def Flags.ofOctet (octet : UInt8) : Flags where
  urgent := octet.toNat.testBit 5
  acknowledgment := octet.toNat.testBit 4
  push := octet.toNat.testBit 3
  reset := octet.toNat.testBit 2
  synchronize := octet.toNat.testBit 1
  finish := octet.toNat.testBit 0

/-- The fields of a TCP header that matter here. -/
structure Header where
  sourcePort : UInt16
  destinationPort : UInt16
  sequenceNumber : UInt32
  acknowledgmentNumber : UInt32
  flags : Flags
  deriving DecidableEq

namespace Header

/-- The length that the data-offset field of a segment announces for the header. -/
def announcedLength (segment : Bytes) : Nat := 4 * highNibble (octetAt segment 12)

/-- The fields of a header that starts a segment, read without any check. -/
def read (segment : Bytes) : Header where
  sourcePort := wordAt segment 0
  destinationPort := wordAt segment 2
  sequenceNumber := longAt segment 4
  acknowledgmentNumber := longAt segment 8
  flags := .ofOctet (octetAt segment 13)

/-- A segment starts with a TCP header when the data offset is at least five words and the header
was captured up to its end. -/
def Starts (segment : Bytes) : Prop :=
  minimumHeaderLength ≤ segment.length ∧
    minimumHeaderLength ≤ announcedLength segment ∧ announcedLength segment ≤ segment.length

instance (segment : Bytes) : Decidable (Starts segment) := by unfold Starts; infer_instance

/-- The header at the front of a segment, and the payload behind it. -/
def parse? (segment : Bytes) : Option (Header × Bytes) :=
  if Starts segment then some (read segment, segment.drop (announcedLength segment)) else none

end Header

end PacketRefusal.Tcp
