import PacketRefusal.Ipv4.Address

/-!
# IPv4 headers

`Header` records the fields of an IPv4 header on which the program acts, and `Header.parse?`
reads them from the front of a packet. What follows the header is handed on up to the end that
the total-length field announces, so that padding added below IP never counts as payload.
-/

set_option autoImplicit false
set_option relaxedAutoImplicit false

namespace PacketRefusal.Ipv4

open Bytes

def minimumHeaderLength : Nat := 20

/-- The fields of an IPv4 header that matter here. The fragment offset counts units of eight
octets and has thirteen bits. -/
structure Header where
  headerWords : UInt8
  totalLength : UInt16
  fragmentOffset : UInt16
  protocol : UInt8
  source : Address
  destination : Address
  deriving DecidableEq

namespace Header

/-- The length of the header in octets, options included. -/
def length (header : Header) : Nat := 4 * header.headerWords.toNat

/-- A fragment other than the first starts with data of the application and has no transport
header. -/
def isLaterFragment (header : Header) : Bool := header.fragmentOffset != 0

/-- The fields of a header that starts a packet, read without any check. -/
def read (packet : Bytes) : Header where
  headerWords := .ofNat (lowNibble (octetAt packet 0))
  totalLength := wordAt packet 2
  fragmentOffset := .ofNat ((wordAt packet 6).toNat % 8192)
  protocol := octetAt packet 9
  source := .read packet 12
  destination := .read packet 16

/-- A packet starts with an IPv4 header when the version is four, the header is at least five
words long, all of it was captured, and the announced total length covers it. -/
def Starts (packet : Bytes) : Prop :=
  minimumHeaderLength ≤ packet.length ∧
    highNibble (octetAt packet 0) = 4 ∧
    5 ≤ lowNibble (octetAt packet 0) ∧
    4 * lowNibble (octetAt packet 0) ≤ packet.length ∧
    4 * lowNibble (octetAt packet 0) ≤ (wordAt packet 2).toNat

instance (packet : Bytes) : Decidable (Starts packet) := by unfold Starts; infer_instance

/-- The header at the front of a packet, and the captured octets between its end and the end that
the total-length field announces. -/
def parse? (packet : Bytes) : Option (Header × Bytes) :=
  if Starts packet then
    let header := read packet
    some (header, (packet.take header.totalLength.toNat).drop header.length)
  else none

end Header

end PacketRefusal.Ipv4
