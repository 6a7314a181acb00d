import PacketRefusal.Ipv6.Address

/-!
# IPv6 fixed headers

`Header` records the fields of the forty-octet header that starts every IPv6 packet, and
`Header.parse?` reads it together with the captured octets up to the end that the payload-length
field announces. Extension headers are left to `PacketRefusal.Ipv6.ExtensionChain`.
-/

set_option autoImplicit false
set_option relaxedAutoImplicit false

namespace PacketRefusal.Ipv6

open Bytes

def headerLength : Nat := 40

/-- The fields of an IPv6 header that matter here. -/
structure Header where
  payloadLength : UInt16
  nextHeader : UInt8
  source : Address
  destination : Address
  deriving DecidableEq

namespace Header

/-- The length of the whole packet that the header announces. -/
def announcedLength (header : Header) : Nat := headerLength + header.payloadLength.toNat

/-- The fields of a header that starts a packet, read without any check. -/
def read (packet : Bytes) : Header where
  payloadLength := wordAt packet 4
  nextHeader := octetAt packet 6
  source := .read packet 8
  destination := .read packet 24

/-- A packet starts with an IPv6 header when all forty octets were captured and the version is
six. -/
def Starts (packet : Bytes) : Prop :=
  headerLength ≤ packet.length ∧ highNibble (octetAt packet 0) = 6

instance (packet : Bytes) : Decidable (Starts packet) := by unfold Starts; infer_instance

/-- The header at the front of a packet, and the captured octets behind it up to the announced
length. -/
def parse? (packet : Bytes) : Option (Header × Bytes) :=
  if Starts packet then
    let header := read packet
    some (header, (packet.take header.announcedLength).drop headerLength)
  else none

end Header

end PacketRefusal.Ipv6
