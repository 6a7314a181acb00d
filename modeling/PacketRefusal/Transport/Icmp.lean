import PacketRefusal.Bytes

/-!
# ICMP and ICMPv6 headers

Messages of both protocols start with a type, a code, a checksum and four octets whose meaning
depends on the type, so one header serves both.
-/

set_option autoImplicit false
set_option relaxedAutoImplicit false

namespace PacketRefusal.Icmp

open Bytes

/-- The protocol number of ICMP, which belongs to IPv4. -/
def protocol : UInt8 := 1

/-- The protocol number of ICMPv6, which belongs to IPv6. -/
def protocolV6 : UInt8 := 58

def headerLength : Nat := 8

/-- The fields of an ICMP or ICMPv6 header that matter here. -/
structure Header where
  kind : UInt8
  code : UInt8
  deriving DecidableEq

namespace Header

/-- The header at the front of a message, and the octets behind it. -/
def parse? (message : Bytes) : Option (Header × Bytes) :=
  if headerLength ≤ message.length then
    some (⟨octetAt message 0, octetAt message 1⟩, message.drop headerLength)
  else none

end Header

end PacketRefusal.Icmp
