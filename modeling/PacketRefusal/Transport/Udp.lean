import PacketRefusal.Bytes

/-!
# UDP headers

`Udp.Header.parse?` reads the ports from the front of a datagram. The payload ends where the
length field says, or where the capture ends.
-/

set_option autoImplicit false
set_option relaxedAutoImplicit false

namespace PacketRefusal.Udp

open Bytes

def protocol : UInt8 := 17

def headerLength : Nat := 8

/-- The fields of a UDP header that matter here. -/
structure Header where
  sourcePort : UInt16
  destinationPort : UInt16
  deriving DecidableEq

namespace Header

/-- The length that a datagram announces for itself, its header included. -/
def announcedLength (datagram : Bytes) : Nat := (wordAt datagram 4).toNat

/-- The fields of a header that starts a datagram, read without any check. -/
def read (datagram : Bytes) : Header where
  sourcePort := wordAt datagram 0
  destinationPort := wordAt datagram 2

/-- A datagram starts with a UDP header when the header was captured and the announced length
covers it. -/
def Starts (datagram : Bytes) : Prop :=
  headerLength ≤ datagram.length ∧ headerLength ≤ announcedLength datagram

instance (datagram : Bytes) : Decidable (Starts datagram) := by unfold Starts; infer_instance

/-- The header at the front of a datagram, and the payload behind it. -/
def parse? (datagram : Bytes) : Option (Header × Bytes) :=
  if Starts datagram then
    some (read datagram, (datagram.take (announcedLength datagram)).drop headerLength)
  else none

end Header

end PacketRefusal.Udp
