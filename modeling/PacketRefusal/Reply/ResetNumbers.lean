import PacketRefusal.Transport.Tcp

/-!
# The numbers of a reset

A reset is believed when its numbers fit the connection. `Tcp.Header.resetNumbers` derives them
from the segment that is refused: the sequence number is what the peer acknowledged, and the
acknowledgment covers everything the segment occupies in the sequence space. Numbers wrap
modulo 2^32.
-/

set_option autoImplicit false
set_option relaxedAutoImplicit false

namespace PacketRefusal.Tcp

/-- The sequence and acknowledgment numbers of a reset. -/
structure ResetNumbers where
  sequence : UInt32
  acknowledgment : UInt32
  deriving DecidableEq

/-- The numbers of the reset that refuses a segment. Without an acknowledgment the sequence number
is zero. A segment that opens a connection occupies one number, any other as many as it has octets
of payload. -/
def Header.resetNumbers (header : Header) (payloadLength : Nat) : ResetNumbers where
  sequence := if header.flags.acknowledgment then header.acknowledgmentNumber else 0
  acknowledgment :=
    if header.flags.synchronize then header.sequenceNumber + 1
    else header.sequenceNumber + .ofNat payloadLength

end PacketRefusal.Tcp
