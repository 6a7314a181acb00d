import PacketRefusal.Bytes
import PacketRefusal.Failure

/-!
# Diverted packets and their addresses

A diversion driver takes packets out of the network stack and hands them over with an address: the
interface they were seen on and the direction in which they travelled. The same kind of address
says where a packet is to be put back. `Arrival` is what one attempt to take a packet yields; since
the driver is told how large the receiving buffer is, an `Attempt` may depend on that.
-/

set_option autoImplicit false
set_option relaxedAutoImplicit false

namespace PacketRefusal.Diversion

/-- The direction in which a packet passes the host's network stack. -/
inductive Direction
  | outbound
  | inbound
  deriving DecidableEq

def Direction.reversed : Direction → Direction
  | outbound => inbound
  | inbound => outbound

@[simp] theorem Direction.reversed_reversed (direction : Direction) :
    direction.reversed.reversed = direction := by
  cases direction <;> rfl

/-- The direction of an address that names no packet yet. -/
def Direction.initial : Direction := outbound

/-- Where a packet was taken from the stack, or where it goes back. -/
structure Address where
  interface : UInt32
  subInterface : UInt32
  direction : Direction
  deriving DecidableEq

namespace Address

/-- The address that names no packet yet. -/
def initial : Address := ⟨0, 0, .initial⟩

/-- The same interface in the opposite direction. -/
def reversed (address : Address) : Address :=
  { address with direction := address.direction.reversed }

@[simp] theorem reversed_reversed (address : Address) : address.reversed.reversed = address := by
  rw [reversed, reversed, Direction.reversed_reversed]

def outbound (address : Address) : Address := { address with direction := .outbound }

end Address

/-- A packet as the driver hands it over. -/
structure Capture where
  data : Bytes
  address : Address
  deriving DecidableEq

/-- The outcome of one attempt to take a packet. -/
inductive Arrival
  | packet (capture : Capture)
  | failure (error : HandlingError)
  deriving DecidableEq

/-- One attempt to take a packet, as a function of the size of the receiving buffer. -/
abbrev Attempt := Nat → Arrival

end PacketRefusal.Diversion
