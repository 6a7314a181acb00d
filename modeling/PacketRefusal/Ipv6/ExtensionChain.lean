import PacketRefusal.Bytes

/-!
# Chains of IPv6 extension headers

Between the fixed header and the upper layer stands a chain of extension headers, each of which
begins with the number of what follows it. Hop-by-hop options, routing headers and destination
options carry their own length in units of eight octets, the first unit not counted; a fragment
header has always eight octets.

`upperLayer` walks the chain. A fragment other than the first has no upper-layer header, so the
walk stops at its fragment header and hands on the fragment's data under the fragment header's own
number. A chain that was cut off has no upper layer at all. The walk ends because every step
consumes at least eight octets.
-/

set_option autoImplicit false
set_option relaxedAutoImplicit false

namespace PacketRefusal.Ipv6

open Bytes

def hopByHop : UInt8 := 0

def routing : UInt8 := 43

def fragment : UInt8 := 44

def destinationOptions : UInt8 := 60

def fragmentLength : Nat := 8

/-- The headers that carry their own length. -/
def CarriesLength (kind : UInt8) : Prop :=
  kind = hopByHop ∨ kind = routing ∨ kind = destinationOptions

instance (kind : UInt8) : Decidable (CarriesLength kind) := by unfold CarriesLength; infer_instance

/-- The length of a header that carries its own length, read from the second octet. -/
def carriedLength (header : Bytes) : Nat := 8 * ((octetAt header 1).toNat + 1)

/-- The offset of a fragment header's data in the packet that was fragmented, in units of eight
octets. -/
def fragmentOffset (header : Bytes) : Nat := (wordAt header 2).toNat / 8

/-- The protocol number and the octets of the upper layer behind a chain of extension headers whose
first header has the number `kind`, or nothing if the chain was cut off. -/
def upperLayer (kind : UInt8) (rest : Bytes) : Option (UInt8 × Bytes) :=
  if CarriesLength kind then
    if _captured : 2 ≤ rest.length ∧ carriedLength rest ≤ rest.length then
      upperLayer (octetAt rest 0) (rest.drop (carriedLength rest))
    else none
  else if kind = fragment then
    if _captured : fragmentLength ≤ rest.length then
      if fragmentOffset rest = 0 then upperLayer (octetAt rest 0) (rest.drop fragmentLength)
      else some (fragment, rest.drop fragmentLength)
    else none
  else some (kind, rest)
termination_by rest.length
decreasing_by
  · simp only [List.length_drop, carriedLength]
    omega
  · simp only [List.length_drop, fragmentLength] at _captured ⊢
    omega

end PacketRefusal.Ipv6
