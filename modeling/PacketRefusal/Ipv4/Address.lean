import PacketRefusal.Bytes

/-!
# IPv4 addresses

An address is four octets. `Address.read` takes one out of a header, `Address.text` writes it in
dotted decimal notation.
-/

set_option autoImplicit false
set_option relaxedAutoImplicit false

namespace PacketRefusal.Ipv4

/-- An IPv4 address: four octets in network order. -/
structure Address where
  octets : Bytes
  length_octets : octets.length = 4
  deriving DecidableEq

namespace Address

/-- The address that starts at an offset of a byte string. -/
def read (bytes : Bytes) (offset : Nat) : Address :=
  ⟨Bytes.fit 4 (bytes.drop offset), Bytes.length_fit _ _⟩

/-- The octets in decimal, separated by points. -/
def dotted (octets : Bytes) : String :=
  ".".intercalate (octets.map fun octet ↦ toString octet.toNat)

def text (address : Address) : String := dotted address.octets

end Address

end PacketRefusal.Ipv4
