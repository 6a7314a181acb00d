import PacketRefusal.Ipv4.Address

/-!
# IPv6 addresses

An address is sixteen octets, read as eight groups. `Address.text` writes the recommended form:
groups in lower-case hexadecimal without leading zeros, the longest run of at least two zero
groups, the first of them on a tie, written as a double colon, and addresses that embed an IPv4
address behind `::ffff:` ending in dotted decimal notation. `longestZeroRun` finds the run.
-/

set_option autoImplicit false
set_option relaxedAutoImplicit false

namespace PacketRefusal.Ipv6

/-- An IPv6 address: sixteen octets in network order. -/
structure Address where
  octets : Bytes
  length_octets : octets.length = 16
  deriving DecidableEq

/-- A stretch of consecutive groups of an address. -/
structure Run where
  start : Nat
  length : Nat
  deriving DecidableEq

def leadingZeros (groups : List Nat) : Nat := (groups.takeWhile (· == 0)).length

/-- The longest run of zero groups, and of several of that length the first. -/
def longestZeroRun (groups : List Nat) : Run :=
  (List.range groups.length).foldl
    (fun best start ↦
      let length := leadingZeros (groups.drop start)
      if best.length < length then ⟨start, length⟩ else best)
    ⟨0, 0⟩

namespace Address

/-- The address that starts at an offset of a byte string. -/
def read (bytes : Bytes) (offset : Nat) : Address :=
  ⟨Bytes.fit 16 (bytes.drop offset), Bytes.length_fit _ _⟩

def groups (address : Address) : List Nat :=
  (List.range 8).map fun index ↦ (Bytes.wordAt address.octets (2 * index)).toNat

/-- An address embeds an IPv4 address when its first ten octets are zero and the next two have
all bits set. -/
def embedsIpv4 (address : Address) : Bool :=
  address.octets.take 12 == List.replicate 10 0 ++ [0xff, 0xff]

/-- Groups in hexadecimal, separated by colons. -/
def colonSeparated (groups : List Nat) : String :=
  ":".intercalate (groups.map fun group ↦ String.ofList (Nat.toDigits 16 group))

/-- The address in its recommended text form. -/
def text (address : Address) : String :=
  if address.embedsIpv4 then "::ffff:" ++ Ipv4.Address.dotted (address.octets.drop 12)
  else
    let groups := address.groups
    let run := longestZeroRun groups
    if 2 ≤ run.length then
      colonSeparated (groups.take run.start) ++ "::" ++
        colonSeparated (groups.drop (run.start + run.length))
    else colonSeparated groups

end Address

end PacketRefusal.Ipv6
