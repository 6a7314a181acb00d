import PacketRefusal.Diversion
import PacketRefusal.Reply.Kind

/-!
# Templates of the replies

One template per kind of reply is written when the program starts and reused for every packet that
is refused: its fixed fields stay, and only the fields that follow from the refused packet are
overwritten (`PacketRefusal.Reply.Patch`). `Template` is a buffer with the address of the packet in
it and the length of that packet, `Template.initial` its content before the first use, and
`Templates` the four of them.
-/

set_option autoImplicit false
set_option relaxedAutoImplicit false

namespace PacketRefusal

open Bytes

/-! ### Sizes -/

def resetLength : Nat := Ipv4.minimumHeaderLength + Tcp.minimumHeaderLength

/-- The most that an unreachable message over IPv4 quotes: a header with all options and eight
octets. -/
def quoteCapacity : Nat := 15 * 4 + 8

def quoteOffset : Nat := Ipv4.minimumHeaderLength + Icmp.headerLength

/-- The room for an unreachable message over IPv4. -/
def unreachableCapacity : Nat := quoteOffset + quoteCapacity

def resetLengthV6 : Nat := Ipv6.headerLength + Tcp.minimumHeaderLength

/-- What an unreachable message over IPv6 quotes: a fixed header and as much as a TCP header. -/
def quoteLengthV6 : Nat := Ipv6.headerLength + Tcp.minimumHeaderLength

def quoteOffsetV6 : Nat := Ipv6.headerLength + Icmp.headerLength

def unreachableLengthV6 : Nat := quoteOffsetV6 + quoteLengthV6

/-! ### Fixed fields -/

/-- Octets that are still to be written. -/
def blank (length : Nat) : Bytes := List.replicate length 0

/-- An IPv4 header without options, checksum and addresses. Replies share one identification and
the lifetime 64. -/
def ipv4Prelude (protocol : UInt8) (totalLength : Nat) : Bytes :=
  [0x45, 0] ++ ofWord (.ofNat totalLength) ++ [0xDE, 0xAD, 0, 0, 64, protocol] ++ blank 10

/-- An IPv6 header without addresses. -/
def ipv6Prelude (nextHeader : UInt8) (payloadLength : Nat) : Bytes :=
  [0x60, 0, 0, 0] ++ ofWord (.ofNat payloadLength) ++ [nextHeader, 64] ++ blank 32

/-- A TCP header of five words with the control bits of a reset that acknowledges. -/
def resetPrelude : Bytes := blank 12 ++ [0x50, 0x14] ++ blank 6

/-- A header of ICMP or ICMPv6 without checksum. -/
def icmpPrelude (kind code : UInt8) : Bytes := [kind, code] ++ blank 6

/-! ### Templates -/

/-- A reply that is kept for reuse: where it goes, the buffer it is built in, and how much of the
buffer it takes. -/
structure Template where
  address : Diversion.Address
  buffer : Bytes
  length : Nat
  deriving DecidableEq

namespace Template

def packet (template : Template) : Bytes := template.buffer.take template.length

/-- The buffer of a kind of reply before its first use. An unreachable message has type 3 and
code 3 over IPv4, type 1 and code 4 over IPv6: the port cannot be reached. -/
def initialBuffer : Reply → Bytes
  | .tcpReset => ipv4Prelude Tcp.protocol resetLength ++ resetPrelude
  | .tcpResetV6 => ipv6Prelude Tcp.protocol Tcp.minimumHeaderLength ++ resetPrelude
  | .icmpUnreachable => ipv4Prelude Icmp.protocol 0 ++ icmpPrelude 3 3 ++ blank quoteCapacity
  | .icmpv6Unreachable =>
    ipv6Prelude Icmp.protocolV6 (Icmp.headerLength + quoteLengthV6) ++ icmpPrelude 1 4 ++
      blank quoteLengthV6

/-- The length of a kind of reply before its first use. An unreachable message over IPv4 quotes
nothing yet. -/
def initialLength : Reply → Nat
  | .tcpReset => resetLength
  | .tcpResetV6 => resetLengthV6
  | .icmpUnreachable => quoteOffset
  | .icmpv6Unreachable => unreachableLengthV6

/-- A kind of reply before its first use. -/
def initial (reply : Reply) : Template := ⟨.initial, initialBuffer reply, initialLength reply⟩

end Template

structure Templates where
  tcpReset : Template
  tcpResetV6 : Template
  icmpUnreachable : Template
  icmpv6Unreachable : Template
  deriving DecidableEq

namespace Templates

/-- The templates before their first use. -/
def initial : Templates where
  tcpReset := .initial .tcpReset
  tcpResetV6 := .initial .tcpResetV6
  icmpUnreachable := .initial .icmpUnreachable
  icmpv6Unreachable := .initial .icmpv6Unreachable

def get (templates : Templates) : Reply → Template
  | .tcpReset => templates.tcpReset
  | .tcpResetV6 => templates.tcpResetV6
  | .icmpUnreachable => templates.icmpUnreachable
  | .icmpv6Unreachable => templates.icmpv6Unreachable

def set (templates : Templates) : Reply → Template → Templates
  | .tcpReset, template => { templates with tcpReset := template }
  | .tcpResetV6, template => { templates with tcpResetV6 := template }
  | .icmpUnreachable, template => { templates with icmpUnreachable := template }
  | .icmpv6Unreachable, template => { templates with icmpv6Unreachable := template }

theorem get_initial (reply : Reply) : initial.get reply = .initial reply := by
  cases reply <;> rfl

theorem get_set (templates : Templates) (changed reply : Reply) (template : Template) :
    (templates.set changed template).get reply =
      if reply = changed then template else templates.get reply := by
  cases changed <;> cases reply <;> rfl

end Templates

end PacketRefusal
