import PacketRefusal.Checksum.OnesComplement
import PacketRefusal.Failure
import PacketRefusal.Ipv4.Header
import PacketRefusal.Ipv6.Header
import PacketRefusal.Transport.Tcp
import PacketRefusal.Transport.Udp
import PacketRefusal.Transport.Icmp

/-!
# Computing the checksums of a packet in place

`refresh` recomputes the checksums of a packet that stands in a buffer: the header checksum of
IPv4, and the checksum of TCP, UDP, ICMP or ICMPv6 behind the IP header. A packet of another
protocol keeps its transport octets. Only the octets up to the announced length are covered.
Extension headers of IPv6 are not skipped: the protocol behind the fixed header decides.

The buffer is the state of the computation, so an error leaves it as it was at that moment.
`run_refreshTransport`, `run_refreshIpv4Header`, `run_refreshIpv4` and `run_refreshIpv6` say what
each computation makes of a buffer.
-/

set_option autoImplicit false
set_option relaxedAutoImplicit false

namespace PacketRefusal.Checksum

open Bytes

/-- A computation on a buffer that may fail. -/
abbrev Update := EStateM BuildError Bytes

/-- Running a choice runs the chosen computation. -/
theorem run_ite {error state value : Type} (condition : Prop) [Decidable condition]
    (first second : EStateM error state value) (start : state) :
    (if condition then first else second).run start =
      if condition then first.run start else second.run start := by
  split <;> rfl

/-- Where a transport protocol keeps its checksum. -/
structure Field where
  /-- The octets that must be there. -/
  minimumLength : Nat
  /-- The index of the checksum among the words of the header. -/
  word : Nat
  /-- Whether the checksum covers the addresses, the protocol number and the length, too. -/
  coversPseudoHeader : Bool
  /-- The error when octets are missing. -/
  short : BuildError

def tcpField : Field := ⟨20, 8, true, .shortTcp⟩

def udpField : Field := ⟨8, 3, true, .shortUdp⟩

/-- The checksum of ICMP, which covers the message alone. -/
def icmpField : Field := ⟨4, 1, false, .shortIcmp⟩

def icmpv6Field : Field := ⟨4, 1, true, .shortIcmpv6⟩

def fieldOverIpv4? (protocol : UInt8) : Option Field :=
  if protocol = Tcp.protocol then some tcpField
  else if protocol = Udp.protocol then some udpField
  else if protocol = Icmp.protocol then some icmpField
  else none

def fieldOverIpv6? (protocol : UInt8) : Option Field :=
  if protocol = Tcp.protocol then some tcpField
  else if protocol = Udp.protocol then some udpField
  else if protocol = Icmp.protocolV6 then some icmpv6Field
  else none

/-- The sum of a pseudo-header: both addresses, the protocol number and the transport length. -/
def pseudoHeaderSum (addresses : Bytes) (protocol : UInt8) (length : Nat) : Nat :=
  wordSum addresses + protocol.toNat + length

/-- The checksum of the transport octets of a packet. -/
def transportChecksum (field : Field) (addresses : Bytes) (protocol : UInt8)
    (transport : Bytes) : UInt16 :=
  checksum
    (if field.coversPseudoHeader then pseudoHeaderSum addresses protocol transport.length else 0)
    field.word transport

/-- Stores the transport checksum of a packet whose transport octets stand between `start` and
`stop`. -/
def refreshTransport (field? : Option Field) (addresses : Bytes) (protocol : UInt8)
    (start stop : Nat) : Update Unit := do
  let packet ← get
  let transport := (packet.take stop).drop start
  match field? with
  | none => pure ()
  | some field =>
    if transport.length < field.minimumLength then throw field.short
    else
      set (overwrite (start + 2 * field.word)
        (ofWord (transportChecksum field addresses protocol transport)) packet)

theorem run_refreshTransport (field? : Option Field) (addresses : Bytes) (protocol : UInt8)
    (start stop : Nat) (packet : Bytes) :
    (refreshTransport field? addresses protocol start stop).run packet =
      match field? with
      | none => .ok () packet
      | some field =>
        if ((packet.take stop).drop start).length < field.minimumLength then
          .error field.short packet
        else
          .ok () (overwrite (start + 2 * field.word)
            (ofWord (transportChecksum field addresses protocol ((packet.take stop).drop start)))
            packet) := by
  unfold refreshTransport
  cases field? with
  | none => rfl
  | some field =>
    simp only [EStateM.run_bind, EStateM.run_get, run_ite, EStateM.run_set, EStateM.run_throw]

def refreshIpv4Header (headerLength : Nat) : Update Unit := do
  let packet ← get
  let header := packet.take headerLength
  if header.length < Ipv4.minimumHeaderLength then throw .shortIpv4
  else set (overwrite 10 (ofWord (checksum 0 5 header)) packet)

theorem run_refreshIpv4Header (headerLength : Nat) (packet : Bytes) :
    (refreshIpv4Header headerLength).run packet =
      if (packet.take headerLength).length < Ipv4.minimumHeaderLength then
        .error .shortIpv4 packet
      else .ok () (overwrite 10 (ofWord (checksum 0 5 (packet.take headerLength))) packet) := by
  unfold refreshIpv4Header
  simp only [EStateM.run_bind, EStateM.run_get, run_ite, EStateM.run_set, EStateM.run_throw]

/-- Recomputes the checksums of an IPv4 packet. -/
def refreshIpv4 : Update Unit := do
  let packet ← get
  let headerLength := 4 * lowNibble (octetAt packet 0)
  let totalLength := (wordAt packet 2).toNat
  let protocol := octetAt packet 9
  if packet.length < Ipv4.minimumHeaderLength then throw .shortIpv4
  else if headerLength < Ipv4.minimumHeaderLength ∨ totalLength < headerLength ∨
      packet.length < totalLength then throw .ipv4Lengths
  else
    refreshTransport (fieldOverIpv4? protocol) ((packet.drop 12).take 8) protocol
      headerLength totalLength
    refreshIpv4Header headerLength

theorem run_refreshIpv4 (packet : Bytes) :
    refreshIpv4.run packet =
      if packet.length < Ipv4.minimumHeaderLength then .error .shortIpv4 packet
      else if 4 * lowNibble (octetAt packet 0) < Ipv4.minimumHeaderLength ∨
          (wordAt packet 2).toNat < 4 * lowNibble (octetAt packet 0) ∨
          packet.length < (wordAt packet 2).toNat then .error .ipv4Lengths packet
      else
        match (refreshTransport (fieldOverIpv4? (octetAt packet 9)) ((packet.drop 12).take 8)
          (octetAt packet 9) (4 * lowNibble (octetAt packet 0)) (wordAt packet 2).toNat).run
            packet with
        | .ok _ refreshed =>
          (refreshIpv4Header (4 * lowNibble (octetAt packet 0))).run refreshed
        | .error error refreshed => .error error refreshed := by
  unfold refreshIpv4
  simp only [EStateM.run_bind, EStateM.run_get, run_ite, EStateM.run_throw]
  split
  · rfl
  · split
    · rfl
    · generalize (refreshTransport _ _ _ _ _).run packet = outcome
      cases outcome <;> rfl

/-- Recomputes the checksum behind an IPv6 header. -/
def refreshIpv6 : Update Unit := do
  let packet ← get
  let announcedLength := Ipv6.headerLength + (wordAt packet 4).toNat
  let protocol := octetAt packet 6
  if packet.length < Ipv6.headerLength then throw .shortIpv6
  else if packet.length < announcedLength then throw .ipv6Lengths
  else
    refreshTransport (fieldOverIpv6? protocol) ((packet.drop 8).take 32) protocol
      Ipv6.headerLength announcedLength

theorem run_refreshIpv6 (packet : Bytes) :
    refreshIpv6.run packet =
      if packet.length < Ipv6.headerLength then .error .shortIpv6 packet
      else if packet.length < Ipv6.headerLength + (wordAt packet 4).toNat then
        .error .ipv6Lengths packet
      else
        (refreshTransport (fieldOverIpv6? (octetAt packet 6)) ((packet.drop 8).take 32)
          (octetAt packet 6) Ipv6.headerLength
          (Ipv6.headerLength + (wordAt packet 4).toNat)).run packet := by
  unfold refreshIpv6
  simp only [EStateM.run_bind, EStateM.run_get, run_ite, EStateM.run_throw]

/-- Recomputes the checksums of the packet in a buffer. -/
def refresh : Update Unit := do
  let packet ← get
  match packet.head?.map highNibble with
  | some 4 => refreshIpv4
  | some 6 => refreshIpv6
  | _ => throw .unknownVersion

end PacketRefusal.Checksum
