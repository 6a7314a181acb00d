import PacketRefusal.Proofs.Packet.Parsing

/-!
# Segments as they are sent

The octets that a sender makes of a transport header and of what follows it. `Tcp.Segment`,
`Udp.Datagram` and `Icmp.Message` hold the fields that parsing looks for beside those that it passes
over, and `octets` lays them out in network order. Lengths are not held but computed, so that every
value of these types is well-formed; `Options` carries the proof that its octets fill whole words.

Reading gives the fields back: `Tcp.Segment.read_octets` and its counterparts. `Content` is what a
packet may carry, and `Content.addTransport_octets` says what parsing adds for it.
-/

set_option autoImplicit false
set_option relaxedAutoImplicit false

namespace PacketRefusal

open Bytes

/-- The options of a header. They fill whole words, at most as many as the header length can
announce behind the five words of the fixed part. -/
structure Options where
  words : Fin 11
  octets : Bytes
  length_octets : octets.length = 4 * words

/-! ### TCP -/

namespace Tcp

/-- The octet of the control bits, with the two bits of congestion control in front. -/
def Flags.toOctet (flags : Flags) (congestion : Fin 4) : UInt8 :=
  .ofNat (64 * congestion + 32 * flags.urgent.toNat + 16 * flags.acknowledgment.toNat +
    8 * flags.push.toNat + 4 * flags.reset.toNat + 2 * flags.synchronize.toNat +
    flags.finish.toNat)

theorem Flags.ofOctet_toOctet (flags : Flags) (congestion : Fin 4) :
    ofOctet (flags.toOctet congestion) = flags := by
  rcases flags with ⟨urgent, acknowledgment, push, reset, synchronize, finish⟩
  revert urgent acknowledgment push reset synchronize finish congestion
  decide

/-- A TCP header with all its fields, and a payload. -/
structure Segment where
  header : Header
  reserved : Fin 16
  congestion : Fin 4
  window : UInt16
  checksum : UInt16
  urgentPointer : UInt16
  options : Options
  payload : Bytes

namespace Segment

variable (segment : Segment)

/-- The first octets of a segment, which every TCP header has. -/
def front : Bytes :=
  ofWord segment.header.sourcePort ++ ofWord segment.header.destinationPort ++
    ofLong segment.header.sequenceNumber ++ ofLong segment.header.acknowledgmentNumber ++
    [.ofNat (16 * (5 + segment.options.words) + segment.reserved),
      segment.header.flags.toOctet segment.congestion] ++
    ofWord segment.window ++ ofWord segment.checksum ++ ofWord segment.urgentPointer

def octets : Bytes := segment.front ++ (segment.options.octets ++ segment.payload)

@[simp] theorem length_front : segment.front.length = 20 := rfl

theorem length_octets :
    segment.octets.length = 20 + 4 * segment.options.words + segment.payload.length := by
  simp only [octets, List.length_append, length_front, segment.options.length_octets]
  omega

theorem announcedLength_octets :
    Header.announcedLength segment.octets = 20 + 4 * segment.options.words := by
  have hwords := segment.options.words.isLt
  have hreserved := segment.reserved.isLt
  have hoctet : octetAt segment.octets 12 =
      .ofNat (16 * (5 + segment.options.words) + segment.reserved) := rfl
  rw [Header.announcedLength, hoctet, highNibble,
    UInt8.toNat_ofNat_of_lt' (by simp only [UInt8.size]; omega)]
  omega

theorem starts_octets : Header.Starts segment.octets := by
  rw [Header.Starts, announcedLength_octets, length_octets, minimumHeaderLength]
  omega

theorem read_octets : Header.read segment.octets = segment.header := by
  have hsource : wordAt segment.octets 0 = segment.header.sourcePort :=
    wordAt_of_drop (segment.octets.drop 2) rfl
  have hdestination : wordAt segment.octets 2 = segment.header.destinationPort :=
    wordAt_of_drop (segment.octets.drop 4) rfl
  have hsequence : longAt segment.octets 4 = segment.header.sequenceNumber :=
    longAt_of_drop (segment.octets.drop 8) rfl
  have hacknowledgment : longAt segment.octets 8 = segment.header.acknowledgmentNumber :=
    longAt_of_drop (segment.octets.drop 12) rfl
  have hflags : Flags.ofOctet (octetAt segment.octets 13) = segment.header.flags :=
    Flags.ofOctet_toOctet segment.header.flags segment.congestion
  rw [Header.read, hsource, hdestination, hsequence, hacknowledgment, hflags]

end Segment

end Tcp

/-! ### UDP -/

namespace Udp

/-- A UDP header with all its fields, and a payload. -/
structure Datagram where
  header : Header
  checksum : UInt16
  payload : Bytes

namespace Datagram

variable (datagram : Datagram)

/-- The octets of a datagram, whose length field counts the header and the payload. -/
def octets : Bytes :=
  ofWord datagram.header.sourcePort ++ ofWord datagram.header.destinationPort ++
    ofWord (.ofNat (8 + datagram.payload.length)) ++ ofWord datagram.checksum ++ datagram.payload

theorem length_octets : datagram.octets.length = 8 + datagram.payload.length := by
  simp [octets]
  omega

theorem announcedLength_octets (hfits : datagram.octets.length < 65536) :
    Header.announcedLength datagram.octets = datagram.octets.length := by
  rw [length_octets] at hfits
  rw [Header.announcedLength, wordAt_of_drop (datagram.octets.drop 6) rfl,
    UInt16.toNat_ofNat_of_lt' hfits, length_octets]

theorem starts_octets (hfits : datagram.octets.length < 65536) :
    Header.Starts datagram.octets := by
  rw [Header.Starts, announcedLength_octets datagram hfits, length_octets, headerLength]
  omega

theorem read_octets : Header.read datagram.octets = datagram.header := by
  have hsource : wordAt datagram.octets 0 = datagram.header.sourcePort :=
    wordAt_of_drop (datagram.octets.drop 2) rfl
  have hdestination : wordAt datagram.octets 2 = datagram.header.destinationPort :=
    wordAt_of_drop (datagram.octets.drop 4) rfl
  rw [Header.read, hsource, hdestination]

end Datagram

end Udp

/-! ### ICMP and ICMPv6 -/

namespace Icmp

/-- A header of ICMP or ICMPv6 with all its fields, and what follows it. -/
structure Message where
  header : Header
  checksum : UInt16
  parameter : UInt32
  rest : Bytes

namespace Message

variable (message : Message)

def octets : Bytes :=
  [message.header.kind, message.header.code] ++ ofWord message.checksum ++
    ofLong message.parameter ++ message.rest

theorem length_octets : message.octets.length = 8 + message.rest.length := by
  simp [octets]
  omega

end Message

end Icmp

/-! ### What a packet carries -/

/-- What stands behind the network header and its extensions. -/
inductive Content
  | tcp (segment : Tcp.Segment)
  | udp (datagram : Udp.Datagram)
  | icmp (message : Icmp.Message)
  | other (protocol : UInt8) (octets : Bytes)

namespace Content

/-- The number under which a content is carried, given the one of ICMP in the version at hand. -/
def protocol (icmpProtocol : UInt8) : Content → UInt8
  | tcp _ => Tcp.protocol
  | udp _ => Udp.protocol
  | icmp _ => icmpProtocol
  | other protocol _ => protocol

def octets : Content → Bytes
  | tcp segment => segment.octets
  | udp datagram => datagram.octets
  | icmp message => message.octets
  | other _ octets => octets

/-- The octets of a content that are payload: under a number of no transport protocol all are. -/
def payload : Content → Bytes
  | tcp segment => segment.payload
  | udp datagram => datagram.payload
  | icmp message => message.rest
  | other _ octets => octets

/-- The headers of a packet with the transport header of a content added. -/
def addHeader (headers : Headers) : Content → Headers
  | tcp segment => { headers with tcp := some segment.header }
  | udp datagram => { headers with udp := some datagram.header }
  | icmp message =>
    if headers.ipv4.isSome then { headers with icmp := some message.header }
    else { headers with icmpv6 := some message.header }
  | other _ _ => headers

/-- A content whose number is not taken by a protocol that has a header of its own. -/
def NumberFree (icmpProtocol : UInt8) : Content → Prop
  | other protocol _ =>
    protocol ≠ Tcp.protocol ∧ protocol ≠ Udp.protocol ∧ protocol ≠ icmpProtocol
  | _ => True

/-- A content is found behind the network header of the version in which it is carried, with its own
header and no other one. -/
theorem addTransport_octets {network : Packet} {icmpProtocol : UInt8} (content : Content)
    (hversion : (icmpProtocol = Icmp.protocol ∧ network.ipv4.isSome ∧ network.ipv6 = none) ∨
      (icmpProtocol = Icmp.protocolV6 ∧ network.ipv4 = none ∧ network.ipv6.isSome))
    (hfree : content.NumberFree icmpProtocol) (hfits : content.octets.length < 65536) :
    network.addTransport (content.protocol icmpProtocol) content.octets =
      { network with
        toHeaders := content.addHeader network.toHeaders
        payloadLength := content.payload.length } := by
  cases content with
  | tcp segment =>
    have hpayload : segment.octets.length - Tcp.Header.announcedLength segment.octets =
        segment.payload.length := by
      rw [segment.announcedLength_octets, segment.length_octets]
      omega
    rw [protocol, octets, Packet.addTransport_tcp network segment.starts_octets,
      segment.read_octets, hpayload]
    rfl
  | udp datagram =>
    have hpayload : datagram.octets.length - Udp.headerLength = datagram.payload.length := by
      rw [datagram.length_octets, Udp.headerLength]
      omega
    rw [protocol, octets, Packet.addTransport_udp network (datagram.starts_octets hfits),
      datagram.read_octets, datagram.announcedLength_octets hfits, Nat.min_self, hpayload]
    rfl
  | icmp message =>
    have hlength : Icmp.headerLength ≤ message.octets.length := by
      rw [message.length_octets, Icmp.headerLength]
      omega
    have hrest : message.octets.length - Icmp.headerLength = message.rest.length := by
      rw [message.length_octets, Icmp.headerLength]
      omega
    rcases hversion with ⟨rfl, hipv4, -⟩ | ⟨rfl, hipv4, hipv6⟩
    · rw [protocol, octets, Packet.addTransport_icmp network hipv4 hlength, hrest, addHeader,
        if_pos hipv4]
      rfl
    · rw [protocol, octets, Packet.addTransport_icmpv6 network hipv6 hlength, hrest, addHeader,
        if_neg (by simp [hipv4])]
      rfl
  | other number data =>
    obtain ⟨htcp, hudp, hicmp⟩ := hfree
    rw [protocol, octets, Packet.addTransport_unknown network htcp hudp]
    · rfl
    · rintro ⟨rfl, hipv4⟩
      rcases hversion with ⟨rfl, -⟩ | ⟨rfl, hnone, -⟩
      · exact hicmp rfl
      · simp [hnone] at hipv4
    · rintro ⟨rfl, hipv6⟩
      rcases hversion with ⟨rfl, -, hnone⟩ | ⟨rfl, -⟩
      · simp [hnone] at hipv6
      · exact hicmp rfl

end Content

end PacketRefusal
