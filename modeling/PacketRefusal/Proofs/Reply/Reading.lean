import PacketRefusal.Proofs.Ipv6.Chain
import PacketRefusal.Proofs.Packet.Sealed
import PacketRefusal.Proofs.Reply.Forged

/-!
# Reading forged replies

What a forged reply says when it is parsed in its turn. `Ipv4.Header.answer`, `Ipv6.Header.answer`
and `Tcp.Header.reset` are the headers it was meant to have, and reading gives them back. Parsing
finds the network header first (`Patch.OverIpv4.exists_parse`, `Patch.OverIpv6.exists_parse`), and
then a segment (`addTransport_reset`) or a message (`octetAt_unreachableMessage`).
`Patch.parse_forged_tcpReset` and its counterparts for the other kinds of patch determine all that
is found in a reply.
-/

set_option autoImplicit false
set_option relaxedAutoImplicit false

namespace PacketRefusal

open Bytes Checksum

/-! ### Headers of replies -/

/-- The header of a reply to a packet over IPv4. -/
def Ipv4.Header.answer (ip : Ipv4.Header) (protocol : UInt8) (totalLength : ℕ) : Ipv4.Header where
  headerWords := 5
  totalLength := .ofNat totalLength
  fragmentOffset := 0
  protocol := protocol
  source := ip.destination
  destination := ip.source

/-- The header of a reply to a packet over IPv6. -/
def Ipv6.Header.answer (ip : Ipv6.Header) (nextHeader : UInt8) (payloadLength : ℕ) :
    Ipv6.Header where
  payloadLength := .ofNat payloadLength
  nextHeader := nextHeader
  source := ip.destination
  destination := ip.source

def resetFlags : Tcp.Flags where
  urgent := false
  acknowledgment := true
  push := false
  reset := true
  synchronize := false
  finish := false

def Tcp.Header.reset (tcp : Tcp.Header) (payloadLength : ℕ) : Tcp.Header where
  sourcePort := tcp.destinationPort
  destinationPort := tcp.sourcePort
  sequenceNumber := (tcp.resetNumbers payloadLength).sequence
  acknowledgmentNumber := (tcp.resetNumbers payloadLength).acknowledgment
  flags := resetFlags

section Fronts

variable (protocol : UInt8) (length : ℕ) (message : Bytes)

theorem read_ipv4Front (ip : Ipv4.Header) :
    Ipv4.Header.read (ipv4Front protocol length ip ++ message) = ip.answer protocol length := by
  have htotal : wordAt (ipv4Front protocol length ip ++ message) 2 = .ofNat length := by
    rw [wordAt_append_left (by simp), wordAt_ipv4Front]
  have hdrop : (ipv4Front protocol length ip ++ message).drop 12 =
      ip.destination.octets ++ (ip.source.octets ++ message) := by
    rw [ipv4Front, List.append_assoc, List.drop_left' (length_ipv4Start protocol length),
      Ipv4.Header.exchanged, List.append_assoc]
  have hsource : Ipv4.Address.read (ipv4Front protocol length ip ++ message) 12 = ip.destination :=
    Ipv4.Address.read_eq_of_drop hdrop
  have hbehind : (ipv4Front protocol length ip ++ message).drop 16 =
      ip.source.octets ++ message :=
    drop_add_of_drop hdrop ip.destination.length_octets
  have hdestination : Ipv4.Address.read (ipv4Front protocol length ip ++ message) 16 =
      ip.source :=
    Ipv4.Address.read_eq_of_drop hbehind
  have hfirst : octetAt (ipv4Front protocol length ip ++ message) 0 = 0x45 := rfl
  have hfragment : wordAt (ipv4Front protocol length ip ++ message) 6 = 0 := rfl
  have hprotocol : octetAt (ipv4Front protocol length ip ++ message) 9 = protocol := rfl
  have hwords : UInt8.ofNat (lowNibble 0x45) = 5 := by decide
  rw [Ipv4.Header.read, hfirst, hwords, htotal, hfragment, hprotocol, hsource, hdestination]
  rfl

theorem read_ipv6Front (ip : Ipv6.Header) :
    Ipv6.Header.read (ipv6Front protocol length ip ++ message) = ip.answer protocol length := by
  have hpayload : wordAt (ipv6Front protocol length ip ++ message) 4 = .ofNat length := by
    rw [wordAt_append_left (by simp), wordAt_ipv6Front]
  have hdrop : (ipv6Front protocol length ip ++ message).drop 8 =
      ip.destination.octets ++ (ip.source.octets ++ message) := by
    rw [ipv6Front, List.append_assoc, List.drop_left' (length_ipv6Start protocol length),
      Ipv6.Header.exchanged, List.append_assoc]
  have hsource : Ipv6.Address.read (ipv6Front protocol length ip ++ message) 8 = ip.destination :=
    Ipv6.Address.read_eq_of_drop hdrop
  have hbehind : (ipv6Front protocol length ip ++ message).drop 24 =
      ip.source.octets ++ message :=
    drop_add_of_drop hdrop ip.destination.length_octets
  have hdestination : Ipv6.Address.read (ipv6Front protocol length ip ++ message) 24 =
      ip.source :=
    Ipv6.Address.read_eq_of_drop hbehind
  rw [Ipv6.Header.read, hpayload, hsource, hdestination]
  rfl

end Fronts

/-! ### Resets -/

theorem read_resetSegment (tcp : Tcp.Header) (payloadLength : ℕ) :
    Tcp.Header.read (resetSegment tcp payloadLength) = tcp.reset payloadLength := by
  have hsource : wordAt (resetSegment tcp payloadLength) 0 = tcp.destinationPort :=
    wordAt_of_drop ((resetSegment tcp payloadLength).drop 2) rfl
  have hdestination : wordAt (resetSegment tcp payloadLength) 2 = tcp.sourcePort :=
    wordAt_of_drop ((resetSegment tcp payloadLength).drop 4) rfl
  have hsequence : longAt (resetSegment tcp payloadLength) 4 =
      (tcp.resetNumbers payloadLength).sequence :=
    longAt_of_drop ((resetSegment tcp payloadLength).drop 8) rfl
  have hacknowledgment : longAt (resetSegment tcp payloadLength) 8 =
      (tcp.resetNumbers payloadLength).acknowledgment :=
    longAt_of_drop ((resetSegment tcp payloadLength).drop 12) rfl
  have hflags : Tcp.Flags.ofOctet (octetAt (resetSegment tcp payloadLength) 13) = resetFlags := by
    rw [show octetAt (resetSegment tcp payloadLength) 13 = 0x14 from rfl]
    decide
  rw [Tcp.Header.read, hsource, hdestination, hsequence, hacknowledgment, hflags]
  rfl

/-- A reset behind any network header is parsed as such, whatever its checksum is. -/
theorem addTransport_reset {tcp : Tcp.Header} {payloadLength : ℕ} {segment : Bytes}
    (hagree : AgreeExcept (transportPositions (some tcpField) 0) segment
      (resetSegment tcp payloadLength)) (network : Packet) :
    network.addTransport Tcp.protocol segment =
      { network with tcp := some (tcp.reset payloadLength), payloadLength := 0 } := by
  have hstale : ∀ index ∈ transportPositions (some tcpField) 0, 14 ≤ index := by
    intro index hindex
    rw [transportPositions_some, Set.mem_Ico] at hindex
    exact Nat.le_trans (by decide) hindex.1
  have hwords : octetAt (resetSegment tcp payloadLength) 12 = 0x50 := rfl
  have hannounced : Tcp.Header.announcedLength segment = 20 := by
    rw [Tcp.Header.announcedLength_eq hagree hstale, Tcp.Header.announcedLength, hwords]
    rfl
  have hlength : segment.length = 20 := hagree.length_eq
  have hstarts : Tcp.Header.Starts segment :=
    ⟨hlength.ge, hannounced.ge, hannounced.trans_le hlength.ge⟩
  rw [Packet.addTransport_tcp network hstarts, Tcp.Header.read_eq hagree hstale,
    read_resetSegment, hannounced, hlength]

/-- An unreachable message starts with its type and code, whatever its checksum is. -/
theorem octetAt_unreachableMessage {field : Field} (hword : 1 ≤ field.word) {kind code : UInt8}
    {quote data : Bytes}
    (hagree : AgreeExcept (transportPositions (some field) 0) data
      (unreachableMessage kind code quote)) :
    octetAt data 0 = kind ∧ octetAt data 1 = code ∧ data.length = 8 + quote.length := by
  have hfresh {index : ℕ} (hindex : index < 2) : index ∉ transportPositions (some field) 0 := by
    rw [transportPositions_some, Set.mem_Ico]
    omega
  refine ⟨?_, ?_, hagree.length_eq.trans (length_unreachableMessage kind code quote)⟩
  · rw [hagree.octetAt_eq (hfresh (by decide))]
    rfl
  · rw [hagree.octetAt_eq (hfresh (by decide))]
    rfl

namespace Patch

section Parsing

variable {patch : Patch} {protocol : UInt8} {length : ℕ} {field : Field}

/-- Parsing a reply over IPv4 finds the header it was meant to have, and then what stands behind it
under the protocol of the reply. -/
theorem OverIpv4.exists_parse (hover : patch.OverIpv4) {ip : Ipv4.Header}
    (hfront : patch.front = ipv4Front protocol length ip)
    (hfield : fieldOverIpv4? protocol = some field) :
    ∃ data, AgreeExcept (transportPositions (some field) 0) data patch.message ∧
      Packet.parse patch.forged =
        Packet.addTransport { raw := patch.forged, ipv4 := some (ip.answer protocol length) }
          protocol data := by
  have hlayout := hover.layout
  have hstarts := hlayout.starts_seal
  have hread := hlayout.read_seal
  have hbehind := hlayout.behind_seal
  rw [← hover.forged_eq] at hstarts hread hbehind
  rw [hfront, read_ipv4Front] at hread
  rw [hfront, octetAt_ipv4Front_nine, hfield] at hbehind
  have hoffset := (Ipv4.Header.isLaterFragment_read patch.forged).mp (by rw [hread]; rfl)
  have hprotocol : octetAt patch.forged 9 = protocol := congrArg Ipv4.Header.protocol hread
  refine ⟨_, hbehind ▸ agreeExcept_sealTransport _ _ _ _, ?_⟩
  rw [(Packet.Upper.ipv4 hstarts hoffset).parse_eq, hprotocol, hread]

/-- Parsing a reply over IPv6 finds the header it was meant to have, and then what stands behind it
under the protocol of the reply. -/
theorem OverIpv6.exists_parse (hover : patch.OverIpv6) {ip : Ipv6.Header}
    (hfront : patch.front = ipv6Front protocol length ip)
    (hfield : fieldOverIpv6? protocol = some field) (hkind : ¬Ipv6.CarriesLength protocol)
    (hfragment : protocol ≠ Ipv6.fragment) :
    ∃ data, AgreeExcept (transportPositions (some field) 0) data patch.message ∧
      Packet.parse patch.forged =
        Packet.addTransport { raw := patch.forged, ipv6 := some (ip.answer protocol length) }
          protocol data := by
  have hlayout := hover.layout
  have hstarts := hlayout.starts_seal
  have hread := hlayout.read_seal
  have hbehind := hlayout.behind_seal
  rw [← hover.forged_eq] at hstarts hread hbehind
  rw [hfront, read_ipv6Front] at hread
  rw [hfront, octetAt_ipv6Front_six, hfield] at hbehind
  have hprotocol : octetAt patch.forged 6 = protocol := congrArg Ipv6.Header.nextHeader hread
  have hupper := Ipv6.upperLayer_of_upper hkind hfragment (Ipv6.Header.behind patch.forged)
  rw [← hprotocol] at hupper
  refine ⟨_, hbehind ▸ agreeExcept_sealTransport _ _ _ _, ?_⟩
  rw [(Packet.Upper.ipv6 hstarts hupper).parse_eq, hprotocol, hread]

end Parsing

/-- What is found in a reset over IPv4. -/
theorem parse_forged_tcpReset (captured : Diversion.Address) (ip : Ipv4.Header)
    (tcp : Tcp.Header) (payloadLength : ℕ) :
    Packet.parse (tcpReset captured ip tcp payloadLength).forged =
      { raw := (tcpReset captured ip tcp payloadLength).forged
        ipv4 := some (ip.answer Tcp.protocol resetLength)
        tcp := some (tcp.reset payloadLength)
        payloadLength := 0 } := by
  obtain ⟨segment, hagree, hparse⟩ :=
    (overIpv4_tcpReset captured ip tcp payloadLength).exists_parse rfl fieldOverIpv4?_tcp
  rw [hparse, addTransport_reset hagree]

/-- What is found in a reset over IPv6. -/
theorem parse_forged_tcpResetV6 (captured : Diversion.Address) (ip : Ipv6.Header)
    (tcp : Tcp.Header) (payloadLength : ℕ) :
    Packet.parse (tcpResetV6 captured ip tcp payloadLength).forged =
      { raw := (tcpResetV6 captured ip tcp payloadLength).forged
        ipv6 := some (ip.answer Tcp.protocol Tcp.minimumHeaderLength)
        tcp := some (tcp.reset payloadLength)
        payloadLength := 0 } := by
  obtain ⟨segment, hagree, hparse⟩ :=
    (overIpv6_tcpResetV6 captured ip tcp payloadLength).exists_parse rfl fieldOverIpv6?_tcp
      (by decide) (by decide)
  rw [hparse, addTransport_reset hagree]

/-- What is found in an unreachable message over IPv4. -/
theorem parse_forged_icmpUnreachable (captured : Diversion.Address) (ip : Ipv4.Header)
    (raw : Bytes) :
    Packet.parse (icmpUnreachable captured ip raw).forged =
      { raw := (icmpUnreachable captured ip raw).forged
        ipv4 := some (ip.answer Icmp.protocol
          (quoteOffset + (icmpUnreachable captured ip raw).quotation.length))
        icmp := some ⟨3, 3⟩
        payloadLength := (icmpUnreachable captured ip raw).quotation.length } := by
  obtain ⟨data, hagree, hparse⟩ :=
    (overIpv4_icmpUnreachable captured ip raw).exists_parse rfl fieldOverIpv4?_icmp
  obtain ⟨hkind, hcode, hlength⟩ := octetAt_unreachableMessage (by decide) hagree
  rw [hparse, Packet.addTransport_icmp _ rfl (by rw [hlength]; exact Nat.le_add_right 8 _), hkind,
    hcode, hlength, Icmp.headerLength, Nat.add_sub_cancel_left]

/-- What is found in an unreachable message over IPv6. -/
theorem parse_forged_icmpv6Unreachable (captured : Diversion.Address) (ip : Ipv6.Header)
    (raw : Bytes) :
    Packet.parse (icmpv6Unreachable captured ip raw).forged =
      { raw := (icmpv6Unreachable captured ip raw).forged
        ipv6 := some (ip.answer Icmp.protocolV6 (Icmp.headerLength + quoteLengthV6))
        icmpv6 := some ⟨1, 4⟩
        payloadLength := (icmpv6Unreachable captured ip raw).quotation.length } := by
  obtain ⟨data, hagree, hparse⟩ :=
    (overIpv6_icmpv6Unreachable captured ip raw).exists_parse rfl fieldOverIpv6?_icmp
      (by decide) (by decide)
  obtain ⟨hkind, hcode, hlength⟩ := octetAt_unreachableMessage (by decide) hagree
  rw [hparse, Packet.addTransport_icmpv6 _ rfl (by rw [hlength]; exact Nat.le_add_right 8 _), hkind,
    hcode, hlength, Icmp.headerLength, Nat.add_sub_cancel_left]

end Patch

end PacketRefusal
