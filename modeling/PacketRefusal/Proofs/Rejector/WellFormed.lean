import Mathlib.Data.List.Basic
import PacketRefusal.Proofs.Checksum.PseudoHeader
import PacketRefusal.Proofs.Rejector.Sending
import PacketRefusal.Proofs.Reply.Quotation
import PacketRefusal.Proofs.Reply.Reading

/-!
# Replies are well formed

A reply reaches the application that waits for it only if every receiver on the way finds it in
order. `Reply.WellFormed` says what that takes: the version of the refused packet, its addresses
exchanged, length fields that fit the reply, and checksums that verify, together with the length of
each kind of reply. `Refusal.wellFormed` proves it of the forged reply of a refused packet, and
`Rejector.wellFormed_of_mem_sends` of whatever a rejector sends.

The header fields are read back from the reply by `Ipv4Layout.read_seal` and `read_ipv4Front`, and
their counterparts over IPv6. The checksums verify since they were stored
(`Ipv4Layout.verifies_header`, `Ipv4Layout.verifies_transport`).
-/

set_option autoImplicit false
set_option relaxedAutoImplicit false

namespace PacketRefusal

open Bytes Checksum

/-! ### What is expected of a reply -/

def Ipv4.pseudoHeader (packet : Bytes) : Bytes :=
  pseudoHeaderOverIpv4 ((Address.read packet 12).octets ++ (Address.read packet 16).octets)
    (octetAt packet 9) (packet.length - 20)

def Ipv6.pseudoHeader (packet : Bytes) : Bytes :=
  pseudoHeaderOverIpv6 ((Address.read packet 8).octets ++ (Address.read packet 24).octets)
    (octetAt packet 6) (packet.length - 40)

/-- What a receiver of a reply over IPv4 relies on, when `covered` is what the transport checksum
covers besides the transport octets. -/
structure WellFormedOverIpv4 (captured covered reply : Bytes) : Prop where
  capturedVersion : highNibble (octetAt captured 0) = 4
  version : highNibble (octetAt reply 0) = 4
  headerWords : lowNibble (octetAt reply 0) = 5
  totalLength : (wordAt reply 2).toNat = reply.length
  source : Ipv4.Address.read reply 12 = .read captured 16
  destination : Ipv4.Address.read reply 16 = .read captured 12
  headerSum : Verifies (reply.take 20)
  transportSum : Verifies (covered ++ reply.drop 20)

/-- What a receiver of a reply over IPv6 relies on. -/
structure WellFormedOverIpv6 (captured reply : Bytes) : Prop where
  capturedVersion : highNibble (octetAt captured 0) = 6
  version : highNibble (octetAt reply 0) = 6
  payloadLength : 40 + (wordAt reply 4).toNat = reply.length
  source : Ipv6.Address.read reply 8 = .read captured 24
  destination : Ipv6.Address.read reply 24 = .read captured 8
  transportSum : Verifies (Ipv6.pseudoHeader reply ++ reply.drop 40)

/-- A reply of some kind to a captured packet is well formed. -/
def Reply.WellFormed (captured reply : Bytes) : Reply → Prop
  | tcpReset =>
    WellFormedOverIpv4 captured (Ipv4.pseudoHeader reply) reply ∧
      octetAt reply 9 = Tcp.protocol ∧ reply.length = 40
  | tcpResetV6 =>
    WellFormedOverIpv6 captured reply ∧ octetAt reply 6 = Tcp.protocol ∧ reply.length = 60
  | icmpUnreachable =>
    WellFormedOverIpv4 captured [] reply ∧
      octetAt reply 9 = Icmp.protocol ∧ 56 ≤ reply.length ∧ reply.length ≤ 96
  | icmpv6Unreachable =>
    WellFormedOverIpv6 captured reply ∧ octetAt reply 6 = Icmp.protocolV6 ∧ reply.length = 108

/-! ### Sealed replies -/

section Sealed

variable {captured message : Bytes} {protocol : UInt8} {length : ℕ} {field : Field}

/-- A sealed reply over IPv4 is well formed. -/
theorem wellFormedOverIpv4_seal (hstarts : Ipv4.Header.Starts captured)
    (hlayout : Ipv4Layout (ipv4Front protocol length (.read captured)) message)
    (hfield : fieldOverIpv4? protocol = some field) {reply : Bytes}
    (hreply : reply = sealIpv4 (ipv4Front protocol length (.read captured)) message) :
    WellFormedOverIpv4 captured (if field.coversPseudoHeader then Ipv4.pseudoHeader reply else [])
      reply ∧ octetAt reply 9 = protocol ∧ reply.length = 20 + message.length := by
  have hread : Ipv4.Header.read reply = (Ipv4.Header.read captured).answer protocol length := by
    rw [hreply, hlayout.read_seal, read_ipv4Front]
  have hstarts' : Ipv4.Header.Starts reply := hreply ▸ hlayout.starts_seal
  have hlength : reply.length = 20 + message.length := by
    rw [hreply, (agreeExcept_sealIpv4 _ _).length_eq, List.length_append, length_ipv4Front]
  have hprotocol : octetAt reply 9 = protocol := congrArg Ipv4.Header.protocol hread
  have hsource : Ipv4.Address.read reply 12 = .read captured 16 := congrArg Ipv4.Header.source hread
  have hdestination : Ipv4.Address.read reply 16 = .read captured 12 :=
    congrArg Ipv4.Header.destination hread
  have htotal : wordAt reply 2 = .ofNat length := congrArg Ipv4.Header.totalLength hread
  have hwords : 4 * lowNibble (octetAt reply 0) = 20 := by
    rw [← Ipv4.Header.length_read, hread]
    rfl
  refine ⟨?_, hprotocol, hlength⟩
  exact {
    capturedVersion := hstarts.2.1
    version := hstarts'.2.1
    headerWords := by omega
    totalLength := by
      have hlayoutTotal := hlayout.totalLength
      rw [wordAt_ipv4Front, length_ipv4Front] at hlayoutTotal
      rw [htotal, hlayoutTotal, hlength]
    source := hsource
    destination := hdestination
    headerSum := by
      have hverifies := hlayout.verifies_header
      rwa [length_ipv4Front, ← hreply] at hverifies
    transportSum := by
      have hverifies := hlayout.verifies_transport hfield
      rw [addresses_ipv4Front, octetAt_ipv4Front_nine, length_ipv4Front, ← hreply] at hverifies
      rw [Ipv4.pseudoHeader, hsource, hdestination, hprotocol, hlength, Nat.add_sub_cancel_left]
      exact hverifies }

/-- A sealed reply over IPv6 is well formed. -/
theorem wellFormedOverIpv6_seal (hstarts : Ipv6.Header.Starts captured)
    (hlayout : Ipv6Layout (ipv6Front protocol length (.read captured)) message)
    (hfield : fieldOverIpv6? protocol = some field) (hcovers : field.coversPseudoHeader)
    {reply : Bytes}
    (hreply : reply = sealIpv6 (ipv6Front protocol length (.read captured)) message) :
    WellFormedOverIpv6 captured reply ∧ octetAt reply 6 = protocol ∧
      reply.length = 40 + message.length := by
  have hread : Ipv6.Header.read reply = (Ipv6.Header.read captured).answer protocol length := by
    rw [hreply, hlayout.read_seal, read_ipv6Front]
  have hstarts' : Ipv6.Header.Starts reply := hreply ▸ hlayout.starts_seal
  have hlength : reply.length = 40 + message.length := by
    rw [hreply, (agreeExcept_sealIpv6 _ _).length_eq, List.length_append, length_ipv6Front]
  have hprotocol : octetAt reply 6 = protocol := congrArg Ipv6.Header.nextHeader hread
  have hsource : Ipv6.Address.read reply 8 = .read captured 24 := congrArg Ipv6.Header.source hread
  have hdestination : Ipv6.Address.read reply 24 = .read captured 8 :=
    congrArg Ipv6.Header.destination hread
  have hpayload : wordAt reply 4 = .ofNat length := congrArg Ipv6.Header.payloadLength hread
  refine ⟨?_, hprotocol, hlength⟩
  exact {
    capturedVersion := hstarts.2
    version := hstarts'.2
    payloadLength := by
      have hlayoutPayload := hlayout.payloadLength
      rw [wordAt_ipv6Front] at hlayoutPayload
      rw [hpayload, hlayoutPayload, hlength]
    source := hsource
    destination := hdestination
    transportSum := by
      have hverifies := hlayout.verifies_transport hfield
      rw [addresses_ipv6Front, octetAt_ipv6Front_six, length_ipv6Front, ← hreply,
        if_pos hcovers] at hverifies
      rw [Ipv6.pseudoHeader, hsource, hdestination, hprotocol, hlength, Nat.add_sub_cancel_left]
      exact hverifies }

end Sealed

/-! ### Refused packets -/

/-- An unreachable message over IPv4 quotes the whole header and eight octets behind it. -/
theorem length_quotation_icmpUnreachable {raw : Bytes}
    (htransport : Udp.Header.Starts (Ipv4.Header.behind raw)) (captured : Diversion.Address) :
    (Patch.icmpUnreachable captured (.read raw) raw).quotation.length =
      4 * lowNibble (octetAt raw 0) + 8 := by
  have hquoted : 4 * lowNibble (octetAt raw 0) + 8 ≤ min raw.length (wordAt raw 2).toNat :=
    Udp.Header.end_le htransport
  rw [Patch.quotation_of_udp htransport captured,
    List.length_take_of_le (hquoted.trans (Nat.min_le_left _ _))]

/-- The forged reply to a refused packet is well formed. -/
theorem Refusal.wellFormed {raw : Bytes} {captured : Diversion.Address} {patch : Patch}
    (hrefusal : Refusal raw captured patch) : patch.reply.WellFormed raw patch.forged := by
  cases hrefusal with
  | tcpReset hstarts hoffset hprotocol htransport =>
    exact wellFormedOverIpv4_seal hstarts (Patch.overIpv4_tcpReset ..).layout fieldOverIpv4?_tcp rfl
  | tcpResetV6 hstarts hupper htransport =>
    exact wellFormedOverIpv6_seal hstarts (Patch.overIpv6_tcpResetV6 ..).layout fieldOverIpv6?_tcp
      rfl rfl
  | icmpUnreachable hstarts hoffset hprotocol htransport =>
    obtain ⟨hwellFormed, hicmp, -⟩ := wellFormedOverIpv4_seal hstarts
      (Patch.overIpv4_icmpUnreachable captured (.read raw) raw).layout fieldOverIpv4?_icmp rfl
    have hquotation := length_quotation_icmpUnreachable htransport captured
    have hwords := hstarts.2.2.1
    have hsmall := lowNibble_lt (octetAt raw 0)
    refine ⟨hwellFormed, hicmp, ?_⟩
    rw [Patch.length_forged, Patch.length, Patch.front, Patch.message, length_ipv4Front,
      length_unreachableMessage, hquotation]
    omega
  | icmpv6Unreachable hstarts hupper htransport =>
    obtain ⟨hwellFormed, hicmp, -⟩ := wellFormedOverIpv6_seal hstarts
      (Patch.overIpv6_icmpv6Unreachable captured (.read raw) raw).layout fieldOverIpv6?_icmp rfl rfl
    refine ⟨hwellFormed, hicmp, ?_⟩
    rw [Patch.length_forged, Patch.length, Patch.front, Patch.message, length_ipv6Front,
      length_unreachableMessage, Patch.quotation, length_fit]
    rfl

/-- Whatever a rejector sends, in any state that it can reach, is a well-formed reply to the packet
it deals with, of the kind that it says the packet is rejected with. -/
theorem Rejector.wellFormed_of_mem_sends {rejector : Rejector} (hreachable : Reachable rejector)
    (surroundings : Surroundings) (capture : Diversion.Capture) (address : Diversion.Address)
    (packet : Bytes) (hsent : (address, packet) ∈ (rejector.handle surroundings capture).sends) :
    ∃ reply, (rejector.handle surroundings capture).verdict = some (.rejected reply) ∧
      reply.WellFormed capture.data packet := by
  obtain ⟨patch, hrefusal, hverdict, -, rfl⟩ := exists_refusal_of_mem_sends hreachable hsent
  exact ⟨patch.reply, hverdict, hrefusal.wellFormed⟩

/-- A datagram with one octet of payload, as it leaves the host. -/
def loneDatagram : Diversion.Capture where
  data := [0x45, 0, 0, 29, 0, 1, 0, 0, 64, 17, 0, 0, 10, 0, 0, 1, 10, 0, 0, 2] ++
    [0x30, 0x39, 0, 53, 0, 9, 0, 0, 0x61]
  address := ⟨1, 2, .outbound⟩

/-- The message that refuses the datagram. It quotes its header and the eight octets behind it. -/
def loneDatagramRefused : Bytes :=
  [0x45, 0, 0, 56, 0xDE, 0xAD, 0, 0, 64, 1, 0x88, 0x15, 10, 0, 0, 2, 10, 0, 0, 1] ++
    [3, 3, 0x33, 0x53, 0, 0, 0, 0] ++ loneDatagram.data.take 28

theorem Rejector.wellFormed_loneDatagramRefused :
    (⟨1, 2, .outbound⟩, loneDatagramRefused) ∈ ((initial 65535).handle {} loneDatagram).sends ∧
      ∃ reply, ((initial 65535).handle {} loneDatagram).verdict = some (.rejected reply) ∧
        reply.WellFormed loneDatagram.data loneDatagramRefused := by
  have hreply : (Packet.parse loneDatagram.data).reply? = some .icmpUnreachable := by cbv
  have hpatch : (Packet.parse loneDatagram.data).patch loneDatagram.address .icmpUnreachable =
      .ok (.icmpUnreachable loneDatagram.address (.read loneDatagram.data) loneDatagram.data) := by
    cbv
  have hforged : (Patch.icmpUnreachable loneDatagram.address (.read loneDatagram.data)
      loneDatagram.data).forged = loneDatagramRefused := by
    cbv
  have hsent : (⟨1, 2, .outbound⟩, loneDatagramRefused) ∈
      ((initial 65535).handle {} loneDatagram).sends := by
    obtain ⟨-, hsends⟩ := handle_of_patch (.initial 65535) {} (by cbv) hreply hpatch
    rw [hsends, hforged]
    exact List.mem_singleton_self _
  exact ⟨hsent, wellFormed_of_mem_sends (.initial 65535) {} loneDatagram _ _ hsent⟩

end PacketRefusal
