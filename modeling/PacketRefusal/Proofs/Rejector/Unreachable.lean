import PacketRefusal.Proofs.Rejector.Effects
import PacketRefusal.Proofs.Rejector.WellFormed

/-!
# Unreachable messages end to end

A datagram is refused by an unreachable message, from which its sender has to find the socket that
it came from. `UnreachableOverIpv4` and `UnreachableOverIpv6` say what such a message holds: all of
a well-formed reply, the fixed fields of an unreachable message, and a quote of the datagram.
`Refusal.unreachableOverIpv4` and `Refusal.unreachableOverIpv6` prove it of the forged messages.

`Rejector.sends_handle_of_icmpUnreachable` and `Rejector.sends_handle_of_icmpv6Unreachable` follow a
datagram from its capture to the receiver of the message. Parsing the quote alone gives the headers
of the datagram. Over IPv6 the quote has room for them if the extension headers, which
`Ipv6.ExtendedBy` finds, are at most eight octets long.
-/

set_option autoImplicit false
set_option relaxedAutoImplicit false

namespace PacketRefusal

open Bytes

/-! ### What unreachable messages hold -/

/-- An unreachable message over IPv4 about a captured datagram. It quotes the whole header of the
datagram and eight octets behind it, however the datagram was cut and whatever it announces. -/
structure UnreachableOverIpv4 (captured message : Bytes) : Prop
    extends WellFormedOverIpv4 captured [] message where
  headerLength : 20 ≤ 4 * lowNibble (octetAt captured 0) ∧ 4 * lowNibble (octetAt captured 0) ≤ 60
  length_eq : message.length = 28 + 4 * lowNibble (octetAt captured 0) + 8
  announcedLength : (wordAt message 2).toNat = 36 + 4 * lowNibble (octetAt captured 0)
  identification : wordAt message 4 = 0xDEAD
  lifetime : octetAt message 8 = 64
  protocol : octetAt message 9 = 1
  kind : octetAt message 20 = 3
  code : octetAt message 21 = 3
  unused : (message.drop 24).take 4 = [0, 0, 0, 0]
  quote : message.drop 28 = captured.take (4 * lowNibble (octetAt captured 0) + 8)

/-- An unreachable message over IPv6 about a captured datagram. It has a fixed length, and zeros
fill the part of the quote for which there are no octets of the datagram. -/
structure UnreachableOverIpv6 (captured message : Bytes) : Prop
    extends WellFormedOverIpv6 captured message where
  length_eq : message.length = 108
  announcedLength : (wordAt message 4).toNat = 68
  nextHeader : octetAt message 6 = 58
  hopLimit : octetAt message 7 = 64
  kind : octetAt message 40 = 1
  code : octetAt message 41 = 4
  unused : (message.drop 44).take 4 = [0, 0, 0, 0]
  quotedLength : 48 ≤ quotedLengthV6 captured ∧ quotedLengthV6 captured ≤ captured.length
  quote : message.drop 48 =
    captured.take (quotedLengthV6 captured) ++ List.replicate (60 - quotedLengthV6 captured) 0

/-- The extension headers of a packet over IPv6, behind which octets of some protocol stand. -/
def Ipv6.ExtendedBy (raw chain : Bytes) (protocol : UInt8) : Prop :=
  Chain (octetAt raw 6) chain protocol ∧ ∃ data, Header.behind raw = chain ++ data

variable {raw : Bytes} {captured : Diversion.Address} {patch : Patch}

/-! ### Extension headers -/

namespace Ipv6

/-- There are extension headers, or none at all, in front of what the walk over them reaches. -/
theorem exists_extendedBy {protocol : UInt8} {data : Bytes}
    (hupper : upperLayer (octetAt raw 6) (Header.behind raw) = some (protocol, data))
    (hprotocol : protocol ≠ fragment) : ∃ chain, ExtendedBy raw chain protocol := by
  obtain ⟨chain, hchain, hbehind⟩ := exists_chain_of_upperLayer hupper hprotocol
  exact ⟨chain, hchain, data, hbehind⟩

namespace ExtendedBy

variable {chain : Bytes} {protocol : UInt8}

/-- Behind the extension headers the octets of the protocol are carried. -/
theorem carries (hextended : ExtendedBy raw chain protocol) (hstarts : Header.Starts raw) :
    Carries raw protocol (40 + chain.length) (40 + (wordAt raw 4).toNat) := by
  obtain ⟨hchain, data, hbehind⟩ := hextended
  exact .ipv6 hstarts hchain hbehind

/-- The walk over the extension headers reaches what is carried behind them. -/
theorem eq_drop (hextended : ExtendedBy raw chain protocol) (hkind : ¬CarriesLength protocol)
    (hfragment : protocol ≠ fragment) {data : Bytes}
    (hupper : upperLayer (octetAt raw 6) (Header.behind raw) = some (protocol, data)) :
    data = (raw.take (40 + (wordAt raw 4).toNat)).drop (40 + chain.length) := by
  obtain ⟨hchain, carried, hbehind⟩ := hextended
  rw [hbehind, upperLayer_append_chain hchain, upperLayer_of_upper hkind hfragment] at hupper
  obtain ⟨-, rfl⟩ := Prod.mk.inj (Option.some.inj hupper)
  exact (drop_add_of_drop hbehind rfl).symm

end ExtendedBy

end Ipv6

/-! ### Forged messages -/

namespace Patch

/-- An octet of a reply that is in no checksum is that of its parts. -/
theorem octetAt_forged (patch : Patch) {index : ℕ}
    (hindex : index ∉ patch.reply.checksumPositions) :
    octetAt patch.forged index = octetAt (patch.front ++ patch.message) index :=
  patch.agreeExcept_forged.octetAt_eq hindex

/-- Behind the network header this is an octet of the message. -/
theorem octetAt_forged_add (patch : Patch) {start : ℕ} (hstart : patch.front.length = start)
    (index : ℕ) (hindex : start + index ∉ patch.reply.checksumPositions) :
    octetAt patch.forged (start + index) = octetAt patch.message index := by
  rw [octetAt_forged patch hindex, octetAt_append_right hstart]

end Patch

/-- The message that refuses a datagram over IPv4 has all that is expected of it. -/
theorem Refusal.unreachableOverIpv4 (hrefusal : Refusal raw captured patch)
    (hreply : patch.reply = .icmpUnreachable) : UnreachableOverIpv4 raw patch.forged := by
  have hwellFormed := hrefusal.wellFormed
  cases hrefusal with
  | icmpUnreachable hstarts hoffset hprotocol htransport =>
    obtain ⟨hwellFormed, hicmp, -, -⟩ := hwellFormed
    have hlength : (Patch.icmpUnreachable captured (.read raw) raw).forged.length =
        28 + 4 * lowNibble (octetAt raw 0) + 8 := by
      rw [Patch.length_forged, Patch.length_icmpUnreachable,
        length_quotation_icmpUnreachable htransport]
      rfl
    have hmessage := (Patch.icmpUnreachable captured (.read raw) raw).octetAt_forged_add
      (length_ipv4Front ..)
    have hwords := lowNibble_lt (octetAt raw 0)
    have hminimum := hstarts.2.2.1
    have hannounced := hwellFormed.totalLength
    exact {
      toWellFormedOverIpv4 := hwellFormed
      headerLength := by omega
      length_eq := hlength
      announcedLength := by omega
      identification := by
        rw [(Patch.agreeExcept_forged _).wordAt_eq (by simp [Patch.reply, Reply.checksumPositions])
          (by simp [Patch.reply, Reply.checksumPositions])]
        rfl
      lifetime := by
        rw [Patch.octetAt_forged _ (by simp [Patch.reply, Reply.checksumPositions])]
        rfl
      protocol := hicmp
      kind := hmessage 0 (by simp [Patch.reply, Reply.checksumPositions])
      code := hmessage 1 (by simp [Patch.reply, Reply.checksumPositions])
      unused := by
        rw [Patch.drop_forged_icmpUnreachable, List.take_left' (length_blank 4)]
        rfl
      quote := by rw [Patch.quote_forged_icmpUnreachable, Patch.quotation_of_udp htransport] }
  | _ => cases hreply

/-- The message that refuses a datagram over IPv6 has all that is expected of it. -/
theorem Refusal.unreachableOverIpv6 (hrefusal : Refusal raw captured patch)
    (hreply : patch.reply = .icmpv6Unreachable) : UnreachableOverIpv6 raw patch.forged := by
  have hwellFormed := hrefusal.wellFormed
  cases hrefusal with
  | icmpv6Unreachable hstarts hupper htransport =>
    obtain ⟨hwellFormed, hicmp, hlength⟩ := hwellFormed
    have hmessage := (Patch.icmpv6Unreachable captured (.read raw) raw).octetAt_forged_add
      (length_ipv6Front ..)
    have hannounced := hwellFormed.payloadLength
    obtain ⟨chain, hextended⟩ := Ipv6.exists_extendedBy hupper (by decide)
    rw [hextended.eq_drop (by decide) (by decide) hupper] at htransport
    have hheader := Udp.Header.end_le htransport
    have hquoted : quotedLengthV6 raw = min 60 (min raw.length (40 + (wordAt raw 4).toNat)) := rfl
    exact {
      toWellFormedOverIpv6 := hwellFormed
      length_eq := hlength
      announcedLength := by omega
      nextHeader := hicmp
      hopLimit := by
        rw [Patch.octetAt_forged _ (by simp [Patch.reply, Reply.checksumPositions])]
        rfl
      kind := hmessage 0 (by simp [Patch.reply, Reply.checksumPositions])
      code := hmessage 1 (by simp [Patch.reply, Reply.checksumPositions])
      unused := by
        rw [Patch.drop_forged_icmpv6Unreachable, List.take_left' (length_blank 4)]
        rfl
      quotedLength := by omega
      quote := by
        rw [Patch.quote_forged_icmpv6Unreachable, Patch.quotation_icmpv6Unreachable, blank] }
  | _ => cases hreply

namespace Rejector

variable {rejector : Rejector}

/-- A packet that is rejected with an unreachable message over IPv4 is answered by one such message,
which goes outbound over the interface of the packet. Its quote is not cut short, and parsed alone
it gives the headers of the packet, of IPv4 and UDP, and no payload. -/
theorem sends_handle_of_icmpUnreachable (hreachable : Reachable rejector)
    (surroundings : Surroundings) (capture : Diversion.Capture)
    (hverdict : (rejector.handle surroundings capture).verdict =
      some (.rejected .icmpUnreachable)) :
    ∃ message,
      (rejector.handle surroundings capture).sends =
        [(⟨capture.address.interface, capture.address.subInterface, .outbound⟩, message)] ∧
      UnreachableOverIpv4 capture.data message ∧
      (Packet.parse capture.data).ipv4.isSome ∧ (Packet.parse capture.data).udp.isSome ∧
      (Packet.parse (message.drop 28)).toHeaders = (Packet.parse capture.data).toHeaders ∧
      (Packet.parse (message.drop 28)).payloadLength = 0 := by
  have hcalled := ((course_handle hreachable surroundings capture).verdict_eq_rejected_iff
    .icmpUnreachable).mp hverdict
  obtain ⟨patch, hreply, hrefusal, hsends⟩ := exists_refusal_of_verdict hreachable hverdict
  have hmessage := hrefusal.unreachableOverIpv4 hreply
  cases hrefusal with
  | icmpUnreachable hstarts hoffset hprotocol htransport =>
    have hquote := Patch.parse_quotation_of_udp hstarts hoffset hprotocol htransport capture.address
    rw [Patch.quotation_of_udp htransport, ← hmessage.quote] at hquote
    exact ⟨_, hsends, hmessage, hcalled.2, hcalled.1, hquote⟩
  | _ => cases hreply

/-- A datagram behind an IPv4 header with options, captured with the padding of its frame. -/
def paddedDatagram : Diversion.Capture where
  data := [0x46, 0, 0, 33, 0, 1, 0, 0, 64, 17, 0, 0, 10, 0, 0, 1, 10, 0, 0, 2, 1, 1, 1, 0] ++
    [0x30, 0x39, 0, 53, 0, 9, 0, 0, 0x61] ++ blank 13
  address := ⟨1, 2, .inbound⟩

theorem sends_handle_of_paddedDatagram :
    ((initial 65535).handle {} paddedDatagram).verdict =
        some (.rejected .icmpUnreachable) ∧
      ∃ message,
        ((initial 65535).handle {} paddedDatagram).sends =
          [(⟨1, 2, .outbound⟩, message)] ∧
        message.length = 60 ∧ message.drop 28 = paddedDatagram.data.take 32 ∧
        (Packet.parse (message.drop 28)).udp = some ⟨12345, 53⟩ := by
  have hverdict : ((initial 65535).handle {} paddedDatagram).verdict =
      some (.rejected .icmpUnreachable) :=
    ((course_handle (.initial 65535) {} paddedDatagram).verdict_eq_rejected_iff _).mpr
      (by cbv)
  have hudp : (Packet.parse paddedDatagram.data).udp = some ⟨12345, 53⟩ := by cbv
  obtain ⟨message, hsends, hmessage, -, -, hheaders, -⟩ :=
    sends_handle_of_icmpUnreachable (.initial 65535) {} paddedDatagram hverdict
  have hfound : (Packet.parse (message.drop 28)).udp = some ⟨12345, 53⟩ :=
    (congrArg Headers.udp hheaders).trans hudp
  exact ⟨hverdict, message, hsends, hmessage.length_eq, hmessage.quote, hfound⟩

/-- A packet that is rejected with an unreachable message over IPv6 is answered by one such message,
which goes outbound over the interface of the packet. The packet has headers of IPv6 and UDP, with
extension headers between them. If these are at most eight octets long, then the quote gives the
headers of the packet when it is parsed alone. -/
theorem sends_handle_of_icmpv6Unreachable (hreachable : Reachable rejector)
    (surroundings : Surroundings) (capture : Diversion.Capture)
    (hverdict : (rejector.handle surroundings capture).verdict =
      some (.rejected .icmpv6Unreachable)) :
    ∃ message,
      (rejector.handle surroundings capture).sends =
        [(⟨capture.address.interface, capture.address.subInterface, .outbound⟩, message)] ∧
      UnreachableOverIpv6 capture.data message ∧
      (Packet.parse capture.data).ipv6.isSome ∧ (Packet.parse capture.data).udp.isSome ∧
      (∃ chain, Ipv6.ExtendedBy capture.data chain Udp.protocol) ∧
      ∀ chain, Ipv6.ExtendedBy capture.data chain Udp.protocol → chain.length ≤ 8 →
        (Packet.parse (message.drop 48)).toHeaders = (Packet.parse capture.data).toHeaders := by
  have hcalled := ((course_handle hreachable surroundings capture).verdict_eq_rejected_iff
    .icmpv6Unreachable).mp hverdict
  obtain ⟨patch, hreply, hrefusal, hsends⟩ := exists_refusal_of_verdict hreachable hverdict
  have hmessage := hrefusal.unreachableOverIpv6 hreply
  cases hrefusal with
  | icmpv6Unreachable hstarts hupper htransport =>
    refine ⟨_, hsends, hmessage, hcalled.2, hcalled.1,
      Ipv6.exists_extendedBy hupper (by decide), ?_⟩
    intro chain hextended hshort
    rw [hextended.eq_drop (by decide) (by decide) hupper] at htransport
    have hroom : 40 + chain.length + 8 ≤ quotedLengthV6 capture.data := by
      have hheader := Udp.Header.end_le htransport
      rw [quotedLengthV6]
      omega
    have hheaders := Patch.headers_parse_quotation capture.address (hextended.carries hstarts)
      htransport hroom
    rwa [Patch.quotation_icmpv6Unreachable, blank, ← hmessage.quote] at hheaders
  | _ => cases hreply

/-- A datagram with one octet of payload, behind hop-by-hop options of eight octets. -/
def datagramBehindHopByHop : Diversion.Capture where
  data := [0x60, 0, 0, 0, 0, 17, 0, 64] ++ blank 15 ++ [1] ++ blank 15 ++ [2] ++
    [17, 0, 1, 4, 0, 0, 0, 0] ++ [0x30, 0x39, 0, 53, 0, 9, 0, 0, 0x61]
  address := ⟨1, 2, .inbound⟩

theorem sends_handle_of_datagramBehindHopByHop :
    ((initial 65535).handle {} datagramBehindHopByHop).verdict =
        some (.rejected .icmpv6Unreachable) ∧
      Ipv6.ExtendedBy datagramBehindHopByHop.data [17, 0, 1, 4, 0, 0, 0, 0] Udp.protocol ∧
      ∃ message,
        ((initial 65535).handle {} datagramBehindHopByHop).sends =
          [(⟨1, 2, .outbound⟩, message)] ∧
        message.drop 48 = datagramBehindHopByHop.data ++ [0, 0, 0] ∧
        (Packet.parse (message.drop 48)).udp = some ⟨12345, 53⟩ := by
  have hverdict : ((initial 65535).handle {} datagramBehindHopByHop).verdict =
      some (.rejected .icmpv6Unreachable) :=
    ((course_handle (.initial 65535) {} datagramBehindHopByHop).verdict_eq_rejected_iff _).mpr
      (by cbv)
  have hudp : (Packet.parse datagramBehindHopByHop.data).udp = some ⟨12345, 53⟩ := by cbv
  have hheader : Ipv6.ExtensionHeader 0 [17, 0, 1, 4, 0, 0, 0, 0] :=
    .carried (by decide) (by decide)
  have hextended :
      Ipv6.ExtendedBy datagramBehindHopByHop.data [17, 0, 1, 4, 0, 0, 0, 0] Udp.protocol :=
    ⟨.cons hheader (.done _), [0x30, 0x39, 0, 53, 0, 9, 0, 0, 0x61], by decide⟩
  obtain ⟨message, hsends, hmessage, -, -, -, hheaders⟩ :=
    sends_handle_of_icmpv6Unreachable (.initial 65535) {} datagramBehindHopByHop hverdict
  have hfound : (Packet.parse (message.drop 48)).udp = some ⟨12345, 53⟩ :=
    (congrArg Headers.udp (hheaders _ hextended (by decide))).trans hudp
  refine ⟨hverdict, hextended, message, hsends, ?_, hfound⟩
  rw [hmessage.quote]
  decide

end Rejector

end PacketRefusal
