import PacketRefusal.Proofs.Checksum.Refreshing
import PacketRefusal.Reply.Patch

/-!
# Forged replies

What a patch makes of a template can be said without a template. `Patch.front` is the network header
of the reply and `Patch.message` what stands behind it, both with zeros where checksums belong, and
`Patch.forged` is the reply with its checksums stored. That every template ends up with this reply
in it is shown in `PacketRefusal.Proofs.Reply.Filling`.

`ipv4Layout_ipv4Front` and `ipv6Layout_ipv6Front` say when the parts fit together: the header
announces just the octets behind it, and these reach over their checksum. `Patch.OverIpv4` and
`Patch.OverIpv6` collect this for the four kinds of patch, and `Patch.run_refresh` concludes that
computing the checksums of the parts makes them the forged reply.
-/

set_option autoImplicit false
set_option relaxedAutoImplicit false

namespace PacketRefusal

open Bytes Checksum

/-! ### Headers of replies -/

/-- The addresses of a packet over IPv4, exchanged. -/
def Ipv4.Header.exchanged (ip : Ipv4.Header) : Bytes := ip.destination.octets ++ ip.source.octets

/-- The addresses of a packet over IPv6, exchanged. -/
def Ipv6.Header.exchanged (ip : Ipv6.Header) : Bytes := ip.destination.octets ++ ip.source.octets

@[simp] theorem Ipv4.Header.length_exchanged (ip : Ipv4.Header) : ip.exchanged.length = 8 := by
  simp [exchanged, ip.destination.length_octets, ip.source.length_octets]

@[simp] theorem Ipv6.Header.length_exchanged (ip : Ipv6.Header) : ip.exchanged.length = 32 := by
  simp [exchanged, ip.destination.length_octets, ip.source.length_octets]

/-- A header of a reply over IPv4 up to its addresses. -/
def ipv4Start (protocol : UInt8) (totalLength : ℕ) : Bytes :=
  [0x45, 0] ++ ofWord (.ofNat totalLength) ++ [0xDE, 0xAD, 0, 0, 64, protocol] ++ blank 2

/-- A header of a reply over IPv6 up to its addresses. -/
def ipv6Start (nextHeader : UInt8) (payloadLength : ℕ) : Bytes :=
  [0x60, 0, 0, 0] ++ ofWord (.ofNat payloadLength) ++ [nextHeader, 64]

/-- The header of a reply over IPv4 to a packet with a given header. -/
def ipv4Front (protocol : UInt8) (totalLength : ℕ) (ip : Ipv4.Header) : Bytes :=
  ipv4Start protocol totalLength ++ ip.exchanged

/-- The header of a reply over IPv6 to a packet with a given header. -/
def ipv6Front (nextHeader : UInt8) (payloadLength : ℕ) (ip : Ipv6.Header) : Bytes :=
  ipv6Start nextHeader payloadLength ++ ip.exchanged

@[simp] theorem length_blank (length : ℕ) : (blank length).length = length :=
  List.length_replicate

section Fronts

variable (protocol : UInt8) (length : ℕ)

@[simp] theorem length_ipv4Start : (ipv4Start protocol length).length = 12 := rfl

@[simp] theorem length_ipv6Start : (ipv6Start protocol length).length = 8 := rfl

@[simp] theorem length_ipv4Front (ip : Ipv4.Header) :
    (ipv4Front protocol length ip).length = 20 := by
  simp [ipv4Front]

@[simp] theorem length_ipv6Front (ip : Ipv6.Header) :
    (ipv6Front protocol length ip).length = 40 := by
  simp [ipv6Front]

theorem octetAt_ipv4Front_zero (ip : Ipv4.Header) :
    octetAt (ipv4Front protocol length ip) 0 = 0x45 := rfl

theorem octetAt_ipv4Front_nine (ip : Ipv4.Header) :
    octetAt (ipv4Front protocol length ip) 9 = protocol := rfl

theorem octetAt_ipv6Front_zero (ip : Ipv6.Header) :
    octetAt (ipv6Front protocol length ip) 0 = 0x60 := rfl

theorem octetAt_ipv6Front_six (ip : Ipv6.Header) :
    octetAt (ipv6Front protocol length ip) 6 = protocol := rfl

theorem wordAt_ipv4Front (ip : Ipv4.Header) :
    wordAt (ipv4Front protocol length ip) 2 = .ofNat length :=
  wordAt_ofWord (.ofNat length) ((ipv4Front protocol length ip).drop 4)

theorem wordAt_ipv6Front (ip : Ipv6.Header) :
    wordAt (ipv6Front protocol length ip) 4 = .ofNat length :=
  wordAt_ofWord (.ofNat length) ((ipv6Front protocol length ip).drop 6)

theorem addresses_ipv4Front (ip : Ipv4.Header) :
    ((ipv4Front protocol length ip).drop 12).take 8 = ip.exchanged :=
  List.take_of_length_le (by simp)

theorem addresses_ipv6Front (ip : Ipv6.Header) :
    ((ipv6Front protocol length ip).drop 8).take 32 = ip.exchanged :=
  List.take_of_length_le (by simp)

end Fronts

/-! ### Messages of replies -/

def resetSegment (tcp : Tcp.Header) (payloadLength : ℕ) : Bytes :=
  resetFields tcp payloadLength ++ [0x50, 0x14] ++ blank 6

def unreachableMessage (kind code : UInt8) (quote : Bytes) : Bytes := icmpPrelude kind code ++ quote

@[simp] theorem length_icmpPrelude (kind code : UInt8) : (icmpPrelude kind code).length = 8 := rfl

@[simp] theorem length_resetFields (tcp : Tcp.Header) (payloadLength : ℕ) :
    (resetFields tcp payloadLength).length = 12 := rfl

@[simp] theorem length_resetSegment (tcp : Tcp.Header) (payloadLength : ℕ) :
    (resetSegment tcp payloadLength).length = 20 := rfl

@[simp] theorem length_unreachableMessage (kind code : UInt8) (quote : Bytes) :
    (unreachableMessage kind code quote).length = 8 + quote.length := by
  simp [unreachableMessage]

namespace Patch

/-- What the reply quotes of the packet that is refused. -/
def quotation : Patch → Bytes
  | tcpReset .. | tcpResetV6 .. => []
  | icmpUnreachable _ ip raw => (quotedOctets ip raw).take quoteCapacity
  | icmpv6Unreachable _ ip raw => fit quoteLengthV6 (quotedOctetsV6 ip raw)

def message : Patch → Bytes
  | tcpReset _ _ tcp payloadLength | tcpResetV6 _ _ tcp payloadLength =>
    resetSegment tcp payloadLength
  | patch@(icmpUnreachable ..) => unreachableMessage 3 3 patch.quotation
  | patch@(icmpv6Unreachable ..) => unreachableMessage 1 4 patch.quotation

def front : Patch → Bytes
  | tcpReset _ ip _ _ => ipv4Front Tcp.protocol resetLength ip
  | tcpResetV6 _ ip _ _ => ipv6Front Tcp.protocol Tcp.minimumHeaderLength ip
  | patch@(icmpUnreachable _ ip _) =>
    ipv4Front Icmp.protocol (quoteOffset + patch.quotation.length) ip
  | icmpv6Unreachable _ ip _ =>
    ipv6Front Icmp.protocolV6 (Icmp.headerLength + quoteLengthV6) ip

/-- The reply, its checksums stored. -/
def forged : Patch → Bytes
  | patch@(tcpReset ..) | patch@(icmpUnreachable ..) => sealIpv4 patch.front patch.message
  | patch@(tcpResetV6 ..) | patch@(icmpv6Unreachable ..) => sealIpv6 patch.front patch.message

/-- Where the reply goes. -/
def returnAddress : Patch → Diversion.Address
  | tcpReset captured .. | tcpResetV6 captured .. => captured.reversed
  | icmpUnreachable captured .. | icmpv6Unreachable captured .. => captured.outbound

def length (patch : Patch) : ℕ := patch.front.length + patch.message.length

end Patch

def Reply.checksumPositions : Reply → Set ℕ
  | tcpReset => Set.Ico 10 12 ∪ Set.Ico 36 38
  | tcpResetV6 => Set.Ico 56 58
  | icmpUnreachable => Set.Ico 10 12 ∪ Set.Ico 22 24
  | icmpv6Unreachable => Set.Ico 42 44

/-! ### The parts fit together -/

theorem fieldOverIpv4?_tcp : fieldOverIpv4? Tcp.protocol = some tcpField := by
  simp [fieldOverIpv4?]

theorem fieldOverIpv4?_icmp : fieldOverIpv4? Icmp.protocol = some icmpField := by
  simp [fieldOverIpv4?, Tcp.protocol, Udp.protocol, Icmp.protocol]

theorem fieldOverIpv6?_tcp : fieldOverIpv6? Tcp.protocol = some tcpField := by
  simp [fieldOverIpv6?]

theorem fieldOverIpv6?_icmp : fieldOverIpv6? Icmp.protocolV6 = some icmpv6Field := by
  simp [fieldOverIpv6?, Tcp.protocol, Udp.protocol, Icmp.protocolV6]

theorem transportPositions_some (field : Field) (start : ℕ) :
    transportPositions (some field) start =
      Set.Ico (start + 2 * field.word) (start + 2 * field.word + 2) := by
  ext index
  simp [transportPositions]

section Layouts

variable {protocol : UInt8} {length : ℕ} {transport : Bytes} {field : Field}

theorem ipv4Layout_ipv4Front (ip : Ipv4.Header) (hfield : fieldOverIpv4? protocol = some field)
    (hlength : length = 20 + transport.length) (hsmall : length < 65536)
    (htransport : field.minimumLength ≤ transport.length) :
    Ipv4Layout (ipv4Front protocol length ip) transport where
  version := congrArg highNibble (octetAt_ipv4Front_zero protocol length ip)
  headerLength := by rw [length_ipv4Front, octetAt_ipv4Front_zero]; rfl
  minimumLength := (length_ipv4Front protocol length ip).ge
  totalLength := by
    rw [wordAt_ipv4Front, UInt16.toNat_ofNat_of_lt' hsmall, length_ipv4Front, hlength]
  transportLength := by
    rw [octetAt_ipv4Front_nine, hfield]
    exact fun other hother ↦ Option.mem_some_iff.mp hother ▸ htransport

theorem ipv6Layout_ipv6Front (ip : Ipv6.Header) (hfield : fieldOverIpv6? protocol = some field)
    (hlength : length = transport.length) (hsmall : length < 65536)
    (htransport : field.minimumLength ≤ transport.length) :
    Ipv6Layout (ipv6Front protocol length ip) transport where
  version := congrArg highNibble (octetAt_ipv6Front_zero protocol length ip)
  headerLength := length_ipv6Front protocol length ip
  payloadLength := by rw [wordAt_ipv6Front, UInt16.toNat_ofNat_of_lt' hsmall, hlength]
  transportLength := by
    rw [octetAt_ipv6Front_six, hfield]
    exact fun other hother ↦ Option.mem_some_iff.mp hother ▸ htransport

theorem ipv4Positions_ipv4Front (ip : Ipv4.Header) (hfield : fieldOverIpv4? protocol = some field) :
    ipv4Positions (ipv4Front protocol length ip) =
      Set.Ico 10 12 ∪ Set.Ico (20 + 2 * field.word) (20 + 2 * field.word + 2) := by
  rw [ipv4Positions, octetAt_ipv4Front_nine, hfield, transportPositions_some, length_ipv4Front]
  rfl

theorem ipv6Positions_ipv6Front (ip : Ipv6.Header) (hfield : fieldOverIpv6? protocol = some field) :
    ipv6Positions (ipv6Front protocol length ip) =
      Set.Ico (40 + 2 * field.word) (40 + 2 * field.word + 2) := by
  rw [ipv6Positions, octetAt_ipv6Front_six, hfield, transportPositions_some, length_ipv6Front]

end Layouts

namespace Patch

theorem length_quotation_le (patch : Patch) : patch.quotation.length ≤ quoteCapacity := by
  cases patch with
  | tcpReset | tcpResetV6 => exact Nat.zero_le _
  | icmpUnreachable captured ip raw => exact List.length_take_le _ _
  | icmpv6Unreachable captured ip raw => simp [quotation]; decide

/-- A patch whose reply is a packet over IPv4. -/
structure OverIpv4 (patch : Patch) : Prop where
  layout : Ipv4Layout patch.front patch.message
  positions : ipv4Positions patch.front = patch.reply.checksumPositions
  forged_eq : patch.forged = sealIpv4 patch.front patch.message

/-- A patch whose reply is a packet over IPv6. -/
structure OverIpv6 (patch : Patch) : Prop where
  layout : Ipv6Layout patch.front patch.message
  positions : ipv6Positions patch.front = patch.reply.checksumPositions
  forged_eq : patch.forged = sealIpv6 patch.front patch.message

theorem overIpv4_tcpReset (captured : Diversion.Address) (ip : Ipv4.Header) (tcp : Tcp.Header)
    (payloadLength : ℕ) : (tcpReset captured ip tcp payloadLength).OverIpv4 where
  layout := ipv4Layout_ipv4Front ip fieldOverIpv4?_tcp rfl (by decide) le_rfl
  positions := ipv4Positions_ipv4Front ip fieldOverIpv4?_tcp
  forged_eq := rfl

theorem overIpv6_tcpResetV6 (captured : Diversion.Address) (ip : Ipv6.Header)
    (tcp : Tcp.Header) (payloadLength : ℕ) :
    (tcpResetV6 captured ip tcp payloadLength).OverIpv6 where
  layout := ipv6Layout_ipv6Front ip fieldOverIpv6?_tcp rfl (by decide) le_rfl
  positions := ipv6Positions_ipv6Front ip fieldOverIpv6?_tcp
  forged_eq := rfl

theorem overIpv4_icmpUnreachable (captured : Diversion.Address) (ip : Ipv4.Header)
    (raw : Bytes) : (icmpUnreachable captured ip raw).OverIpv4 where
  layout := by
    have hquotation := length_quotation_le (icmpUnreachable captured ip raw)
    have hmessage : (icmpUnreachable captured ip raw).message.length =
        8 + (icmpUnreachable captured ip raw).quotation.length := length_unreachableMessage _ _ _
    simp only [quoteCapacity] at hquotation
    refine ipv4Layout_ipv4Front ip fieldOverIpv4?_icmp ?_ ?_ ?_
    · simp only [hmessage, quoteOffset, Ipv4.minimumHeaderLength, Icmp.headerLength]
      omega
    · simp only [quoteOffset, Ipv4.minimumHeaderLength, Icmp.headerLength]
      omega
    · simp only [hmessage, icmpField]
      omega
  positions := ipv4Positions_ipv4Front ip fieldOverIpv4?_icmp
  forged_eq := rfl

theorem overIpv6_icmpv6Unreachable (captured : Diversion.Address) (ip : Ipv6.Header)
    (raw : Bytes) : (icmpv6Unreachable captured ip raw).OverIpv6 where
  layout := by
    have hmessage : (icmpv6Unreachable captured ip raw).message.length =
        Icmp.headerLength + quoteLengthV6 := by
      simp [message, quotation, Icmp.headerLength]
    refine ipv6Layout_ipv6Front ip fieldOverIpv6?_icmp hmessage.symm (by decide) ?_
    rw [hmessage]
    decide
  positions := ipv6Positions_ipv6Front ip fieldOverIpv6?_icmp
  forged_eq := rfl

theorem overIpv4_or_overIpv6 (patch : Patch) : patch.OverIpv4 ∨ patch.OverIpv6 := by
  cases patch with
  | tcpReset captured ip tcp payloadLength => exact Or.inl (overIpv4_tcpReset ..)
  | tcpResetV6 captured ip tcp payloadLength => exact Or.inr (overIpv6_tcpResetV6 ..)
  | icmpUnreachable captured ip raw => exact Or.inl (overIpv4_icmpUnreachable ..)
  | icmpv6Unreachable captured ip raw => exact Or.inr (overIpv6_icmpv6Unreachable ..)

/-- Computing the checksums of a buffer that holds a reply, with anything where the checksums
belong, makes it the forged reply. -/
theorem run_refresh (patch : Patch) {packet rest : Bytes}
    (hagree : AgreeExcept patch.reply.checksumPositions packet
      (patch.front ++ patch.message ++ rest)) :
    Checksum.refresh.run packet = .ok () (patch.forged ++ rest) := by
  rcases patch.overIpv4_or_overIpv6 with hover | hover
  · rw [← hover.positions] at hagree
    rw [run_refresh_ipv4 hover.layout hagree, hover.forged_eq]
  · rw [← hover.positions] at hagree
    rw [run_refresh_ipv6 hover.layout hagree, hover.forged_eq]

/-- The forged reply is made of its parts, but for the checksums. -/
theorem agreeExcept_forged (patch : Patch) :
    AgreeExcept patch.reply.checksumPositions patch.forged (patch.front ++ patch.message) := by
  rcases patch.overIpv4_or_overIpv6 with hover | hover
  · rw [← hover.positions, hover.forged_eq]
    exact agreeExcept_sealIpv4 patch.front patch.message
  · rw [← hover.positions, hover.forged_eq]
    exact agreeExcept_sealIpv6 patch.front patch.message

theorem length_forged (patch : Patch) : patch.forged.length = patch.length :=
  patch.agreeExcept_forged.length_eq.trans List.length_append

/-- Behind its checksums the forged reply is made of its parts without a change. -/
theorem drop_forged (patch : Patch) {offset : ℕ}
    (hoffset : ∀ index ∈ patch.reply.checksumPositions, index < offset) :
    patch.forged.drop offset = (patch.front ++ patch.message).drop offset := by
  refine (patch.agreeExcept_forged.drop offset).eq_of_subset_empty fun index hindex ↦ ?_
  exact Nat.not_lt.mpr (Nat.le_add_right offset index) (hoffset _ hindex)

/-- The checksum of an unreachable message is followed by four zero octets and the quote. -/
theorem drop_forged_of_unreachable {patch : Patch} {kind code : UInt8} {offset : ℕ}
    (hmessage : patch.message = unreachableMessage kind code patch.quotation)
    (hoffset : patch.front.length + 4 = offset)
    (hchecksums : ∀ index ∈ patch.reply.checksumPositions, index < offset) :
    patch.forged.drop offset = blank 4 ++ patch.quotation := by
  have hparts : patch.front ++ patch.message =
      patch.front ++ ([kind, code] ++ blank 2) ++ (blank 4 ++ patch.quotation) := by
    rw [hmessage, List.append_assoc]
    rfl
  rw [drop_forged patch hchecksums, hparts, List.drop_left' (by simpa using hoffset)]

theorem drop_forged_icmpUnreachable (captured : Diversion.Address) (ip : Ipv4.Header)
    (raw : Bytes) :
    (icmpUnreachable captured ip raw).forged.drop 24 =
      blank 4 ++ (icmpUnreachable captured ip raw).quotation := by
  refine drop_forged_of_unreachable rfl (by simp [front]) fun index hindex ↦ ?_
  simp [reply, Reply.checksumPositions] at hindex
  omega

/-- The quote reaches to the end of the message. -/
theorem quote_forged_icmpUnreachable (captured : Diversion.Address) (ip : Ipv4.Header)
    (raw : Bytes) :
    (icmpUnreachable captured ip raw).forged.drop 28 =
      (icmpUnreachable captured ip raw).quotation :=
  drop_add_of_drop (drop_forged_icmpUnreachable captured ip raw) (length_blank 4)

theorem drop_forged_icmpv6Unreachable (captured : Diversion.Address) (ip : Ipv6.Header)
    (raw : Bytes) :
    (icmpv6Unreachable captured ip raw).forged.drop 44 =
      blank 4 ++ (icmpv6Unreachable captured ip raw).quotation := by
  refine drop_forged_of_unreachable rfl (by simp [front]) fun index hindex ↦ ?_
  simp [reply, Reply.checksumPositions] at hindex
  omega

theorem quote_forged_icmpv6Unreachable (captured : Diversion.Address) (ip : Ipv6.Header)
    (raw : Bytes) :
    (icmpv6Unreachable captured ip raw).forged.drop 48 =
      (icmpv6Unreachable captured ip raw).quotation :=
  drop_add_of_drop (drop_forged_icmpv6Unreachable captured ip raw) (length_blank 4)

end Patch

end PacketRefusal
