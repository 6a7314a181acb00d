import PacketRefusal.Proofs.Wire.Network

/-!
# Parsing recovers what was sent

`Composition` is a well-formed packet over either version: an envelope with any options or extension
headers around any content that fits, under the number of its protocol. `Composition.packet` is what
there is to find in it: the network header, the transport header, and the length of the payload.
`Composition.parse_octets` says that parsing finds just that, with any padding behind the packet.

The layers were dealt with one by one: the content in `PacketRefusal.Proofs.Wire.Segment`, the
envelopes in `PacketRefusal.Proofs.Wire.Network`, and padding in
`PacketRefusal.Proofs.Packet.Padding`.
-/

set_option autoImplicit false
set_option relaxedAutoImplicit false

namespace PacketRefusal

open Bytes

/-- A packet as its sender composes it. What it carries fits into the range of the length field, and
a content without a transport header has a number that no header is recognised under. -/
inductive Composition
  | overIpv4 (envelope : Ipv4.Envelope) (content : Content)
      (hfree : content.NumberFree Icmp.protocol)
      (hfits : envelope.totalLength content.octets < 65536)
  | overIpv6 (envelope : Ipv6.Envelope) (content : Content)
      (hfree : content.NumberFree Icmp.protocolV6)
      (hcarries : ¬Ipv6.CarriesLength (content.protocol Icmp.protocolV6))
      (hfragment : content.protocol Icmp.protocolV6 ≠ Ipv6.fragment)
      (hfits : envelope.payloadLength (content.protocol Icmp.protocolV6) content.octets < 65536)

namespace Composition

def octets : Composition → Bytes
  | overIpv4 envelope content _ _ =>
    envelope.octets (content.protocol Icmp.protocol) content.octets
  | overIpv6 envelope content _ _ _ _ =>
    envelope.octets (content.protocol Icmp.protocolV6) content.octets

def content : Composition → Content
  | overIpv4 _ content _ _ => content
  | overIpv6 _ content _ _ _ _ => content

def networkHeaders : Composition → Headers
  | overIpv4 envelope content _ _ =>
    { ipv4 := some (envelope.header (content.protocol Icmp.protocol) content.octets) }
  | overIpv6 envelope content _ _ _ _ =>
    { ipv6 := some (envelope.header (content.protocol Icmp.protocolV6) content.octets) }

/-- What there is to find in the packet, among captured octets: its two headers and no other one,
and the length of its payload. -/
def packet (composition : Composition) (raw : Bytes) : Packet where
  toHeaders := composition.content.addHeader composition.networkHeaders
  raw := raw
  payloadLength := composition.content.payload.length

variable (composition : Composition)

theorem isWhole_octets : IsWhole composition.octets := by
  cases composition with
  | overIpv4 envelope content hfree hfits => exact envelope.isWhole_octets _ hfits
  | overIpv6 envelope content hfree hcarries hfragment hfits =>
    exact envelope.isWhole_octets _ hfits

/-- Parsing a packet without padding finds what there is to find. -/
theorem parse_octets_eq :
    Packet.parse composition.octets = composition.packet composition.octets := by
  cases composition with
  | overIpv4 envelope content hfree hfits =>
    have hcontent : content.octets.length < 65536 :=
      Nat.lt_of_le_of_lt (Nat.le_add_left _ _) hfits
    have hupper := envelope.upper_octets (content.protocol Icmp.protocol) hfits
    rw [octets, hupper.parse_eq,
      content.addTransport_octets (Or.inl ⟨rfl, rfl, rfl⟩) hfree hcontent]
    rfl
  | overIpv6 envelope content hfree hcarries hfragment hfits =>
    have hcontent : content.octets.length < 65536 :=
      Nat.lt_of_le_of_lt (Nat.le_add_left _ _) hfits
    have hupper := envelope.upper_octets _ hcarries hfragment hfits
    rw [octets, hupper.parse_eq,
      content.addTransport_octets (Or.inr ⟨rfl, rfl, rfl⟩) hfree hcontent]
    rfl

/-- Parsing recovers every well-formed packet, whatever padding follows it: just its network header,
just the transport header of its content if there is one, and the length of its payload. -/
theorem parse_octets (padding : Bytes) :
    Packet.parse (composition.octets ++ padding) =
      composition.packet (composition.octets ++ padding) := by
  rw [Packet.parse_append_of_isWhole composition.isWhole_octets, parse_octets_eq]
  rfl

example :
    (overIpv6
      { classHigh := 0, classLowFlowHigh := 0, flowLow := 0, hopLimit := 64
        source := ⟨List.replicate 15 0 ++ [1], rfl⟩
        destination := ⟨List.replicate 15 0 ++ [2], rfl⟩
        extensions := [.carried Ipv6.hopByHop (by decide) 0 [1, 4, 0, 0, 0, 0] rfl,
          .firstFragment 0 1 7] }
      (.udp ⟨⟨12345, 53⟩, 0xBEEF, [0x61]⟩) trivial (by decide) (by decide) (by decide)).octets =
      [0x60, 0, 0, 0, 0, 25, 0, 64] ++ List.replicate 15 0 ++ [1] ++ List.replicate 15 0 ++ [2] ++
        [44, 0, 1, 4, 0, 0, 0, 0] ++ [17, 0, 0, 1, 0, 0, 0, 7] ++
        [0x30, 0x39, 0, 53, 0, 9, 0xBE, 0xEF, 0x61] := rfl

end Composition

end PacketRefusal
