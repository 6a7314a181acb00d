import PacketRefusal.Proofs.Packet.Carriage

/-!
# Octets that parsing does not look at

Behind the end that its network header announces, a packet is followed by padding of the link layer.
`Packet.parse_append_of_isWhole` says that parsing does not tell a padded packet from a bare one.

Behind its transport header a packet carries payload, of which only the length matters. If two
packets agree up to the end of that header, they are parsed in the same way
(`HeaderEnds.parse_eq`).
-/

set_option autoImplicit false
set_option relaxedAutoImplicit false

namespace PacketRefusal

open Bytes

/-- A packet of either version that has just the length which its own header announces. -/
def IsWhole (packet : Bytes) : Prop :=
  (highNibble (octetAt packet 0) = 4 ∧ packet.length = (wordAt packet 2).toNat) ∨
    (highNibble (octetAt packet 0) = 6 ∧ packet.length = 40 + (wordAt packet 4).toNat)

variable {packet : Bytes}

/-! ### Padding -/

/-- A packet that has the total length in its header has this header field. -/
theorem Ipv4.Header.four_le_length (hversion : highNibble (octetAt packet 0) = 4)
    (hwhole : packet.length = (wordAt packet 2).toNat) : 4 ≤ packet.length := by
  by_contra hshort
  have hlast : octetAt packet 3 = 0 := octetAt_of_length_le (by omega)
  have hsmall := (octetAt packet 2).toNat_lt
  rw [wordAt, hlast, UInt16.toNat_ofNat_of_lt' (by simp [UInt16.size]; omega)] at hwhole
  simp only [UInt8.toNat_zero] at hwhole
  have hempty : packet.length = 0 := by omega
  rw [octetAt_of_length_le (by omega)] at hversion
  cases hversion

theorem Ipv4.Header.parse?_append (hversion : highNibble (octetAt packet 0) = 4)
    (hwhole : packet.length = (wordAt packet 2).toNat) (padding : Bytes) :
    parse? (packet ++ padding) = parse? packet := by
  have hlength := four_le_length hversion hwhole
  rw [parse?_eq, parse?_eq]
  by_cases hstarts : Starts packet
  · rw [if_pos hstarts, if_pos (starts_append hstarts padding), read_append hstarts.1,
      behind_append hstarts, hwhole, Nat.sub_self, List.take_zero, List.append_nil]
  · rw [if_neg hstarts, if_neg]
    rintro ⟨-, hversion, hwords, -, htotal⟩
    rw [octetAt_append_left (by omega)] at hversion hwords htotal
    rw [wordAt_append_left (by omega), ← hwhole] at htotal
    exact hstarts ⟨by rw [minimumHeaderLength]; omega, hversion, hwords, htotal, hwhole ▸ htotal⟩

theorem Ipv6.Header.parse?_append (hversion : highNibble (octetAt packet 0) = 6)
    (hwhole : packet.length = 40 + (wordAt packet 4).toNat) (padding : Bytes) :
    parse? (packet ++ padding) = parse? packet := by
  have hstarts : Starts packet := ⟨by rw [headerLength]; omega, hversion⟩
  rw [parse?_eq, parse?_eq, if_pos hstarts, if_pos (starts_append hstarts padding),
    read_append hstarts.1, behind_append hstarts, hwhole, headerLength, Nat.sub_self,
    List.take_zero, List.append_nil]

namespace Packet

/-- Apart from its octets, a packet is determined by its IPv4 header and the data behind it. -/
theorem parseIpv4_congr {first second : Bytes}
    (hparse : Ipv4.Header.parse? first = Ipv4.Header.parse? second) :
    parseIpv4 first = { parseIpv4 second with raw := first } := by
  rw [parseIpv4, parseIpv4, hparse]
  cases Ipv4.Header.parse? second with
  | none => rfl
  | some found =>
    dsimp only
    split_ifs
    · rfl
    · exact addTransport_raw { raw := second, ipv4 := some found.1 } first

/-- Apart from its octets, a packet is determined by its IPv6 header and the data behind it. -/
theorem parseIpv6_congr {first second : Bytes}
    (hparse : Ipv6.Header.parse? first = Ipv6.Header.parse? second) :
    parseIpv6 first = { parseIpv6 second with raw := first } := by
  rw [parseIpv6, parseIpv6, hparse]
  cases Ipv6.Header.parse? second with
  | none => rfl
  | some found =>
    dsimp only
    cases Ipv6.upperLayer found.1.nextHeader found.2 with
    | none => rfl
    | some handed => exact addTransport_raw { raw := second, ipv6 := some found.1 } first

theorem head?_append_of_highNibble {version : ℕ}
    (hversion : highNibble (octetAt packet 0) = version) (hlength : 0 < packet.length)
    (padding : Bytes) :
    (packet ++ padding).head?.map highNibble = some version := by
  rw [head?_eq_octetAt (by rw [List.length_append]; omega), octetAt_append_left hlength,
    Option.map_some, hversion]

/-- Padding is not seen by parsing. -/
theorem parse_append_of_isWhole (hwhole : IsWhole packet) (padding : Bytes) :
    parse (packet ++ padding) = { parse packet with raw := packet ++ padding } := by
  rcases hwhole with ⟨hversion, hlength⟩ | ⟨hversion, hlength⟩
  · have hshort := Ipv4.Header.four_le_length hversion hlength
    have hbare := head?_append_of_highNibble hversion (by omega) []
    rw [List.append_nil] at hbare
    rw [parse, parse, head?_append_of_highNibble hversion (by omega) padding, hbare]
    exact parseIpv4_congr (Ipv4.Header.parse?_append hversion hlength padding)
  · have hbare := head?_append_of_highNibble hversion (by omega) []
    rw [List.append_nil] at hbare
    rw [parse, parse, head?_append_of_highNibble hversion (by omega) padding, hbare]
    exact parseIpv6_congr (Ipv6.Header.parse?_append hversion hlength padding)

end Packet

/-! ### Payload -/

/-- Packets that begin alike up to a transport header and are equally long are parsed alike. -/
theorem Packet.parse_append_congr {front first second : Bytes}
    (htransport : (parse front).HasTransportHeader) (hlength : first.length = second.length) :
    parse (front ++ second) = { parse (front ++ first) with raw := front ++ second } := by
  obtain ⟨network, protocol, data, hupper⟩ := exists_upper_of_hasTransportHeader htransport
  rw [hupper.parse_eq] at htransport
  obtain ⟨count, -, hcount⟩ := addTransport_append hupper.not_hasTransportHeader htransport
  obtain ⟨room, hlonger⟩ := hupper.append
  have hextra : (first.take room).length = (second.take room).length := by
    rw [List.length_take, List.length_take, hlength]
  rw [(hlonger first).parse_eq, (hlonger second).parse_eq,
    addTransport_raw network (front ++ first), addTransport_raw network (front ++ second), hcount,
    hcount, hextra]

/-- Two packets of one length that agree up to the end of a transport header are parsed alike. -/
theorem HeaderEnds.parse_eq {first second : Bytes} {stop : ℕ} (hends : HeaderEnds first stop)
    (hlength : first.length = second.length) (hagree : first.take stop = second.take stop) :
    Packet.parse second = { Packet.parse first with raw := second } := by
  have hbehind : (first.drop stop).length = (second.drop stop).length := by
    rw [List.length_drop, List.length_drop, hlength]
  have hparse := Packet.parse_append_congr hends.take.hasTransportHeader hbehind
  rwa [List.take_append_drop, hagree, List.take_append_drop] at hparse

end PacketRefusal
