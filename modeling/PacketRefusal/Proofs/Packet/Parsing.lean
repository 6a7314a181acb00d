import Mathlib.Tactic.SplitIfs
import PacketRefusal.Packet
import PacketRefusal.Proofs.Bytes.Append

/-!
# What parsing reports of a packet

`Packet.parse` goes one of four ways, and `Parsed` names them: nothing is recognised, the packet is
a later fragment, its chain of extension headers was cut off, or the network layer hands octets on
under a protocol number, which `Upper` relates to the packet. `parsed_parse` says that these are
all. What the transport layer makes of the octets is `Transported`.

A transport header is only found on the last way. `exists_upper_of_tcp` and `exists_upper_of_udp`
lead from the header back to the octets it was read from, and determine the whole parsed packet.
`ipv4_parse` and `ipv6_parse` say which network header is reported.
-/

set_option autoImplicit false
set_option relaxedAutoImplicit false

namespace PacketRefusal

open Bytes

variable {raw data : Bytes} {protocol : UInt8}

theorem Bytes.lowNibble_lt (octet : UInt8) : lowNibble octet < 16 := Nat.mod_lt _ (by decide)

/-! ### Reading network headers -/

theorem Ipv4.Address.read_eq_of_drop {bytes rest : Bytes} {offset : Nat} {address : Ipv4.Address}
    (hdrop : bytes.drop offset = address.octets ++ rest) : read bytes offset = address := by
  cases address with
  | mk octets hlength => simp only [read, hdrop, fit_append_left hlength]

theorem Ipv6.Address.read_eq_of_drop {bytes rest : Bytes} {offset : Nat} {address : Ipv6.Address}
    (hdrop : bytes.drop offset = address.octets ++ rest) : read bytes offset = address := by
  cases address with
  | mk octets hlength => simp only [read, hdrop, fit_append_left hlength]

/-- The header length of a parsed header is the one announced in its first octet. -/
theorem Ipv4.Header.length_read (raw : Bytes) :
    (read raw).length = 4 * lowNibble (octetAt raw 0) := by
  rw [length, read, UInt8.toNat_ofNat_of_lt' (Nat.lt_trans (lowNibble_lt _) (by decide))]

/-- A first fragment has the offset zero. -/
theorem Ipv4.Header.isLaterFragment_read (raw : Bytes) :
    (read raw).isLaterFragment = false ↔ (wordAt raw 6).toNat % 8192 = 0 := by
  have hsmall : (wordAt raw 6).toNat % 8192 < 65536 :=
    Nat.lt_trans (Nat.mod_lt _ (by decide)) (by decide)
  rw [isLaterFragment, read, bne_eq_false_iff_eq, ← UInt16.toNat_inj,
    UInt16.toNat_ofNat_of_lt' hsmall]
  rfl

/-- The octets behind an IPv4 header, up to the announced end of the packet. -/
def Ipv4.Header.behind (raw : Bytes) : Bytes :=
  (raw.take (wordAt raw 2).toNat).drop (4 * lowNibble (octetAt raw 0))

/-- The octets behind the fixed IPv6 header, up to the announced end of the packet. -/
def Ipv6.Header.behind (raw : Bytes) : Bytes :=
  (raw.take (headerLength + (wordAt raw 4).toNat)).drop headerLength

theorem Ipv4.Header.parse?_eq (raw : Bytes) :
    parse? raw = if Starts raw then some (read raw, behind raw) else none := by
  rw [parse?, behind, ← length_read]
  rfl

theorem Ipv6.Header.parse?_eq (raw : Bytes) :
    parse? raw = if Starts raw then some (read raw, behind raw) else none := rfl

/-! ### Transport headers -/

/-- A datagram was captured and announced up to the end of its UDP header. -/
theorem Udp.Header.end_le {start stop : Nat} (hstarts : Starts ((raw.take stop).drop start)) :
    start + 8 ≤ min raw.length stop := by
  have hheader := hstarts.1
  rw [List.length_drop, List.length_take, headerLength] at hheader
  omega

namespace Packet

/-- What adding a transport header makes of a packet. -/
inductive Transported (packet : Packet) (protocol : UInt8) (data : Bytes) : Packet → Prop
  | tcp (hprotocol : protocol = Tcp.protocol) (hstarts : Tcp.Header.Starts data) :
    Transported packet protocol data
      { packet with
        tcp := some (.read data)
        payloadLength := data.length - Tcp.Header.announcedLength data }
  | udp (hprotocol : protocol = Udp.protocol) (hstarts : Udp.Header.Starts data) :
    Transported packet protocol data
      { packet with
        udp := some (.read data)
        payloadLength := min (Udp.Header.announcedLength data) data.length - Udp.headerLength }
  | icmp (hprotocol : protocol = Icmp.protocol) (hipv4 : packet.ipv4.isSome)
      (hlength : Icmp.headerLength ≤ data.length) :
    Transported packet protocol data
      { packet with
        icmp := some ⟨octetAt data 0, octetAt data 1⟩
        payloadLength := data.length - Icmp.headerLength }
  | icmpv6 (hprotocol : protocol = Icmp.protocolV6) (hipv6 : packet.ipv6.isSome)
      (hlength : Icmp.headerLength ≤ data.length) :
    Transported packet protocol data
      { packet with
        icmpv6 := some ⟨octetAt data 0, octetAt data 1⟩
        payloadLength := data.length - Icmp.headerLength }
  | absent
      (habsent : (protocol = Tcp.protocol ∧ ¬Tcp.Header.Starts data) ∨
        (protocol = Udp.protocol ∧ ¬Udp.Header.Starts data) ∨
        ((protocol = Icmp.protocol ∨ protocol = Icmp.protocolV6) ∧
          data.length < Icmp.headerLength)) :
    Transported packet protocol data packet
  | unknown (htcp : protocol ≠ Tcp.protocol) (hudp : protocol ≠ Udp.protocol)
      (hicmp : ¬(protocol = Icmp.protocol ∧ packet.ipv4.isSome))
      (hicmpv6 : ¬(protocol = Icmp.protocolV6 ∧ packet.ipv6.isSome)) :
    Transported packet protocol data { packet with payloadLength := data.length }

/-- A TCP header that is there is added. -/
theorem addTransport_tcp (packet : Packet) (hstarts : Tcp.Header.Starts data) :
    packet.addTransport Tcp.protocol data =
      { packet with
        tcp := some (.read data)
        payloadLength := data.length - Tcp.Header.announcedLength data } := by
  rw [addTransport, if_pos rfl, Tcp.Header.parse?, if_pos hstarts]
  simp [withTransport]

/-- A UDP header that is there is added. -/
theorem addTransport_udp (packet : Packet) (hstarts : Udp.Header.Starts data) :
    packet.addTransport Udp.protocol data =
      { packet with
        udp := some (.read data)
        payloadLength :=
          min (Udp.Header.announcedLength data) data.length - Udp.headerLength } := by
  rw [addTransport, if_neg (by decide), if_pos rfl, Udp.Header.parse?, if_pos hstarts]
  simp [withTransport]

/-- An ICMP header that is there is added behind IPv4. -/
theorem addTransport_icmp (packet : Packet) (hipv4 : packet.ipv4.isSome)
    (hlength : Icmp.headerLength ≤ data.length) :
    packet.addTransport Icmp.protocol data =
      { packet with
        icmp := some ⟨octetAt data 0, octetAt data 1⟩
        payloadLength := data.length - Icmp.headerLength } := by
  rw [addTransport, if_neg (by decide), if_neg (by decide), if_pos ⟨rfl, hipv4⟩,
    Icmp.Header.parse?, if_pos hlength]
  simp [withTransport]

/-- An ICMPv6 header that is there is added behind IPv6. -/
theorem addTransport_icmpv6 (packet : Packet) (hipv6 : packet.ipv6.isSome)
    (hlength : Icmp.headerLength ≤ data.length) :
    packet.addTransport Icmp.protocolV6 data =
      { packet with
        icmpv6 := some ⟨octetAt data 0, octetAt data 1⟩
        payloadLength := data.length - Icmp.headerLength } := by
  have hicmp : ¬(Icmp.protocolV6 = Icmp.protocol ∧ packet.ipv4.isSome) := fun h ↦
    absurd h.1 (by decide)
  rw [addTransport, if_neg (by decide), if_neg (by decide), if_neg hicmp, if_pos ⟨rfl, hipv6⟩,
    Icmp.Header.parse?, if_pos hlength]
  simp [withTransport]

/-- Under a number of no transport protocol all octets are payload. -/
theorem addTransport_unknown (packet : Packet) (htcp : protocol ≠ Tcp.protocol)
    (hudp : protocol ≠ Udp.protocol) (hicmp : ¬(protocol = Icmp.protocol ∧ packet.ipv4.isSome))
    (hicmpv6 : ¬(protocol = Icmp.protocolV6 ∧ packet.ipv6.isSome)) :
    packet.addTransport protocol data = { packet with payloadLength := data.length } := by
  rw [addTransport, if_neg htcp, if_neg hudp, if_neg hicmp, if_neg hicmpv6]

theorem transported_addTransport (packet : Packet) (protocol : UInt8) (data : Bytes) :
    Transported packet protocol data (packet.addTransport protocol data) := by
  rw [addTransport]
  split_ifs with htcp hudp hicmp hicmpv6
  · rw [Tcp.Header.parse?]
    split_ifs with hstarts
    · simpa [withTransport] using Transported.tcp htcp hstarts
    · exact .absent (Or.inl ⟨htcp, hstarts⟩)
  · rw [Udp.Header.parse?]
    split_ifs with hstarts
    · simpa [withTransport] using Transported.udp hudp hstarts
    · exact .absent (Or.inr (Or.inl ⟨hudp, hstarts⟩))
  · rw [Icmp.Header.parse?]
    split_ifs with hlength
    · simpa [withTransport] using Transported.icmp hicmp.1 hicmp.2 hlength
    · exact .absent (Or.inr (Or.inr ⟨Or.inl hicmp.1, Nat.lt_of_not_le hlength⟩))
  · rw [Icmp.Header.parse?]
    split_ifs with hlength
    · simpa [withTransport] using Transported.icmpv6 hicmpv6.1 hicmpv6.2 hlength
    · exact .absent (Or.inr (Or.inr ⟨Or.inr hicmpv6.1, Nat.lt_of_not_le hlength⟩))
  · exact .unknown htcp hudp hicmp hicmpv6

/-! ### The four ways -/

/-- The network layer of a packet hands octets on under a protocol number. The packet as parsed so
far has the network header and nothing else. -/
inductive Upper (raw : Bytes) : Packet → UInt8 → Bytes → Prop
  | ipv4 (hstarts : Ipv4.Header.Starts raw) (hoffset : (wordAt raw 6).toNat % 8192 = 0) :
    Upper raw { raw, ipv4 := some (.read raw) } (octetAt raw 9) (Ipv4.Header.behind raw)
  | ipv6 {protocol : UInt8} {data : Bytes} (hstarts : Ipv6.Header.Starts raw)
      (hupper : Ipv6.upperLayer (octetAt raw 6) (Ipv6.Header.behind raw) = some (protocol, data)) :
    Upper raw { raw, ipv6 := some (.read raw) } protocol data

/-- The ways in which parsing goes, with what comes out. -/
inductive Parsed (raw : Bytes) : Packet → Prop
  | unrecognised (hipv4 : ¬Ipv4.Header.Starts raw) (hipv6 : ¬Ipv6.Header.Starts raw) :
    Parsed raw (unrecognised raw)
  | laterFragment (hstarts : Ipv4.Header.Starts raw)
      (hoffset : (wordAt raw 6).toNat % 8192 ≠ 0) :
    Parsed raw
      { raw, ipv4 := some (.read raw), payloadLength := (Ipv4.Header.behind raw).length }
  | cutChain (hstarts : Ipv6.Header.Starts raw)
      (hupper : Ipv6.upperLayer (octetAt raw 6) (Ipv6.Header.behind raw) = none) :
    Parsed raw { raw, ipv6 := some (.read raw) }
  | handedOn {network packet : Packet} {protocol : UInt8} {data : Bytes}
      (hupper : Upper raw network protocol data)
      (htransported : Transported network protocol data packet) : Parsed raw packet

theorem parsed_parseIpv4 (hipv6 : ¬Ipv6.Header.Starts raw) : Parsed raw (parseIpv4 raw) := by
  rw [parseIpv4, Ipv4.Header.parse?_eq]
  by_cases hstarts : Ipv4.Header.Starts raw
  · simp only [if_pos hstarts]
    cases hlater : (Ipv4.Header.read raw).isLaterFragment with
    | false =>
      exact .handedOn (.ipv4 hstarts ((Ipv4.Header.isLaterFragment_read raw).mp hlater))
        (transported_addTransport _ _ _)
    | true =>
      refine .laterFragment hstarts ?_
      intro hoffset
      rw [(Ipv4.Header.isLaterFragment_read raw).mpr hoffset] at hlater
      cases hlater
  · simp only [if_neg hstarts]
    exact .unrecognised hstarts hipv6

theorem parsed_parseIpv6 (hipv4 : ¬Ipv4.Header.Starts raw) : Parsed raw (parseIpv6 raw) := by
  rw [parseIpv6, Ipv6.Header.parse?_eq]
  by_cases hstarts : Ipv6.Header.Starts raw
  · simp only [if_pos hstarts]
    cases hupper : Ipv6.upperLayer (Ipv6.Header.read raw).nextHeader (Ipv6.Header.behind raw) with
    | none => exact .cutChain hstarts hupper
    | some handed =>
      exact .handedOn (.ipv6 hstarts hupper) (transported_addTransport _ _ _)
  · simp only [if_neg hstarts]
    exact .unrecognised hipv4 hstarts

theorem head?_highNibble_ipv4 (hstarts : Ipv4.Header.Starts raw) :
    raw.head?.map highNibble = some 4 := by
  rw [head?_eq_octetAt (Nat.lt_of_lt_of_le (by decide) hstarts.1), Option.map_some, hstarts.2.1]

theorem head?_highNibble_ipv6 (hstarts : Ipv6.Header.Starts raw) :
    raw.head?.map highNibble = some 6 := by
  rw [head?_eq_octetAt (Nat.lt_of_lt_of_le (by decide) hstarts.1), Option.map_some, hstarts.2]

/-- Parsing goes one of the four ways. -/
theorem parsed_parse (raw : Bytes) : Parsed raw (parse raw) := by
  rw [parse]
  split
  · next hversion =>
    exact parsed_parseIpv4 fun hstarts ↦ by
      simp [head?_highNibble_ipv6 hstarts] at hversion
  · next hversion =>
    exact parsed_parseIpv6 fun hstarts ↦ by
      simp [head?_highNibble_ipv4 hstarts] at hversion
  · next hfour hsix =>
    exact .unrecognised (fun hstarts ↦ hfour (head?_highNibble_ipv4 hstarts))
      fun hstarts ↦ hsix (head?_highNibble_ipv6 hstarts)

/-- A packet whose network layer hands octets on is parsed by looking for a transport header in
them. -/
theorem Upper.parse_eq {network : Packet} (hupper : Upper raw network protocol data) :
    parse raw = network.addTransport protocol data := by
  cases hupper with
  | ipv4 hstarts hoffset =>
    have hlater := (Ipv4.Header.isLaterFragment_read raw).mpr hoffset
    rw [parse, head?_highNibble_ipv4 hstarts]
    simp only [parseIpv4, Ipv4.Header.parse?_eq, if_pos hstarts, hlater]
    rfl
  | ipv6 hstarts hupper =>
    have hread : Ipv6.upperLayer (Ipv6.Header.read raw).nextHeader (Ipv6.Header.behind raw) =
        some (protocol, data) := hupper
    rw [parse, head?_highNibble_ipv6 hstarts]
    simp only [parseIpv6, Ipv6.Header.parse?_eq, if_pos hstarts, hread]

/-! ### Network headers -/

theorem not_starts_ipv6 (hstarts : Ipv4.Header.Starts raw) : ¬Ipv6.Header.Starts raw :=
  fun hother ↦ absurd (hstarts.2.1.symm.trans hother.2) (by decide)

/-- What a packet reports of its octets and of its network header. -/
theorem Upper.network {network : Packet} (hupper : Upper raw network protocol data) :
    network.raw = raw ∧
      network.ipv4 = (if Ipv4.Header.Starts raw then some (.read raw) else none) ∧
      network.ipv6 = (if Ipv6.Header.Starts raw then some (.read raw) else none) := by
  cases hupper with
  | ipv4 hstarts hoffset =>
    rw [if_pos hstarts, if_neg (not_starts_ipv6 hstarts)]
    exact ⟨rfl, rfl, rfl⟩
  | ipv6 hstarts hupper =>
    rw [if_pos hstarts, if_neg fun hother ↦ not_starts_ipv6 hother hstarts]
    exact ⟨rfl, rfl, rfl⟩

theorem Parsed.network {packet : Packet} (hparsed : Parsed raw packet) :
    packet.raw = raw ∧
      packet.ipv4 = (if Ipv4.Header.Starts raw then some (.read raw) else none) ∧
      packet.ipv6 = (if Ipv6.Header.Starts raw then some (.read raw) else none) := by
  cases hparsed with
  | unrecognised hipv4 hipv6 =>
    rw [if_neg hipv4, if_neg hipv6]
    exact ⟨rfl, rfl, rfl⟩
  | laterFragment hstarts hoffset =>
    rw [if_pos hstarts, if_neg (not_starts_ipv6 hstarts)]
    exact ⟨rfl, rfl, rfl⟩
  | cutChain hstarts hupper =>
    rw [if_pos hstarts, if_neg fun hother ↦ not_starts_ipv6 hother hstarts]
    exact ⟨rfl, rfl, rfl⟩
  | handedOn hupper htransported => cases htransported <;> exact hupper.network

theorem raw_parse (raw : Bytes) : (parse raw).raw = raw := (parsed_parse raw).network.1

/-- The IPv4 header of a packet is the one it starts with. -/
theorem ipv4_parse (raw : Bytes) :
    (parse raw).ipv4 = if Ipv4.Header.Starts raw then some (.read raw) else none :=
  (parsed_parse raw).network.2.1

/-- The IPv6 header of a packet is the one it starts with. -/
theorem ipv6_parse (raw : Bytes) :
    (parse raw).ipv6 = if Ipv6.Header.Starts raw then some (.read raw) else none :=
  (parsed_parse raw).network.2.2

/-- No packet has network headers of both versions. -/
theorem ipv6_parse_eq_none (hipv4 : (parse raw).ipv4.isSome) : (parse raw).ipv6 = none := by
  rw [ipv4_parse] at hipv4
  rw [ipv6_parse, if_neg]
  intro hstarts
  rw [if_neg fun hother ↦ not_starts_ipv6 hother hstarts] at hipv4
  cases hipv4

theorem ipv4_parse_eq_none (hipv6 : (parse raw).ipv6.isSome) : (parse raw).ipv4 = none := by
  refine Option.not_isSome_iff_eq_none.mp fun hipv4 ↦ ?_
  rw [ipv6_parse_eq_none hipv4] at hipv6
  cases hipv6

/-! ### Back from a transport header -/

theorem Upper.tcp_eq_none {network : Packet} (hupper : Upper raw network protocol data) :
    network.tcp = none := by
  cases hupper <;> rfl

theorem Upper.udp_eq_none {network : Packet} (hupper : Upper raw network protocol data) :
    network.udp = none := by
  cases hupper <;> rfl

/-- A TCP header was read from the octets that the network layer hands on. -/
theorem exists_upper_of_tcp {tcp : Tcp.Header} (htcp : (parse raw).tcp = some tcp) :
    ∃ network data, Upper raw network Tcp.protocol data ∧ Tcp.Header.Starts data ∧
      tcp = .read data ∧
      parse raw =
        { network with
          tcp := some tcp, payloadLength := data.length - Tcp.Header.announcedLength data } := by
  have hparsed := parsed_parse raw
  generalize parse raw = packet at hparsed htcp
  cases hparsed with
  | unrecognised | laterFragment | cutChain => cases htcp
  | @handedOn network _ protocol data hupper htransported =>
    have hnone := hupper.tcp_eq_none
    cases htransported with
    | tcp hprotocol hstarts =>
      subst hprotocol
      cases htcp
      exact ⟨network, data, hupper, hstarts, rfl, rfl⟩
    | _ => exact absurd (hnone.symm.trans htcp) nofun

/-- No packet has a TCP and a UDP header. -/
theorem udp_parse_eq_none (htcp : (parse raw).tcp.isSome) : (parse raw).udp = none := by
  obtain ⟨tcp, htcp⟩ := Option.isSome_iff_exists.mp htcp
  obtain ⟨network, data, hupper, -, -, hparse⟩ := exists_upper_of_tcp htcp
  rw [hparse]
  exact hupper.udp_eq_none

theorem tcp_parse_eq_none (hudp : (parse raw).udp.isSome) : (parse raw).tcp = none := by
  refine Option.not_isSome_iff_eq_none.mp fun htcp ↦ ?_
  rw [udp_parse_eq_none htcp] at hudp
  cases hudp

/-- A UDP header was read from the octets that the network layer hands on. -/
theorem exists_upper_of_udp {udp : Udp.Header} (hudp : (parse raw).udp = some udp) :
    ∃ network data, Upper raw network Udp.protocol data ∧ Udp.Header.Starts data ∧
      udp = .read data ∧
      parse raw =
        { network with
          udp := some udp
          payloadLength :=
            min (Udp.Header.announcedLength data) data.length - Udp.headerLength } := by
  have hparsed := parsed_parse raw
  generalize parse raw = packet at hparsed hudp
  cases hparsed with
  | unrecognised | laterFragment | cutChain => cases hudp
  | @handedOn network _ protocol data hupper htransported =>
    have hnone := hupper.udp_eq_none
    cases htransported with
    | udp hprotocol hstarts =>
      subst hprotocol
      cases hudp
      exact ⟨network, data, hupper, hstarts, rfl, rfl⟩
    | _ => exact absurd (hnone.symm.trans hudp) nofun

end Packet

end PacketRefusal
