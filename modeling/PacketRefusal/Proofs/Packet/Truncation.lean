import PacketRefusal.Proofs.Ipv6.Chain
import PacketRefusal.Proofs.Packet.Parsing

/-!
# Packets of which a part was captured

A receiving buffer may be shorter than a packet, so that parsing sees only the first octets of it.
No matter where the packet was cut, what is found in the part is found in the whole as well. The
lemmas compare a byte string with a longer one, `part ++ more`.

Headers are read from their own octets: `Ipv4.Header.read_append`, `Tcp.Header.read_append` and
their counterparts. What the network layer hands on grows at its end only (`Packet.Upper.append`).
So a transport header that was captured settles all headers (`Packet.headers_parse_append`), and in
general headers are only added (`Packet.within_parse_append`) and the payload only grows
(`Packet.payloadLength_parse_append`).
-/

set_option autoImplicit false
set_option relaxedAutoImplicit false

namespace PacketRefusal

open Bytes

/-- Every header of the first packet is a header of the second one, with the same fields. -/
structure Headers.Within (first second : Headers) : Prop where
  ipv4 : ∀ header ∈ first.ipv4, header ∈ second.ipv4
  ipv6 : ∀ header ∈ first.ipv6, header ∈ second.ipv6
  icmp : ∀ header ∈ first.icmp, header ∈ second.icmp
  icmpv6 : ∀ header ∈ first.icmpv6, header ∈ second.icmpv6
  tcp : ∀ header ∈ first.tcp, header ∈ second.tcp
  udp : ∀ header ∈ first.udp, header ∈ second.udp

/-- A packet has a transport header when it is one of the four that are recognised. -/
def Headers.HasTransportHeader (headers : Headers) : Prop :=
  headers.icmp.isSome ∨ headers.icmpv6.isSome ∨ headers.tcp.isSome ∨ headers.udp.isSome

variable {part : Bytes}

/-! ### Network headers -/

namespace Ipv4

theorem Address.read_append {offset : Nat} (hfit : offset + 4 ≤ part.length) (more : Bytes) :
    read (part ++ more) offset = read part offset := by
  simp only [read, fit_drop_append_left hfit]

namespace Header

theorem read_append (hlength : minimumHeaderLength ≤ part.length) (more : Bytes) :
    read (part ++ more) = read part := by
  simp only [minimumHeaderLength] at hlength
  rw [read, read, octetAt_append_left (by omega), octetAt_append_left (by omega),
    wordAt_append_left (by omega), wordAt_append_left (by omega),
    Address.read_append (by omega), Address.read_append (by omega)]

theorem starts_append (hstarts : Starts part) (more : Bytes) : Starts (part ++ more) := by
  have hlength : 20 ≤ part.length := hstarts.1
  rw [Starts, octetAt_append_left (by omega), wordAt_append_left (by omega), List.length_append]
  exact ⟨Nat.le_add_right_of_le hstarts.1, hstarts.2.1, hstarts.2.2.1,
    Nat.le_add_right_of_le hstarts.2.2.2.1, hstarts.2.2.2.2⟩

/-- The octets behind an IPv4 header go on within the announced length. -/
theorem behind_append (hstarts : Starts part) (more : Bytes) :
    behind (part ++ more) = behind part ++ more.take ((wordAt part 2).toNat - part.length) := by
  have hlength : 20 ≤ part.length := hstarts.1
  have hheader : 4 * lowNibble (octetAt part 0) ≤ (part.take (wordAt part 2).toNat).length := by
    rw [List.length_take]
    exact Nat.le_min.mpr ⟨hstarts.2.2.2.2, hstarts.2.2.2.1⟩
  rw [behind, octetAt_append_left (by omega), wordAt_append_left (by omega), List.take_append,
    List.drop_append_of_le_length hheader, behind]

end Header

end Ipv4

namespace Ipv6

theorem Address.read_append {offset : Nat} (hfit : offset + 16 ≤ part.length) (more : Bytes) :
    read (part ++ more) offset = read part offset := by
  simp only [read, fit_drop_append_left hfit]

namespace Header

theorem read_append (hlength : headerLength ≤ part.length) (more : Bytes) :
    read (part ++ more) = read part := by
  simp only [headerLength] at hlength
  rw [read, read, octetAt_append_left (by omega), wordAt_append_left (by omega),
    Address.read_append (by omega), Address.read_append (by omega)]

theorem starts_append (hstarts : Starts part) (more : Bytes) : Starts (part ++ more) := by
  have hlength : 40 ≤ part.length := hstarts.1
  rw [Starts, octetAt_append_left (by omega), List.length_append]
  exact ⟨Nat.le_add_right_of_le hstarts.1, hstarts.2⟩

/-- The octets behind an IPv6 header go on within the announced length. -/
theorem behind_append (hstarts : Starts part) (more : Bytes) :
    behind (part ++ more) =
      behind part ++ more.take (headerLength + (wordAt part 4).toNat - part.length) := by
  have hlength : 40 ≤ part.length := hstarts.1
  have hheader : headerLength ≤ (part.take (headerLength + (wordAt part 4).toNat)).length := by
    rw [List.length_take]
    exact Nat.le_min.mpr ⟨Nat.le_add_right _ _, hstarts.1⟩
  rw [behind, wordAt_append_left (by omega), List.take_append,
    List.drop_append_of_le_length hheader, behind]

end Header

end Ipv6

/-! ### Transport headers -/

namespace Tcp.Header

theorem announcedLength_append (hlength : minimumHeaderLength ≤ part.length) (more : Bytes) :
    announcedLength (part ++ more) = announcedLength part := by
  simp only [minimumHeaderLength] at hlength
  rw [announcedLength, octetAt_append_left (by omega), announcedLength]

theorem read_append (hlength : minimumHeaderLength ≤ part.length) (more : Bytes) :
    read (part ++ more) = read part := by
  simp only [minimumHeaderLength] at hlength
  rw [read, read, wordAt_append_left (by omega), wordAt_append_left (by omega),
    longAt_append_left (by omega), longAt_append_left (by omega), octetAt_append_left (by omega)]

theorem starts_append (hstarts : Starts part) (more : Bytes) : Starts (part ++ more) := by
  rw [Starts, announcedLength_append hstarts.1, List.length_append]
  exact ⟨Nat.le_add_right_of_le hstarts.1, hstarts.2.1, Nat.le_add_right_of_le hstarts.2.2⟩

end Tcp.Header

namespace Udp.Header

theorem announcedLength_append (hlength : headerLength ≤ part.length) (more : Bytes) :
    announcedLength (part ++ more) = announcedLength part := by
  simp only [headerLength] at hlength
  rw [announcedLength, wordAt_append_left (by omega), announcedLength]

theorem read_append (hlength : headerLength ≤ part.length) (more : Bytes) :
    read (part ++ more) = read part := by
  simp only [headerLength] at hlength
  rw [read, read, wordAt_append_left (by omega), wordAt_append_left (by omega)]

theorem starts_append (hstarts : Starts part) (more : Bytes) : Starts (part ++ more) := by
  rw [Starts, announcedLength_append hstarts.1, List.length_append]
  exact ⟨Nat.le_add_right_of_le hstarts.1, hstarts.2⟩

end Udp.Header

namespace Packet

variable {protocol : UInt8} {data : Bytes}

/-- What the network layer hands on grows at its end only, up to the end that is announced. -/
theorem Upper.append {network : Packet} (hupper : Upper part network protocol data) :
    ∃ room, ∀ more, Upper (part ++ more) { network with raw := part ++ more } protocol
      (data ++ more.take room) := by
  cases hupper with
  | ipv4 hstarts hoffset =>
    have hlength : 20 ≤ part.length := hstarts.1
    refine ⟨(wordAt part 2).toNat - part.length, fun more ↦ ?_⟩
    have hprotocol : octetAt (part ++ more) 9 = octetAt part 9 := octetAt_append_left (by omega)
    rw [← Ipv4.Header.behind_append hstarts more, ← Ipv4.Header.read_append hstarts.1 more,
      ← hprotocol]
    refine .ipv4 (Ipv4.Header.starts_append hstarts more) ?_
    rwa [wordAt_append_left (by omega)]
  | ipv6 hstarts hupper =>
    have hlength : 40 ≤ part.length := hstarts.1
    refine ⟨Ipv6.headerLength + (wordAt part 4).toNat - part.length, fun more ↦ ?_⟩
    rw [← Ipv6.Header.read_append hstarts.1 more]
    refine .ipv6 (Ipv6.Header.starts_append hstarts more) ?_
    rw [octetAt_append_left (by omega), Ipv6.Header.behind_append hstarts more]
    exact Ipv6.upperLayer_append hupper _

/-- Before its transport header is looked for, a packet has none. -/
theorem Upper.not_hasTransportHeader {network : Packet}
    (hupper : Upper part network protocol data) : ¬network.HasTransportHeader := by
  cases hupper <;> simp [Headers.HasTransportHeader]

theorem Upper.payloadLength_eq_zero {network : Packet}
    (hupper : Upper part network protocol data) : network.payloadLength = 0 := by
  cases hupper <;> rfl

/-- Which headers are found does not depend on the octets that are kept with them. -/
theorem addTransport_raw (packet : Packet) (raw : Bytes) :
    ({ packet with raw } : Packet).addTransport protocol data =
      { packet.addTransport protocol data with raw } := by
  have hwithTransport {header : Type} (add : Headers → header → Headers)
      (found : Option (header × Bytes)) :
      ({ packet with raw } : Packet).withTransport add found =
        { packet.withTransport add found with raw } := by
    cases found <;> rfl
  rw [addTransport, addTransport]
  simp only [hwithTransport]
  split_ifs <;> rfl

/-- A transport header that was captured is found whatever follows it. The payload depends only on
how many octets follow, and does not shrink with them. -/
theorem addTransport_append {network : Packet} (hbare : ¬network.HasTransportHeader)
    (hfound : (network.addTransport protocol data).HasTransportHeader) :
    ∃ count : Nat → Nat, (∀ fewer more, fewer ≤ more → count fewer ≤ count more) ∧
      ∀ extra, network.addTransport protocol (data ++ extra) =
        { network.addTransport protocol data with payloadLength := count extra.length } := by
  have htransported := transported_addTransport network protocol data
  generalize network.addTransport protocol data = packet at htransported hfound
  cases htransported with
  | tcp hprotocol hstarts =>
    subst hprotocol
    refine ⟨fun extra ↦ data.length + extra - Tcp.Header.announcedLength data,
      fun fewer more hle ↦ Nat.sub_le_sub_right (Nat.add_le_add_left hle _) _, fun extra ↦ ?_⟩
    rw [addTransport_tcp network (Tcp.Header.starts_append hstarts extra),
      Tcp.Header.read_append hstarts.1, Tcp.Header.announcedLength_append hstarts.1,
      List.length_append]
  | udp hprotocol hstarts =>
    subst hprotocol
    refine ⟨fun extra ↦
      min (Udp.Header.announcedLength data) (data.length + extra) - Udp.headerLength,
      fun fewer more hle ↦ by dsimp only; omega, fun extra ↦ ?_⟩
    rw [addTransport_udp network (Udp.Header.starts_append hstarts extra),
      Udp.Header.read_append hstarts.1, Udp.Header.announcedLength_append hstarts.1,
      List.length_append]
  | icmp hprotocol hipv4 hlength =>
    subst hprotocol
    have hshort : 8 ≤ data.length := hlength
    refine ⟨fun extra ↦ data.length + extra - Icmp.headerLength,
      fun fewer more hle ↦ Nat.sub_le_sub_right (Nat.add_le_add_left hle _) _, fun extra ↦ ?_⟩
    rw [addTransport_icmp network hipv4 (by rw [List.length_append]; omega),
      octetAt_append_left (by omega), octetAt_append_left (by omega), List.length_append]
  | icmpv6 hprotocol hipv6 hlength =>
    subst hprotocol
    have hshort : 8 ≤ data.length := hlength
    refine ⟨fun extra ↦ data.length + extra - Icmp.headerLength,
      fun fewer more hle ↦ Nat.sub_le_sub_right (Nat.add_le_add_left hle _) _, fun extra ↦ ?_⟩
    rw [addTransport_icmpv6 network hipv6 (by rw [List.length_append]; omega),
      octetAt_append_left (by omega), octetAt_append_left (by omega), List.length_append]
  | absent | unknown => exact absurd hfound hbare

/-! ### Parsed packets -/

/-- A packet with a transport header has a network layer that hands octets on. -/
theorem exists_upper_of_hasTransportHeader {raw : Bytes}
    (htransport : (parse raw).HasTransportHeader) :
    ∃ network protocol data, Upper raw network protocol data := by
  have hparsed := parsed_parse raw
  generalize parse raw = packet at hparsed htransport
  cases hparsed with
  | unrecognised | laterFragment | cutChain =>
    simp [Headers.HasTransportHeader, unrecognised] at htransport
  | handedOn hupper htransported => exact ⟨_, _, _, hupper⟩

/-- A transport header that was captured settles which headers a packet has. -/
theorem headers_parse_append (htransport : (parse part).HasTransportHeader) (more : Bytes) :
    (parse (part ++ more)).toHeaders = (parse part).toHeaders := by
  obtain ⟨network, protocol, data, hupper⟩ := exists_upper_of_hasTransportHeader htransport
  obtain ⟨room, hlonger⟩ := hupper.append
  rw [hupper.parse_eq] at htransport ⊢
  obtain ⟨count, -, hcount⟩ := addTransport_append hupper.not_hasTransportHeader htransport
  rw [(hlonger more).parse_eq, addTransport_raw, hcount]

/-- Captured in full, a packet has all headers that it has when captured in part. -/
theorem within_parse_append (part more : Bytes) :
    (parse part).toHeaders.Within (parse (part ++ more)).toHeaders := by
  have hipv4 : ∀ header ∈ (parse part).ipv4, header ∈ (parse (part ++ more)).ipv4 := by
    intro header hheader
    rw [ipv4_parse] at hheader ⊢
    split_ifs at hheader with hstarts
    · rwa [if_pos (Ipv4.Header.starts_append hstarts more),
        Ipv4.Header.read_append hstarts.1 more]
    · cases hheader
  have hipv6 : ∀ header ∈ (parse part).ipv6, header ∈ (parse (part ++ more)).ipv6 := by
    intro header hheader
    rw [ipv6_parse] at hheader ⊢
    split_ifs at hheader with hstarts
    · rwa [if_pos (Ipv6.Header.starts_append hstarts more),
        Ipv6.Header.read_append hstarts.1 more]
    · cases hheader
  by_cases htransport : (parse part).HasTransportHeader
  · rw [headers_parse_append htransport more]
    exact ⟨fun _ h ↦ h, fun _ h ↦ h, fun _ h ↦ h, fun _ h ↦ h, fun _ h ↦ h, fun _ h ↦ h⟩
  · simp only [Headers.HasTransportHeader, not_or, Option.not_isSome_iff_eq_none] at htransport
    obtain ⟨hicmp, hicmpv6, htcp, hudp⟩ := htransport
    exact ⟨hipv4, hipv6, by simp [hicmp], by simp [hicmpv6], by simp [htcp], by simp [hudp]⟩

/-- A later fragment over IPv4 is data throughout. -/
theorem parse_eq_of_laterFragment {raw : Bytes} (hstarts : Ipv4.Header.Starts raw)
    (hoffset : (wordAt raw 6).toNat % 8192 ≠ 0) :
    parse raw =
      { raw, ipv4 := some (.read raw), payloadLength := (Ipv4.Header.behind raw).length } := by
  have hlater : (Ipv4.Header.read raw).isLaterFragment = true := by
    rw [← Bool.not_eq_false, Ipv4.Header.isLaterFragment_read]
    exact hoffset
  rw [parse, head?_highNibble_ipv4 hstarts]
  simp only [parseIpv4, Ipv4.Header.parse?_eq, if_pos hstarts, hlater]
  rfl

/-- The payload that is counted when a transport header is looked for grows with the octets. -/
theorem payloadLength_addTransport_append {network : Packet}
    (hbare : ¬network.HasTransportHeader) (hzero : network.payloadLength = 0) (extra : Bytes) :
    (network.addTransport protocol data).payloadLength ≤
      (network.addTransport protocol (data ++ extra)).payloadLength := by
  by_cases hfound : (network.addTransport protocol data).HasTransportHeader
  · obtain ⟨count, hmono, hcount⟩ := addTransport_append hbare hfound
    have hnothing := congrArg payloadLength (hcount [])
    rw [List.append_nil] at hnothing
    rw [hnothing, hcount extra]
    exact hmono _ _ (Nat.zero_le _)
  · have htransported := transported_addTransport network protocol data
    generalize network.addTransport protocol data = packet at htransported hfound
    cases htransported with
    | tcp | udp | icmp | icmpv6 => simp [Headers.HasTransportHeader] at hfound
    | absent => exact hzero ▸ Nat.zero_le _
    | unknown htcp hudp hicmp hicmpv6 =>
      rw [addTransport_unknown network htcp hudp hicmp hicmpv6, List.length_append]
      exact Nat.le_add_right _ _

/-- Captured in full, a packet has no less payload than when captured in part. -/
theorem payloadLength_parse_append (part more : Bytes) :
    (parse part).payloadLength ≤ (parse (part ++ more)).payloadLength := by
  have hparsed := parsed_parse part
  generalize hpart : parse part = packet at hparsed
  cases hparsed with
  | unrecognised | cutChain => exact Nat.zero_le _
  | laterFragment hstarts hoffset =>
    have hlength : 20 ≤ part.length := hstarts.1
    rw [parse_eq_of_laterFragment (Ipv4.Header.starts_append hstarts more)
      (by rwa [wordAt_append_left (by omega)]), Ipv4.Header.behind_append hstarts,
      List.length_append]
    exact Nat.le_add_right _ _
  | handedOn hupper =>
    obtain ⟨room, hlonger⟩ := hupper.append
    rw [← hpart, hupper.parse_eq, (hlonger more).parse_eq, addTransport_raw _ (part ++ more)]
    exact payloadLength_addTransport_append hupper.not_hasTransportHeader
      hupper.payloadLength_eq_zero _

end Packet

end PacketRefusal
