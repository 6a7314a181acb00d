import Mathlib.Data.List.Basic
import PacketRefusal.Proofs.Packet.Truncation

/-!
# Where a packet carries its upper layer

`Carries` finds the octets of an upper-layer protocol in those that were captured: behind an IPv4
header with its options, or behind an IPv6 header and a chain of extension headers, up to the end
that the network header announces. For transport protocols this is just what parsing hands on
(`Packet.Upper.exists_carries`, `Carries.exists_upper`).

`HeaderEnds` finds the end of a transport header there, and every transport header that is
recognised has one (`Packet.hasTransportHeader_iff`). Nothing behind that end is needed to recognise
the header (`HeaderEnds.take`), and what stands there changes no header
(`HeaderEnds.headers_parse_take_append`).
-/

set_option autoImplicit false
set_option relaxedAutoImplicit false

namespace PacketRefusal

open Bytes

/-- The octets of a packet from `start` up to `stop`, as far as they were captured, belong to an
upper-layer protocol. They stand behind an IPv4 header of a first fragment, or behind an IPv6 header
and a chain of extension headers. -/
inductive Carries (raw : Bytes) (protocol : UInt8) : (start stop : ℕ) → Prop
  | ipv4 (hstarts : Ipv4.Header.Starts raw) (hoffset : (wordAt raw 6).toNat % 8192 = 0)
      (hprotocol : octetAt raw 9 = protocol) :
    Carries raw protocol (4 * lowNibble (octetAt raw 0)) (wordAt raw 2).toNat
  | ipv6 {chain data : Bytes} (hstarts : Ipv6.Header.Starts raw)
      (hchain : Ipv6.Chain (octetAt raw 6) chain protocol)
      (hbehind : (raw.take (40 + (wordAt raw 4).toNat)).drop 40 = chain ++ data) :
    Carries raw protocol (40 + chain.length) (40 + (wordAt raw 4).toNat)

/-- The end of the transport header that a packet carries: of a TCP header where its data offset
says, and of the others behind eight octets. -/
inductive HeaderEnds (raw : Bytes) : ℕ → Prop
  | tcp {start stop : ℕ} (hcarries : Carries raw Tcp.protocol start stop)
      (hstarts : Tcp.Header.Starts ((raw.take stop).drop start)) :
    HeaderEnds raw (start + 4 * highNibble (octetAt raw (start + 12)))
  | udp {start stop : ℕ} (hcarries : Carries raw Udp.protocol start stop)
      (hstarts : Udp.Header.Starts ((raw.take stop).drop start)) : HeaderEnds raw (start + 8)
  | icmp {start stop : ℕ} (hcarries : Carries raw Icmp.protocol start stop)
      (hipv4 : Ipv4.Header.Starts raw) (hlength : start + 8 ≤ min raw.length stop) :
    HeaderEnds raw (start + 8)
  | icmpv6 {start stop : ℕ} (hcarries : Carries raw Icmp.protocolV6 start stop)
      (hipv6 : Ipv6.Header.Starts raw) (hlength : start + 8 ≤ min raw.length stop) :
    HeaderEnds raw (start + 8)

variable {raw : Bytes} {protocol : UInt8} {start stop : ℕ}

/-! ### Headers that nothing follows -/

theorem Ipv4.Header.starts_take (hstarts : Starts raw) {length : ℕ}
    (hlength : 4 * lowNibble (octetAt raw 0) ≤ length) : Starts (raw.take length) := by
  obtain ⟨-, hversion, hwords, hcaptured, htotal⟩ := hstarts
  rw [Starts, octetAt_take (by omega), wordAt_take (by omega), List.length_take,
    minimumHeaderLength]
  exact ⟨by omega, hversion, hwords, by omega, htotal⟩

theorem Ipv6.Header.starts_take (hstarts : Starts raw) {length : ℕ} (hlength : 40 ≤ length) :
    Starts (raw.take length) := by
  obtain ⟨hcaptured, hversion⟩ := hstarts
  rw [Starts, octetAt_take (by omega), List.length_take]
  exact ⟨Nat.le_min.mpr ⟨hlength, hcaptured⟩, hversion⟩

theorem Tcp.Header.starts_take {segment : Bytes} (hstarts : Starts segment) :
    Starts (segment.take (announcedLength segment)) := by
  obtain ⟨hminimum, hannounced, hcaptured⟩ := hstarts
  have hkept : announcedLength (segment.take (announcedLength segment)) =
      announcedLength segment := by
    simp only [minimumHeaderLength] at hannounced
    rw [announcedLength, octetAt_take (by omega), announcedLength]
  rw [Starts, hkept, List.length_take_of_le hcaptured]
  exact ⟨hannounced, hannounced, Nat.le_refl _⟩

theorem Udp.Header.starts_take {datagram : Bytes} (hstarts : Starts datagram) :
    Starts (datagram.take headerLength) := by
  obtain ⟨hcaptured, hannounced⟩ := hstarts
  have hkept : announcedLength (datagram.take headerLength) = announcedLength datagram := by
    rw [announcedLength, wordAt_take (by decide), announcedLength]
  rw [Starts, hkept, List.length_take_of_le hcaptured]
  exact ⟨Nat.le_refl _, hannounced⟩

/-! ### Carried octets and octets handed on -/

/-- What the network layer hands on was carried. -/
theorem Packet.Upper.exists_carries {raw data : Bytes} {network : Packet} {protocol : UInt8}
    (hupper : Upper raw network protocol data) (hprotocol : protocol ≠ Ipv6.fragment) :
    ∃ start stop, Carries raw protocol start stop ∧ data = (raw.take stop).drop start := by
  cases hupper with
  | ipv4 hstarts hoffset => exact ⟨_, _, .ipv4 hstarts hoffset rfl, rfl⟩
  | ipv6 hstarts hupper =>
    obtain ⟨chain, hchain, hbehind⟩ := Ipv6.exists_chain_of_upperLayer hupper hprotocol
    have hdata : ((raw.take (40 + (wordAt raw 4).toNat)).drop 40).drop chain.length = data := by
      rw [show (raw.take (40 + (wordAt raw 4).toNat)).drop 40 = chain ++ data from hbehind,
        List.drop_left]
    exact ⟨_, _, .ipv6 hstarts hchain hbehind, by rw [← List.drop_drop, hdata]⟩

/-- The data offset of a carried segment stands in the thirteenth octet behind its start. -/
theorem Tcp.Header.announcedLength_carried (hlength : 20 ≤ ((raw.take stop).drop start).length) :
    announcedLength ((raw.take stop).drop start) =
      4 * highNibble (octetAt raw (start + 12)) := by
  rw [List.length_drop, List.length_take] at hlength
  rw [announcedLength, octetAt_drop, octetAt_take (by omega)]

/-- The payload of a carried segment reaches from the end that the data offset announces for its
header to the end of what was captured. -/
theorem Tcp.Header.payload_eq {raw segment : Bytes} {start stop : ℕ}
    (hsegment : segment = (raw.take stop).drop start) (hstarts : Starts segment) :
    start + 4 * highNibble (octetAt raw (start + 12)) ≤ min raw.length stop ∧
      segment.length - announcedLength segment =
        min raw.length stop - start - 4 * highNibble (octetAt raw (start + 12)) := by
  subst hsegment
  obtain ⟨hminimum, hannounced, hcaptured⟩ := hstarts
  rw [announcedLength_carried hminimum] at hannounced hcaptured ⊢
  simp only [minimumHeaderLength, List.length_drop, List.length_take] at hannounced hcaptured ⊢
  omega

namespace Carries

/-- What is carried under the number of no extension header is handed on. -/
theorem exists_upper (hcarries : Carries raw protocol start stop)
    (hkind : ¬Ipv6.CarriesLength protocol) (hfragment : protocol ≠ Ipv6.fragment) :
    ∃ network, Packet.Upper raw network protocol ((raw.take stop).drop start) := by
  cases hcarries with
  | ipv4 hstarts hoffset hprotocol =>
    subst hprotocol
    exact ⟨_, .ipv4 hstarts hoffset⟩
  | @ipv6 chain data hstarts hchain hbehind =>
    refine ⟨_, .ipv6 hstarts ?_⟩
    rw [← List.drop_drop, hbehind, List.drop_left]
    rw [show Ipv6.Header.behind raw = chain ++ data from hbehind,
      Ipv6.upperLayer_append_chain hchain, Ipv6.upperLayer_of_upper hkind hfragment]

/-- Upper-layer octets stand behind a whole network header. -/
theorem le_start (hcarries : Carries raw protocol start stop) : 20 ≤ start := by
  cases hcarries with
  | ipv4 hstarts =>
    have hwords := hstarts.2.2.1
    omega
  | ipv6 => omega

/-- The front of what is carried stands in the front of the packet. -/
theorem take_take_drop (raw : Bytes) (start stop length : ℕ) :
    ((raw.take length).take stop).drop start =
      ((raw.take stop).drop start).take (length - start) := by
  rw [List.take_take, Nat.min_comm, ← List.take_take, List.drop_take]

/-- Where upper-layer octets start is settled by the octets in front of them. -/
theorem take (hcarries : Carries raw protocol start stop) {length : ℕ} (hlength : start ≤ length) :
    Carries (raw.take length) protocol start stop := by
  cases hcarries with
  | ipv4 hstarts hoffset hprotocol =>
    have hheader : 20 ≤ 4 * lowNibble (octetAt raw 0) := (ipv4 hstarts hoffset hprotocol).le_start
    have hfirst : octetAt (raw.take length) 0 = octetAt raw 0 := octetAt_take (by omega)
    have hannounced : wordAt (raw.take length) 2 = wordAt raw 2 := wordAt_take (by omega)
    rw [← hfirst, ← hannounced]
    exact .ipv4 (Ipv4.Header.starts_take hstarts hlength) (by rwa [wordAt_take (by omega)])
      (by rwa [octetAt_take (by omega)])
  | @ipv6 chain data hstarts hchain hbehind =>
    have hheader : 40 ≤ raw.length := hstarts.1
    have hnext : octetAt (raw.take length) 6 = octetAt raw 6 := octetAt_take (by omega)
    have hannounced : wordAt (raw.take length) 4 = wordAt raw 4 := wordAt_take (by omega)
    have hfront : ((raw.take length).take (40 + (wordAt (raw.take length) 4).toNat)).drop 40 =
        chain ++ data.take (length - 40 - chain.length) := by
      rw [hannounced, take_take_drop, hbehind, List.take_append, List.take_of_length_le (by omega)]
    rw [← hannounced]
    exact .ipv6 (Ipv6.Header.starts_take hstarts (by omega)) (by rwa [hnext]) hfront

end Carries

/-! ### The end of a transport header -/

namespace HeaderEnds

/-- The end of a transport header is settled by the octets up to there. -/
theorem take (hends : HeaderEnds raw stop) : HeaderEnds (raw.take stop) stop := by
  cases hends with
  | @tcp start stop hcarries hstarts =>
    have hlength := Tcp.Header.announcedLength_carried hstarts.1
    have hoffset := hstarts.2.1
    rw [hlength, Tcp.minimumHeaderLength] at hoffset
    have hkept : octetAt (raw.take (start + 4 * highNibble (octetAt raw (start + 12))))
        (start + 12) = octetAt raw (start + 12) := octetAt_take (by omega)
    have htaken := HeaderEnds.tcp
      (hcarries.take (Nat.le_add_right start (4 * highNibble (octetAt raw (start + 12))))) ?_
    · rwa [hkept] at htaken
    · rw [Carries.take_take_drop, Nat.add_sub_cancel_left, ← hlength]
      exact Tcp.Header.starts_take hstarts
  | @udp start stop hcarries hstarts =>
    refine .udp (hcarries.take (Nat.le_add_right _ _)) ?_
    rw [Carries.take_take_drop, Nat.add_sub_cancel_left]
    exact Udp.Header.starts_take hstarts
  | @icmp start stop hcarries hipv4 hlength =>
    refine .icmp (hcarries.take (Nat.le_add_right _ _)) ?_ ?_
    · cases hcarries with
      | ipv4 => exact Ipv4.Header.starts_take hipv4 (Nat.le_add_right _ _)
      | ipv6 hipv6 => exact absurd hipv6 (Packet.not_starts_ipv6 hipv4)
    · rw [List.length_take]
      omega
  | @icmpv6 start stop hcarries hipv6 hlength =>
    refine .icmpv6 (hcarries.take (Nat.le_add_right _ _)) ?_ ?_
    · cases hcarries with
      | ipv4 hipv4 => exact absurd hipv6 (Packet.not_starts_ipv6 hipv4)
      | ipv6 => exact Ipv6.Header.starts_take hipv6 (by omega)
    · rw [List.length_take]
      omega

/-- A transport header that ends somewhere is recognised. -/
theorem hasTransportHeader (hends : HeaderEnds raw stop) :
    (Packet.parse raw).HasTransportHeader := by
  cases hends with
  | tcp hcarries hstarts =>
    obtain ⟨network, hupper⟩ := hcarries.exists_upper (by decide) (by decide)
    rw [hupper.parse_eq, Packet.addTransport_tcp network hstarts]
    exact Or.inr (Or.inr (Or.inl rfl))
  | udp hcarries hstarts =>
    obtain ⟨network, hupper⟩ := hcarries.exists_upper (by decide) (by decide)
    rw [hupper.parse_eq, Packet.addTransport_udp network hstarts]
    exact Or.inr (Or.inr (Or.inr rfl))
  | @icmp start stop hcarries hipv4 hlength =>
    obtain ⟨network, hupper⟩ := hcarries.exists_upper (by decide) (by decide)
    have hnetwork : network.ipv4.isSome := by
      rw [hupper.network.2.1, if_pos hipv4]
      rfl
    rw [hupper.parse_eq, Packet.addTransport_icmp network hnetwork]
    · exact Or.inl rfl
    · rw [List.length_drop, List.length_take, Icmp.headerLength]
      omega
  | @icmpv6 start stop hcarries hipv6 hlength =>
    obtain ⟨network, hupper⟩ := hcarries.exists_upper (by decide) (by decide)
    have hnetwork : network.ipv6.isSome := by
      rw [hupper.network.2.2, if_pos hipv6]
      rfl
    rw [hupper.parse_eq, Packet.addTransport_icmpv6 network hnetwork]
    · exact Or.inr (Or.inl rfl)
    · rw [List.length_drop, List.length_take, Icmp.headerLength]
      omega

/-- The octets up to the end of the transport header have the headers of the packet, whatever stands
behind them. -/
theorem headers_parse_take_append (hends : HeaderEnds raw stop) (more : Bytes) :
    (Packet.parse (raw.take stop ++ more)).toHeaders = (Packet.parse raw).toHeaders := by
  have hwhole := Packet.headers_parse_append hends.take.hasTransportHeader (raw.drop stop)
  rw [List.take_append_drop] at hwhole
  rw [hwhole, Packet.headers_parse_append hends.take.hasTransportHeader more]

end HeaderEnds

/-- The transport headers that are recognised are those that end somewhere. -/
theorem Packet.hasTransportHeader_iff :
    (parse raw).HasTransportHeader ↔ ∃ stop, HeaderEnds raw stop := by
  refine ⟨fun hfound ↦ ?_, fun ⟨_, hends⟩ ↦ hends.hasTransportHeader⟩
  obtain ⟨network, protocol, data, hupper⟩ := exists_upper_of_hasTransportHeader hfound
  have htransported := transported_addTransport network protocol data
  rw [hupper.parse_eq] at hfound
  generalize network.addTransport protocol data = packet at htransported hfound
  cases htransported with
  | tcp hprotocol hstarts =>
    subst hprotocol
    obtain ⟨start, stop, hcarries, rfl⟩ := hupper.exists_carries (by decide)
    exact ⟨_, .tcp hcarries hstarts⟩
  | udp hprotocol hstarts =>
    subst hprotocol
    obtain ⟨start, stop, hcarries, rfl⟩ := hupper.exists_carries (by decide)
    exact ⟨_, .udp hcarries hstarts⟩
  | icmp hprotocol hipv4 hlength =>
    subst hprotocol
    obtain ⟨start, stop, hcarries, rfl⟩ := hupper.exists_carries (by decide)
    have hstarts : Ipv4.Header.Starts raw := by
      by_contra hnot
      rw [hupper.network.2.1, if_neg hnot] at hipv4
      cases hipv4
    refine ⟨_, .icmp hcarries hstarts ?_⟩
    rw [List.length_drop, List.length_take, Icmp.headerLength] at hlength
    omega
  | icmpv6 hprotocol hipv6 hlength =>
    subst hprotocol
    obtain ⟨start, stop, hcarries, rfl⟩ := hupper.exists_carries (by decide)
    have hstarts : Ipv6.Header.Starts raw := by
      by_contra hnot
      rw [hupper.network.2.2, if_neg hnot] at hipv6
      cases hipv6
    refine ⟨_, .icmpv6 hcarries hstarts ?_⟩
    rw [List.length_drop, List.length_take, Icmp.headerLength] at hlength
    omega
  | absent | unknown => exact absurd hfound hupper.not_hasTransportHeader

end PacketRefusal
