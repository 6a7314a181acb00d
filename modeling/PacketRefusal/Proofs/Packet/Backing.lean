import PacketRefusal.Proofs.Packet.Carriage

/-!
# What parsing reports is backed by the octets

`Packet.BackedBy` collects what can be relied on when a packet was parsed, whatever its octets are:
there are headers of one IP version and of one transport protocol at most, each header is what its
own parser reads at its place, and the payload that is counted lies within what was captured and
announced. `Packet.backedBy_parse` proves it on every way that parsing can go, also where it breaks
off and leaves headers out.

The place of a transport header is `Packet.ReadFrom`. Behind IPv6 it follows from the chain of
extension headers, which the walk crosses in units of eight octets
(`Packet.Upper.exists_start`).
-/

set_option autoImplicit false
set_option relaxedAutoImplicit false

namespace PacketRefusal

open Bytes

/-! ### The extent of a packet -/

/-- The length of the network header, and zero if there is none. -/
def Headers.networkLength (headers : Headers) : ℕ :=
  headers.ipv4.elim (headers.ipv6.elim 0 fun _ ↦ Ipv6.headerLength) Ipv4.Header.length

/-- The length of the whole packet that the network header announces. -/
def Headers.announcedLength (headers : Headers) : ℕ :=
  headers.ipv4.elim (headers.ipv6.elim 0 Ipv6.Header.announcedLength) fun ip ↦
    ip.totalLength.toNat

def Headers.transportCount (headers : Headers) : ℕ :=
  [headers.icmp.isSome, headers.icmpv6.isSome, headers.tcp.isSome, headers.udp.isSome].count true

theorem Ipv4.Header.length_read_le {raw : Bytes} (hstarts : Starts raw) :
    (read raw).length ≤ min raw.length (wordAt raw 2).toNat := by
  rw [length_read]
  exact Nat.le_min.mpr ⟨hstarts.2.2.2.1, hstarts.2.2.2.2⟩

namespace Packet

/-- Where a packet ends: at the announced end, or before it where the capture ends. -/
def stop (packet : Packet) : ℕ := min packet.raw.length packet.announcedLength

/-- A transport header was read by its parser from the octets that a packet carries under a protocol
number, and the payload that the packet counts stands behind it. Over IPv6 extension headers may
stand in front of these octets, over IPv4 nothing. -/
structure ReadFrom {header : Type} (packet : Packet) (protocol : UInt8)
    (parse? : Bytes → Option (header × Bytes)) (transport : header) (start : ℕ) : Prop where
  carries : Carries packet.raw protocol start packet.announcedLength
  start_eq : packet.ipv4.isSome → start = packet.networkLength
  units : packet.networkLength ≤ start ∧ 8 ∣ start - packet.networkLength
  start_le : start ≤ packet.stop
  parse_eq : ∃ payload,
    parse? ((packet.raw.take packet.stop).drop start) = some (transport, payload) ∧
      payload.length = packet.payloadLength

/-- What a parsed packet reports is found in the captured octets. -/
structure BackedBy (packet : Packet) (raw : Bytes) : Prop where
  raw_eq : packet.raw = raw
  ipv4_eq : packet.ipv4 = (Ipv4.Header.parse? raw).map Prod.fst
  ipv6_eq : packet.ipv6 = (Ipv6.Header.parse? raw).map Prod.fst
  /-- There is at most one network header. -/
  network : packet.ipv4 = none ∨ packet.ipv6 = none
  /-- There is at most one transport header. -/
  transportCount_le : packet.transportCount ≤ 1
  hasNetworkHeader : packet.HasTransportHeader → packet.hasNetworkHeader
  ipv4_of_icmp : packet.icmp.isSome → packet.ipv4.isSome
  ipv6_of_icmpv6 : packet.icmpv6.isSome → packet.ipv6.isSome
  tcp : ∀ tcp ∈ packet.tcp, ∃ start,
    packet.ReadFrom Tcp.protocol Tcp.Header.parse? tcp start
  udp : ∀ udp ∈ packet.udp, ∃ start,
    packet.ReadFrom Udp.protocol Udp.Header.parse? udp start
  icmp : ∀ icmp ∈ packet.icmp, ∃ start,
    packet.ReadFrom Icmp.protocol Icmp.Header.parse? icmp start
  icmpv6 : ∀ icmpv6 ∈ packet.icmpv6, ∃ start,
    packet.ReadFrom Icmp.protocolV6 Icmp.Header.parse? icmpv6 start
  /-- Without a transport header, the payload is a last part of the packet, or nothing. -/
  payload : ¬packet.HasTransportHeader → packet.payloadLength = 0 ∨
    ∃ start, packet.networkLength ≤ start ∧ start ≤ packet.stop ∧
      packet.payloadLength = ((raw.take packet.stop).drop start).length
  payloadLength_le : packet.payloadLength ≤ packet.stop - packet.networkLength
  payloadLength_eq_zero : ¬packet.hasNetworkHeader → packet.payloadLength = 0

variable {raw data : Bytes} {protocol : UInt8} {network packet : Packet}

/-! ### What the network layer hands on -/

theorem take_stop (packet : Packet) :
    packet.raw.take packet.stop = packet.raw.take packet.announcedLength := by
  rw [stop, Nat.min_comm, ← List.take_eq_take_min]

/-- Where the octets start that the network layer hands on. -/
theorem Upper.exists_start (hupper : Upper raw network protocol data) :
    ∃ start, data = (network.raw.take network.stop).drop start ∧ start ≤ network.stop ∧
      (network.networkLength ≤ start ∧ 8 ∣ start - network.networkLength) ∧
      (network.ipv4.isSome → start = network.networkLength) ∧
      (protocol ≠ Ipv6.fragment → Carries network.raw protocol start network.announcedLength) := by
  rw [take_stop]
  cases hupper with
  | ipv4 hstarts hoffset =>
    have hlength := Ipv4.Header.length_read raw
    refine ⟨(Ipv4.Header.read raw).length, ?_, ?_, ⟨Nat.le_refl _, ?_⟩, fun _ ↦ rfl, fun _ ↦ ?_⟩
    · rw [hlength]
      rfl
    · exact Ipv4.Header.length_read_le hstarts
    · rw [Headers.networkLength, Option.elim_some, Nat.sub_self]
      exact Nat.dvd_zero 8
    · rw [hlength]
      exact .ipv4 hstarts hoffset rfl
  | ipv6 hstarts hupper =>
    obtain ⟨front, hbehind, hunits⟩ := Ipv6.exists_append_of_upperLayer hupper
    have hend : Ipv6.headerLength + front.length ≤
        min raw.length (Ipv6.Header.read raw).announcedLength := by
      have hlength := congrArg List.length hbehind
      rw [Ipv6.Header.behind, List.length_drop, List.length_take, List.length_append] at hlength
      have hannounced : (Ipv6.Header.read raw).announcedLength =
        Ipv6.headerLength + (wordAt raw 4).toNat := rfl
      have hcaptured := hstarts.1
      omega
    refine ⟨Ipv6.headerLength + front.length, ?_, hend, ⟨Nat.le_add_right _ _, ?_⟩,
      fun hipv4 ↦ (Bool.false_ne_true hipv4).elim, fun hprotocol ↦ ?_⟩
    · rw [← List.drop_drop]
      change data = (Ipv6.Header.behind raw).drop front.length
      rw [hbehind, List.drop_left]
    · change 8 ∣ Ipv6.headerLength + front.length - Ipv6.headerLength
      rwa [Nat.add_sub_cancel_left]
    · obtain ⟨chain, hchain, hbehind'⟩ := Ipv6.exists_chain_of_upperLayer hupper hprotocol
      obtain rfl : chain = front := List.append_cancel_right (hbehind'.symm.trans hbehind)
      exact .ipv6 hstarts hchain hbehind

/-- Where a packet ends and its network header with it follows from the network header. -/
theorem extent_eq {first second : Packet} (hraw : first.raw = second.raw)
    (hipv4 : first.ipv4 = second.ipv4) (hipv6 : first.ipv6 = second.ipv6) :
    first.networkLength = second.networkLength ∧
      first.announcedLength = second.announcedLength ∧ first.stop = second.stop := by
  simp only [stop, Headers.networkLength, Headers.announcedLength, hraw, hipv4, hipv6, and_self]

/-- A transport header that is read from what the network layer hands on is read at its place. -/
theorem Upper.exists_readFrom (hupper : Upper raw network protocol data)
    (hprotocol : protocol ≠ Ipv6.fragment) {header : Type}
    {parse? : Bytes → Option (header × Bytes)} {transport : header} {payload : Bytes}
    (hparse : parse? data = some (transport, payload)) (hraw : packet.raw = network.raw)
    (hipv4 : packet.ipv4 = network.ipv4) (hipv6 : packet.ipv6 = network.ipv6)
    (hpayload : payload.length = packet.payloadLength) :
    ∃ start, packet.ReadFrom protocol parse? transport start := by
  obtain ⟨hlength, hannounced, hstop⟩ := extent_eq hraw hipv4 hipv6
  obtain ⟨start, hdata, hstart, hunits, hequal, hcarries⟩ := hupper.exists_start
  refine ⟨start, ?_, ?_, ?_, ?_, payload, ?_, hpayload⟩
  · rw [hraw, hannounced]
    exact hcarries hprotocol
  · rwa [hipv4, hlength]
  · rwa [hlength]
  · rwa [hstop]
  · rw [hraw, hstop, ← hdata, hparse]

/-! ### Parsed packets -/

theorem Upper.transport_eq_none (hupper : Upper raw network protocol data) :
    network.icmp = none ∧ network.icmpv6 = none ∧ network.tcp = none ∧ network.udp = none := by
  cases hupper <;> exact ⟨rfl, rfl, rfl, rfl⟩

theorem Upper.hasNetworkHeader (hupper : Upper raw network protocol data) :
    network.hasNetworkHeader := by
  cases hupper <;> rfl

/-- Adding a transport header changes neither the network header nor what was captured. -/
theorem Transported.network_eq (htransported : Transported network protocol data packet) :
    packet.raw = network.raw ∧ packet.ipv4 = network.ipv4 ∧ packet.ipv6 = network.ipv6 := by
  cases htransported <;> exact ⟨rfl, rfl, rfl⟩

/-- No more payload is counted than octets were handed on. -/
theorem Transported.payloadLength_le (htransported : Transported network protocol data packet)
    (hzero : network.payloadLength = 0) : packet.payloadLength ≤ data.length := by
  cases htransported with
  | tcp | icmp | icmpv6 => exact Nat.sub_le _ _
  | udp => exact Nat.le_trans (Nat.sub_le _ _) (Nat.min_le_right _ _)
  | absent => exact hzero ▸ Nat.zero_le _
  | unknown => exact Nat.le_refl _

/-- Without a transport header either all octets that were handed on are payload, or none is. -/
theorem Transported.payloadLength_eq (htransported : Transported network protocol data packet)
    (hzero : network.payloadLength = 0) (hbare : ¬packet.HasTransportHeader) :
    packet.payloadLength = 0 ∨ packet.payloadLength = data.length := by
  cases htransported with
  | tcp | udp | icmp | icmpv6 => simp [Headers.HasTransportHeader] at hbare
  | absent => exact Or.inl hzero
  | unknown => exact Or.inr rfl

/-- The payload stands behind some place in the packet, behind its network header, and is all that
stands there if there is no transport header. -/
theorem Parsed.exists_payload (hparsed : Parsed raw packet) :
    packet.payloadLength = 0 ∨
      ∃ start, packet.networkLength ≤ start ∧ start ≤ packet.stop ∧
        packet.payloadLength ≤ ((raw.take packet.stop).drop start).length ∧
        (¬packet.HasTransportHeader → packet.payloadLength = 0 ∨
          packet.payloadLength = ((raw.take packet.stop).drop start).length) := by
  have hraw := hparsed.network.1
  cases hparsed with
  | unrecognised | cutChain => exact Or.inl rfl
  | laterFragment hstarts hoffset =>
    rw [← hraw, take_stop]
    have hbehind : Ipv4.Header.behind raw =
        (raw.take (wordAt raw 2).toNat).drop (Ipv4.Header.read raw).length := by
      rw [Ipv4.Header.length_read]
      rfl
    have hlength := congrArg List.length hbehind
    exact Or.inr ⟨_, Nat.le_refl _, Ipv4.Header.length_read_le hstarts, Nat.le_of_eq hlength,
      fun _ ↦ Or.inr hlength⟩
  | handedOn hupper htransported =>
    have hzero := hupper.payloadLength_eq_zero
    obtain ⟨start, hdata, hstart, ⟨hbehind, -⟩, -⟩ := hupper.exists_start
    obtain ⟨hraw', hipv4, hipv6⟩ := htransported.network_eq
    obtain ⟨hlength, -, hstop⟩ := extent_eq hraw' hipv4 hipv6
    refine Or.inr ⟨start, ?_⟩
    rw [← hraw, hraw', hlength, hstop, ← hdata]
    exact ⟨hbehind, hstart, htransported.payloadLength_le hzero,
      htransported.payloadLength_eq hzero⟩

/-- Every transport header was read at its place. -/
theorem Parsed.exists_readFrom (hparsed : Parsed raw packet) :
    (∀ tcp ∈ packet.tcp, ∃ start, packet.ReadFrom Tcp.protocol Tcp.Header.parse? tcp start) ∧
    (∀ udp ∈ packet.udp, ∃ start, packet.ReadFrom Udp.protocol Udp.Header.parse? udp start) ∧
    (∀ icmp ∈ packet.icmp, ∃ start,
      packet.ReadFrom Icmp.protocol Icmp.Header.parse? icmp start) ∧
    ∀ icmpv6 ∈ packet.icmpv6, ∃ start,
      packet.ReadFrom Icmp.protocolV6 Icmp.Header.parse? icmpv6 start := by
  cases hparsed with
  | unrecognised | laterFragment | cutChain => exact ⟨nofun, nofun, nofun, nofun⟩
  | handedOn hupper htransported =>
    obtain ⟨hicmp, hicmpv6, htcp, hudp⟩ := hupper.transport_eq_none
    cases htransported with
    | tcp hprotocol hstarts =>
      subst hprotocol
      refine ⟨?_, by simp [hudp], by simp [hicmp], by simp [hicmpv6]⟩
      rintro _ ⟨⟩
      exact hupper.exists_readFrom (by decide) (if_pos hstarts) rfl rfl rfl List.length_drop
    | udp hprotocol hstarts =>
      subst hprotocol
      refine ⟨by simp [htcp], ?_, by simp [hicmp], by simp [hicmpv6]⟩
      rintro _ ⟨⟩
      refine hupper.exists_readFrom (by decide) (if_pos hstarts) rfl rfl rfl ?_
      rw [List.length_drop, List.length_take]
    | icmp hprotocol hipv4 hlength =>
      subst hprotocol
      refine ⟨by simp [htcp], by simp [hudp], ?_, by simp [hicmpv6]⟩
      rintro _ ⟨⟩
      exact hupper.exists_readFrom (by decide) (if_pos hlength) rfl rfl rfl List.length_drop
    | icmpv6 hprotocol hipv6 hlength =>
      subst hprotocol
      refine ⟨by simp [htcp], by simp [hudp], by simp [hicmp], ?_⟩
      rintro _ ⟨⟩
      exact hupper.exists_readFrom (by decide) (if_pos hlength) rfl rfl rfl List.length_drop
    | absent | unknown => simp [hicmp, hicmpv6, htcp, hudp]

/-- There is one transport header at most, and it belongs to the network header. -/
theorem Parsed.transport (hparsed : Parsed raw packet) :
    packet.transportCount ≤ 1 ∧ (packet.HasTransportHeader → packet.hasNetworkHeader) ∧
      (packet.icmp.isSome → packet.ipv4.isSome) ∧
      (packet.icmpv6.isSome → packet.ipv6.isSome) := by
  cases hparsed with
  | unrecognised | laterFragment | cutChain =>
    simp [Headers.transportCount, Headers.HasTransportHeader, Packet.unrecognised]
  | handedOn hupper htransported =>
    obtain ⟨hicmp, hicmpv6, htcp, hudp⟩ := hupper.transport_eq_none
    obtain ⟨-, hipv4, hipv6⟩ := htransported.network_eq
    have hnetwork : packet.hasNetworkHeader := by
      rw [Headers.hasNetworkHeader, hipv4, hipv6]
      exact hupper.hasNetworkHeader
    refine ⟨?_, fun _ ↦ hnetwork, ?_, ?_⟩
    · cases htransported <;> simp [Headers.transportCount, hicmp, hicmpv6, htcp, hudp]
    · -- A header of ICMP is only added behind one of IPv4.
      cases htransported with
      | icmp _ hversion => exact fun _ ↦ hversion
      | tcp | udp | icmpv6 | absent | unknown => simp [hicmp]
    · cases htransported with
      | icmpv6 _ hversion => exact fun _ ↦ hversion
      | tcp | udp | icmp | absent | unknown => simp [hicmpv6]

/-- Nothing counts as payload where no network header was recognised. -/
theorem Parsed.payloadLength_eq_zero (hparsed : Parsed raw packet)
    (hnone : ¬packet.hasNetworkHeader) : packet.payloadLength = 0 := by
  cases hparsed with
  | unrecognised => rfl
  | laterFragment | cutChain => exact (hnone rfl).elim
  | handedOn hupper htransported =>
    obtain ⟨-, hipv4, hipv6⟩ := htransported.network_eq
    rw [Headers.hasNetworkHeader, hipv4, hipv6] at hnone
    exact (hnone hupper.hasNetworkHeader).elim

/-- Parsing reports nothing but what the octets bear out, whatever they are. -/
theorem backedBy_parse (raw : Bytes) : (parse raw).BackedBy raw := by
  have hparsed := parsed_parse raw
  obtain ⟨hraw, hipv4, hipv6⟩ := hparsed.network
  obtain ⟨hcount, hnetwork, hicmp, hicmpv6⟩ := hparsed.transport
  obtain ⟨htcp, hudp, hicmpRead, hicmpv6Read⟩ := hparsed.exists_readFrom
  have hpayload := hparsed.exists_payload
  exact {
    raw_eq := hraw
    ipv4_eq := by
      rw [hipv4, Ipv4.Header.parse?_eq]
      split_ifs <;> rfl
    ipv6_eq := by
      rw [hipv6, Ipv6.Header.parse?_eq]
      split_ifs <;> rfl
    network := by
      rcases Option.eq_none_or_eq_some (parse raw).ipv4 with hnone | ⟨ip, hsome⟩
      · exact Or.inl hnone
      · exact Or.inr (ipv6_parse_eq_none (Option.isSome_of_eq_some hsome))
    transportCount_le := hcount
    hasNetworkHeader := hnetwork
    ipv4_of_icmp := hicmp
    ipv6_of_icmpv6 := hicmpv6
    tcp := htcp
    udp := hudp
    icmp := hicmpRead
    icmpv6 := hicmpv6Read
    payload := fun hbare ↦ by
      rcases hpayload with hzero | ⟨start, hbehind, hstart, -, hequal⟩
      · exact Or.inl hzero
      · exact (hequal hbare).imp_right fun hlength ↦ ⟨start, hbehind, hstart, hlength⟩
    payloadLength_le := by
      rcases hpayload with hzero | ⟨start, hbehind, -, hle, -⟩
      · exact hzero ▸ Nat.zero_le _
      · rw [List.length_drop, List.length_take, stop] at hle
        rw [stop]
        omega
    payloadLength_eq_zero := hparsed.payloadLength_eq_zero }

end Packet

end PacketRefusal
