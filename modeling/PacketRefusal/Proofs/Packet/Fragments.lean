import PacketRefusal.Proofs.Packet.Agreement
import PacketRefusal.Proofs.Packet.Padding
import PacketRefusal.Report.Line

/-!
# Fragments

Of a packet that was fragmented only the first fragment has a transport header. `LaterFragment` says
which packets are the others, and what becomes known of them: their addresses, and how many octets
they carry. `LaterFragment.parsed` proves that parsing finds just that. Over IPv6 a fragment header
may stand behind any chain of extension headers, over which `Ipv6.upperLayer_append_chain` leads.

A first fragment is told from a packet that was not fragmented by bits that say nothing of its
place. `SameButFlags` compares packets that differ in such bits at most. They are parsed alike
(`SameButFlags.parse_eq`): over IPv4 because the header and the octets behind it are the same, over
IPv6 because the walk over either chain ends at the same octets (`Ipv6.SameButFlags.upperLayer_eq`).
-/

set_option autoImplicit false
set_option relaxedAutoImplicit false

namespace PacketRefusal

open Bytes

variable {raw one other : Bytes}

/-! ### Later fragments -/

/-- A packet is a fragment other than the first, which is reported by a line with its addresses and
carries some number of octets behind its IPv4 header or its fragment header. -/
inductive LaterFragment (raw : Bytes) : String → ℕ → Prop
  | ipv4 {ip : Ipv4.Header} {data : Bytes} (hparse : Ipv4.Header.parse? raw = some (ip, data))
      (hoffset : (wordAt raw 6).toNat % 8192 ≠ 0) :
    LaterFragment raw
      ("ip.SrcAddr=" ++ ip.source.text ++ " " ++ ("ip.DstAddr=" ++ ip.destination.text))
      (min raw.length ip.totalLength.toNat - ip.length)
  | ipv6 {ip : Ipv6.Header} {chain header data : Bytes}
      (hparse : Ipv6.Header.parse? raw = some (ip, chain ++ (header ++ data)))
      (hchain : Ipv6.Chain ip.nextHeader chain Ipv6.fragment)
      (hlength : header.length = Ipv6.fragmentLength)
      (hoffset : Ipv6.fragmentOffset header ≠ 0) :
    LaterFragment raw
      ("ipv6.SrcAddr=" ++ ip.source.text ++ " " ++ ("ipv6.DstAddr=" ++ ip.destination.text))
      (min raw.length ip.announcedLength -
        (Ipv6.headerLength + chain.length + Ipv6.fragmentLength))

/-- The fragment header of a later fragment stops the walk wherever it stands. -/
theorem Ipv6.upperLayer_of_chain_laterFragment {kind : UInt8} {chain header : Bytes}
    (hchain : Chain kind chain fragment) (hlength : header.length = fragmentLength)
    (hoffset : fragmentOffset header ≠ 0) (data : Bytes) :
    upperLayer kind (chain ++ (header ++ data)) = some (fragment, data) := by
  rw [upperLayer_append_chain hchain, upperLayer_of_laterFragment, List.drop_left' hlength]
  · rw [List.length_append, hlength]
    exact Nat.le_add_right _ _
  · rwa [fragmentOffset_append (Nat.le_of_eq hlength.symm)]

/-- The octets that are handed on under the number of a fragment header are all payload. -/
theorem Packet.addTransport_fragment (packet : Packet) (data : Bytes) :
    packet.addTransport Ipv6.fragment data = { packet with payloadLength := data.length } :=
  addTransport_unknown packet (by decide) (by decide) (fun hicmp ↦ absurd hicmp.1 (by decide))
    fun hicmpv6 ↦ absurd hicmpv6.1 (by decide)

/-- Parsing takes no octet of a later fragment for a transport header. -/
theorem LaterFragment.parsed {line : String} {length : ℕ}
    (hfragment : LaterFragment raw line length) :
    (Packet.parse raw).hasNetworkHeader ∧ ¬(Packet.parse raw).HasTransportHeader ∧
      (Packet.parse raw).reportLine = line ∧ (Packet.parse raw).payloadLength = length := by
  cases hfragment with
  | ipv4 hparse hoffset =>
    rw [Ipv4.Header.parse?_eq] at hparse
    split_ifs at hparse with hstarts
    cases hparse
    rw [Packet.parse_eq_of_laterFragment hstarts hoffset]
    refine ⟨rfl, by simp [Headers.HasTransportHeader], rfl, ?_⟩
    rw [Ipv4.Header.behind, List.length_drop, List.length_take, Nat.min_comm,
      Ipv4.Header.length_read]
    rfl
  | @ipv6 ip chain header data hparse hchain hlength hoffset =>
    rw [Ipv6.Header.parse?_eq] at hparse
    split_ifs at hparse with hstarts
    obtain ⟨rfl, hbehind⟩ := Prod.mk.inj (Option.some.inj hparse)
    have hwalk := Ipv6.upperLayer_of_chain_laterFragment hchain hlength hoffset data
    rw [← hbehind] at hwalk
    have hupper : Packet.Upper raw { raw, ipv6 := some (.read raw) } Ipv6.fragment data :=
      .ipv6 hstarts hwalk
    rw [hupper.parse_eq, Packet.addTransport_fragment]
    refine ⟨rfl, by simp [Headers.HasTransportHeader], rfl, ?_⟩
    have hcarried := congrArg List.length hbehind
    rw [Ipv6.Header.behind, List.length_drop, List.length_take, List.length_append,
      List.length_append, hlength] at hcarried
    have hannounced : (Ipv6.Header.read raw).announcedLength =
      Ipv6.headerLength + (wordAt raw 4).toNat := rfl
    change data.length = _
    rw [hannounced]
    omega

/-! ### First fragments -/

/-- Two chains of extension headers, with what follows them, that differ at most in the reserved
bits and in the flag of fragment headers with the offset zero. -/
inductive Ipv6.SameButFlags : UInt8 → Bytes → Bytes → Prop
  | same (kind : UInt8) (octets : Bytes) : SameButFlags kind octets octets
  | carried {kind : UInt8} {header one other : Bytes} (hheader : ExtensionHeader kind header)
      (hrest : SameButFlags (octetAt header 0) one other) :
    SameButFlags kind (header ++ one) (header ++ other)
  | fragment {header header' one other : Bytes} (hheader : ExtensionHeader fragment header)
      (hheader' : ExtensionHeader fragment header') (hagree : AgreeExcept {1, 3} header header')
      (hrest : SameButFlags (octetAt header 0) one other) :
    SameButFlags fragment (header ++ one) (header' ++ other)

/-- Two packets that differ at most in the flags of a fragmentation, all offsets being zero. -/
inductive SameButFlags (one other : Bytes) : Prop
  | ipv4 (hversion : highNibble (octetAt one 0) = 4) (hagree : AgreeExcept {6} one other)
      (hone : (wordAt one 6).toNat % 8192 = 0) (hother : (wordAt other 6).toNat % 8192 = 0)
  | ipv6 (hstarts : Ipv6.Header.Starts one)
      (hheader : one.take Ipv6.headerLength = other.take Ipv6.headerLength)
      (hbehind : Ipv6.SameButFlags (octetAt one 6) (Ipv6.Header.behind one)
        (Ipv6.Header.behind other))

/-- The walk does not look at the flags. -/
theorem Ipv6.SameButFlags.upperLayer_eq {kind : UInt8} (hsame : SameButFlags kind one other) :
    upperLayer kind other = upperLayer kind one := by
  induction hsame with
  | same => rfl
  | carried hheader hrest ih =>
    rw [upperLayer_append_header hheader, upperLayer_append_header hheader, ih]
  | fragment hheader hheader' hagree hrest ih =>
    rw [upperLayer_append_header hheader, upperLayer_append_header hheader',
      ← hagree.octetAt_eq (by decide), ih]

/-- An IPv4 header with the offset zero is read alike whatever its flags are, and so are the octets
behind it. -/
theorem Ipv4.Header.parse?_eq_of_flags (hagree : AgreeExcept {6} one other)
    (hone : (wordAt one 6).toNat % 8192 = 0) (hother : (wordAt other 6).toNat % 8192 = 0) :
    parse? other = parse? one := by
  have hoctet (index : ℕ) (hindex : index ≠ 6) : octetAt one index = octetAt other index :=
    hagree.octetAt_eq hindex
  have htotal : wordAt one 2 = wordAt other 2 := hagree.wordAt_eq (by decide) (by decide)
  have haddress (offset : ℕ) (hoffset : 7 ≤ offset) :
      Address.read one offset = Address.read other offset :=
    Address.read_eq hagree fun index hindex ↦ by
      rw [Set.mem_Ico] at hindex
      rw [Set.mem_singleton_iff]
      omega
  have hread : read one = read other := by
    rw [read, read, hone, hother, hoctet 0 (by decide), hoctet 9 (by decide), htotal,
      haddress 12 (by decide), haddress 16 (by decide)]
  have hiff : Starts one ↔ Starts other := by
    rw [Starts, Starts, hagree.length_eq, hoctet 0 (by decide), htotal]
  rw [parse?_eq, parse?_eq]
  by_cases hstarts : Starts one
  · have hbehind : behind one = behind other := by
      rw [behind, behind, htotal, hoctet 0 (by decide)]
      refine ((hagree.take _).drop _).eq_of_subset_empty ?_
      -- The flags stand in the fixed part of the header.
      rintro index ⟨hindex, -⟩
      have hwords := (hiff.mp hstarts).2.2.1
      rw [Set.mem_singleton_iff] at hindex
      omega
    rw [if_pos hstarts, if_pos (hiff.mp hstarts), hread, hbehind]
  · rw [if_neg hstarts, if_neg (hstarts ∘ hiff.mpr)]

/-- Packets with the same IPv6 header are parsed alike if the walk ends alike. -/
theorem Packet.parse_eq_of_upperLayer_eq (hstarts : Ipv6.Header.Starts one)
    (hstarts' : Ipv6.Header.Starts other)
    (hread : Ipv6.Header.read other = Ipv6.Header.read one)
    (hupper : Ipv6.upperLayer (octetAt one 6) (Ipv6.Header.behind other) =
      Ipv6.upperLayer (octetAt one 6) (Ipv6.Header.behind one)) :
    parse other = { parse one with raw := other } := by
  have hkind : (Ipv6.Header.read one).nextHeader = octetAt one 6 := rfl
  rw [parse, parse, head?_highNibble_ipv6 hstarts, head?_highNibble_ipv6 hstarts']
  simp only [parseIpv6, Ipv6.Header.parse?_eq, if_pos hstarts, if_pos hstarts', hread, hkind,
    hupper]
  cases Ipv6.upperLayer (octetAt one 6) (Ipv6.Header.behind one) with
  | none => rfl
  | some handed => exact addTransport_raw { raw := one, ipv6 := some (.read one) } other

/-- The flags of a fragmentation change nothing that parsing finds. -/
theorem SameButFlags.parse_eq (hsame : SameButFlags one other) :
    Packet.parse other = { Packet.parse one with raw := other } := by
  cases hsame with
  | ipv4 hversion hagree hone hother =>
    have hnonempty : 0 < one.length := by
      refine List.length_pos_iff.mpr ?_
      rintro rfl
      cases hversion
    have hversion' : highNibble (octetAt other 0) = 4 := by
      rwa [← hagree.octetAt_eq (by decide)]
    rw [Packet.parse, Packet.parse, head?_eq_octetAt hnonempty,
      head?_eq_octetAt (hagree.length_eq ▸ hnonempty), Option.map_some, Option.map_some, hversion,
      hversion']
    exact Packet.parseIpv4_congr (Ipv4.Header.parse?_eq_of_flags hagree hone hother)
  | ipv6 hstarts hheader hbehind =>
    have hfront : (one.take Ipv6.headerLength).length = Ipv6.headerLength :=
      List.length_take_of_le hstarts.1
    have hstartsFront : Ipv6.Header.Starts (one.take Ipv6.headerLength) :=
      ⟨hfront.ge, by rw [octetAt_take (by decide)]; exact hstarts.2⟩
    -- Both packets are the same header with something behind it.
    have hread (rest : Bytes) : Ipv6.Header.read (one.take Ipv6.headerLength ++ rest) =
        Ipv6.Header.read (one.take Ipv6.headerLength) :=
      Ipv6.Header.read_append hfront.ge rest
    have hone := hread (one.drop Ipv6.headerLength)
    have hother := hread (other.drop Ipv6.headerLength)
    rw [List.take_append_drop] at hone
    rw [hheader, List.take_append_drop, ← hheader] at hother
    have hstarts' := Ipv6.Header.starts_append hstartsFront (other.drop Ipv6.headerLength)
    rw [hheader, List.take_append_drop] at hstarts'
    exact Packet.parse_eq_of_upperLayer_eq hstarts hstarts' (hother.trans hone.symm)
      hbehind.upperLayer_eq

end PacketRefusal
