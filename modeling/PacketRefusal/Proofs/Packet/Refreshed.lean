import PacketRefusal.Proofs.Checksum.Consistency
import PacketRefusal.Proofs.Ipv6.Chain
import PacketRefusal.Proofs.Packet.Agreement
import PacketRefusal.Proofs.Packet.Received
import PacketRefusal.Proofs.Packet.Sealed
import PacketRefusal.Proofs.Packet.Truncation

/-!
# What computing checksums leaves alone

`checksumPositions` are the positions in which a packet keeps its checksums, counted out from the
standards: two octets in the header of IPv4, and two in the transport header, whose place depends on
the protocol and on the length of the IP header. Computing the checksums changes a packet in these
positions only (`Sealing.agreeExcept`), and what stood in them before has no part in the result
(`Sealing.run_refresh_of_agree`). So two buffers that differ in their checksums at most become the
same, and a second computation changes nothing.

Parsing does not look at checksums. Packets that agree except in them are read alike, since the
positions lie behind all the fields that are read: `Packet.parse_eq_of_checksums_ipv4` and
`Packet.parse_eq_of_checksums_ipv6`.
-/

set_option autoImplicit false
set_option relaxedAutoImplicit false

namespace PacketRefusal

open Bytes

namespace Checksum

/-! ### Where checksums stand -/

/-- The offset of the checksum in a transport header. The number `control` is that of the control
messages that belong to the version of IP. -/
def checksumOffset? (control protocol : UInt8) : Option ℕ :=
  if protocol = Tcp.protocol then some 16
  else if protocol = Udp.protocol then some 6
  else if protocol = control then some 2
  else none

/-- The positions of the checksum of transport octets that begin at some position. -/
def transportChecksumPositions (control protocol : UInt8) (start : ℕ) : Set ℕ :=
  {index | ∃ offset ∈ checksumOffset? control protocol,
    index ∈ Set.Ico (start + offset) (start + offset + 2)}

def checksumPositions (packet : Bytes) : Set ℕ :=
  {index |
    (highNibble (octetAt packet 0) = 4 ∧
      (index ∈ Set.Ico 10 12 ∨ index ∈ transportChecksumPositions Icmp.protocol
        (octetAt packet 9) (4 * lowNibble (octetAt packet 0)))) ∨
    (highNibble (octetAt packet 0) = 6 ∧
      index ∈ transportChecksumPositions Icmp.protocolV6 (octetAt packet 6) 40)}

/-- The end of a packet, as its header announces it. -/
def announcedEnd (packet : Bytes) : ℕ :=
  if highNibble (octetAt packet 0) = 4 then (wordAt packet 2).toNat
  else 40 + (wordAt packet 4).toNat

variable {header transport packet other buffer refreshed : Bytes} {control protocol : UInt8}

/-- No checksum stands in the first two octets of a transport header. -/
theorem le_of_mem_transportChecksumPositions {start index : ℕ}
    (hindex : index ∈ transportChecksumPositions control protocol start) : start + 2 ≤ index := by
  obtain ⟨offset, hoffset, hplace⟩ := hindex
  rw [checksumOffset?, Option.mem_def] at hoffset
  rw [Set.mem_Ico] at hplace
  split_ifs at hoffset <;> cases hoffset <;> omega

theorem add_mem_transportChecksumPositions {start index : ℕ}
    (hindex : start + index ∈ transportChecksumPositions control protocol start) :
    index ∈ transportChecksumPositions control protocol 0 := by
  obtain ⟨offset, hoffset, hplace⟩ := hindex
  rw [Set.mem_Ico] at hplace
  exact ⟨offset, hoffset, by rw [Set.mem_Ico]; omega⟩

theorem checksumPositions_of_version4 (hversion : highNibble (octetAt packet 0) = 4) :
    checksumPositions packet = Set.Ico 10 12 ∪ transportChecksumPositions Icmp.protocol
      (octetAt packet 9) (4 * lowNibble (octetAt packet 0)) := by
  ext index
  simp [checksumPositions, hversion]

theorem checksumPositions_of_version6 (hversion : highNibble (octetAt packet 0) = 6) :
    checksumPositions packet =
      transportChecksumPositions Icmp.protocolV6 (octetAt packet 6) 40 := by
  ext index
  simp [checksumPositions, hversion]

/-! ### Where a refreshed packet keeps them -/

theorem transportPositions_eq {field? : Option Field}
    (hoffset : checksumOffset? control protocol = field?.map fun field ↦ 2 * field.word)
    (start : ℕ) : transportPositions field? start =
      transportChecksumPositions control protocol start := by
  ext index
  rw [transportChecksumPositions, hoffset]
  cases field? <;> simp [transportPositions]

theorem checksumOffset?_overIpv4 (protocol : UInt8) :
    checksumOffset? Icmp.protocol protocol =
      (fieldOverIpv4? protocol).map fun field ↦ 2 * field.word := by
  unfold checksumOffset? fieldOverIpv4?
  split_ifs <;> rfl

theorem checksumOffset?_overIpv6 (protocol : UInt8) :
    checksumOffset? Icmp.protocolV6 protocol =
      (fieldOverIpv6? protocol).map fun field ↦ 2 * field.word := by
  unfold checksumOffset? fieldOverIpv6?
  split_ifs <;> rfl

theorem Ipv4Layout.checksumPositions_eq (hlayout : Ipv4Layout header transport) (rest : Bytes) :
    checksumPositions (header ++ transport ++ rest) = ipv4Positions header := by
  have hfirst := hlayout.octetAt_eq rest (by decide : 0 < 20)
  have hprotocol := hlayout.octetAt_eq rest (by decide : 9 < 20)
  rw [checksumPositions_of_version4 (by rw [hfirst, hlayout.version]), hfirst, hprotocol,
    hlayout.headerLength, ipv4Positions, transportPositions_eq (checksumOffset?_overIpv4 _)]
  rfl

theorem Ipv6Layout.checksumPositions_eq (hlayout : Ipv6Layout header transport) (rest : Bytes) :
    checksumPositions (header ++ transport ++ rest) = ipv6Positions header := by
  have hheader : header.length = 40 := hlayout.headerLength
  have hfirst := hlayout.octetAt_eq rest (by decide : 0 < 40)
  have hprotocol := hlayout.octetAt_eq rest (by decide : 6 < 40)
  rw [checksumPositions_of_version6 (by rw [hfirst, hlayout.version]), hprotocol, ipv6Positions,
    transportPositions_eq (checksumOffset?_overIpv6 _), hheader]

/-! ### What is changed -/

/-- Computing the checksums changes nothing else. -/
theorem Sealing.agreeExcept (hsealing : Sealing buffer refreshed) :
    AgreeExcept (checksumPositions buffer) refreshed buffer := by
  cases hsealing with
  | @ipv4 header transport hlayout rest =>
    rw [hlayout.checksumPositions_eq]
    exact (agreeExcept_sealIpv4 header transport).append_rest rest
  | @ipv6 header transport hlayout rest =>
    rw [hlayout.checksumPositions_eq]
    exact (agreeExcept_sealIpv6 header transport).append_rest rest

/-- The octets behind the announced end of a packet stay as they are. -/
theorem Sealing.drop_announcedEnd (hsealing : Sealing buffer refreshed) :
    refreshed.drop (announcedEnd buffer) = buffer.drop (announcedEnd buffer) := by
  cases hsealing with
  | @ipv4 header transport hlayout rest =>
    have hminimum : 20 ≤ header.length := hlayout.minimumLength
    have hlength := (agreeExcept_sealIpv4 header transport).length_eq
    have hend : announcedEnd (header ++ transport ++ rest) = (header ++ transport).length := by
      rw [announcedEnd, octetAt_append_append _ _ (by omega), if_pos hlayout.version,
        List.append_assoc, wordAt_append_left (by omega), hlayout.totalLength, List.length_append]
    rw [hend, List.drop_left, List.drop_left' hlength]
  | @ipv6 header transport hlayout rest =>
    have hheader : header.length = 40 := hlayout.headerLength
    have hlength := (agreeExcept_sealIpv6 header transport).length_eq
    have hend : announcedEnd (header ++ transport ++ rest) = (header ++ transport).length := by
      rw [announcedEnd, octetAt_append_append _ _ (by omega), hlayout.version, if_neg (by decide),
        List.append_assoc, wordAt_append_left (by omega), hlayout.payloadLength,
        List.length_append, hheader]
    rw [hend, List.drop_left, List.drop_left' hlength]

/-- What stood in the place of the checksums is forgotten. -/
theorem Sealing.run_refresh_of_agree (hsealing : Sealing buffer refreshed)
    (hagree : AgreeExcept (checksumPositions buffer) other buffer) :
    refresh.run other = .ok () refreshed := by
  cases hsealing with
  | ipv4 hlayout rest => exact run_refresh_ipv4 hlayout (hlayout.checksumPositions_eq rest ▸ hagree)
  | ipv6 hlayout rest => exact run_refresh_ipv6 hlayout (hlayout.checksumPositions_eq rest ▸ hagree)

end Checksum

open Checksum

variable {packet other buffer refreshed : Bytes} {control protocol : UInt8}

/-! ### What is read -/

/-- Transport octets that agree except in their checksum lead to the same packet. -/
theorem Packet.addTransport_eq_of_checksum (network : Packet) {first second : Bytes}
    (hagree : AgreeExcept (transportChecksumPositions control protocol 0) first second) :
    network.addTransport protocol first = network.addTransport protocol second := by
  refine addTransport_congr network hagree ?_ ?_ ?_
  · rintro rfl index ⟨offset, hoffset, hindex⟩
    cases hoffset
    rw [Set.mem_Ico] at hindex
    omega
  · rintro rfl index ⟨offset, hoffset, hindex⟩
    cases hoffset
    rw [Set.mem_Ico] at hindex
    omega
  · intro index hindex
    exact Nat.le_of_add_left_le (le_of_mem_transportChecksumPositions hindex)

/-- Packets over IPv4 that agree except in their checksums are parsed alike. -/
theorem Packet.parse_eq_of_checksums_ipv4 (hstarts : Ipv4.Header.Starts packet)
    (hagree : AgreeExcept (checksumPositions packet) other packet) :
    parse other = { parse packet with raw := other } := by
  obtain ⟨-, hversion, hwords, -⟩ := id hstarts
  rw [checksumPositions_of_version4 hversion] at hagree
  have hbehindHeader (index : ℕ) (hindex : index ∈ Set.Ico 10 12 ∪ transportChecksumPositions
      Icmp.protocol (octetAt packet 9) (4 * lowNibble (octetAt packet 0))) :
      index = 10 ∨ index = 11 ∨ 20 ≤ index := by
    rcases hindex with hown | htransport
    · rw [Set.mem_Ico] at hown
      omega
    · have hstart := le_of_mem_transportChecksumPositions htransport
      omega
  have hread : Ipv4.Header.read other = .read packet := Ipv4.Header.read_eq hagree hbehindHeader
  have hstarts' : Ipv4.Header.Starts other :=
    (Ipv4.Header.starts_iff hagree hbehindHeader).mpr hstarts
  have hprotocol : octetAt other 9 = octetAt packet 9 := congrArg Ipv4.Header.protocol hread
  have hbehind : AgreeExcept (transportChecksumPositions Icmp.protocol (octetAt packet 9) 0)
      (Ipv4.Header.behind other) (Ipv4.Header.behind packet) := by
    refine (Ipv4.Header.agreeExcept_behind hagree hbehindHeader).mono ?_
    rintro index (hown | htransport)
    · rw [Set.mem_Ico] at hown
      omega
    · exact add_mem_transportChecksumPositions htransport
  -- Of a later fragment only the number of octets is reported, so the protocol has no part in it.
  by_cases hfirst : (wordAt packet 6).toNat % 8192 = 0
  · have hfirst' : (wordAt other 6).toNat % 8192 = 0 := by
      rwa [← Ipv4.Header.isLaterFragment_read, hread, Ipv4.Header.isLaterFragment_read]
    rw [(Upper.ipv4 hstarts hfirst).parse_eq, (Upper.ipv4 hstarts' hfirst').parse_eq, hread,
      hprotocol, addTransport_eq_of_checksum _ hbehind]
    exact addTransport_raw { raw := packet, ipv4 := some (.read packet) } other
  · have hfirst' : (wordAt other 6).toNat % 8192 ≠ 0 := by
      intro hzero
      rw [← Ipv4.Header.isLaterFragment_read, hread, Ipv4.Header.isLaterFragment_read] at hzero
      exact hfirst hzero
    rw [parse_eq_of_laterFragment hstarts hfirst, parse_eq_of_laterFragment hstarts' hfirst',
      hread, hbehind.length_eq]

/-- A protocol that keeps a checksum over IPv6 is that of no extension header. -/
theorem Checksum.upper_of_checksumOffset? {offset : ℕ}
    (hoffset : checksumOffset? Icmp.protocolV6 protocol = some offset) :
    ¬Ipv6.CarriesLength protocol ∧ protocol ≠ Ipv6.fragment := by
  rw [checksumOffset?] at hoffset
  split_ifs at hoffset with hprotocol hprotocol hprotocol <;> subst hprotocol <;> decide

/-- Packets over IPv6 that agree except in their checksum are parsed alike. -/
theorem Packet.parse_eq_of_checksums_ipv6 (hstarts : Ipv6.Header.Starts packet)
    (hagree : AgreeExcept (checksumPositions packet) other packet) :
    parse other = { parse packet with raw := other } := by
  obtain ⟨-, hversion⟩ := id hstarts
  rw [checksumPositions_of_version6 hversion] at hagree
  cases hoffset : checksumOffset? Icmp.protocolV6 (octetAt packet 6) with
  | none =>
    -- Without a checksum there is nothing in which the packets could differ.
    obtain rfl : other = packet := by
      refine hagree.eq_of_subset_empty ?_
      rintro index ⟨offset, hmem, -⟩
      rw [hoffset] at hmem
      cases hmem
    exact congrArg (fun raw ↦ { parse other with raw }) (raw_parse other)
  | some offset =>
    have hbehindHeader (index : ℕ) (hindex : index ∈ transportChecksumPositions Icmp.protocolV6
        (octetAt packet 6) 40) : Ipv6.headerLength ≤ index :=
      Nat.le_of_add_right_le (le_of_mem_transportChecksumPositions hindex)
    have hread : Ipv6.Header.read other = .read packet := Ipv6.Header.read_eq hagree hbehindHeader
    have hstarts' : Ipv6.Header.Starts other :=
      (Ipv6.Header.starts_iff hagree hbehindHeader).mpr hstarts
    have hprotocol : octetAt other 6 = octetAt packet 6 := congrArg Ipv6.Header.nextHeader hread
    have hbehind : AgreeExcept (transportChecksumPositions Icmp.protocolV6 (octetAt packet 6) 0)
        (Ipv6.Header.behind other) (Ipv6.Header.behind packet) :=
      (Ipv6.Header.agreeExcept_behind hagree hbehindHeader).mono
        fun index hindex ↦ add_mem_transportChecksumPositions hindex
    obtain ⟨hcarries, hfragment⟩ := upper_of_checksumOffset? hoffset
    have hupper : Upper packet { raw := packet, ipv6 := some (.read packet) } (octetAt packet 6)
        (Ipv6.Header.behind packet) :=
      .ipv6 hstarts (Ipv6.upperLayer_of_upper hcarries hfragment _)
    have hupper' : Upper other { raw := other, ipv6 := some (.read packet) } (octetAt packet 6)
        (Ipv6.Header.behind other) := by
      rw [← hprotocol] at hcarries hfragment ⊢
      rw [← hread]
      exact .ipv6 hstarts' (Ipv6.upperLayer_of_upper hcarries hfragment _)
    rw [hupper.parse_eq, hupper'.parse_eq, addTransport_eq_of_checksum _ hbehind]
    exact addTransport_raw { raw := packet, ipv6 := some (.read packet) } other

/-- A packet is parsed alike before and after its checksums are computed. -/
theorem Checksum.Sealing.parse_eq (hsealing : Sealing buffer refreshed) :
    Packet.parse refreshed = { Packet.parse buffer with raw := refreshed } := by
  have hagree := hsealing.agreeExcept
  cases hsealing with
  | ipv4 hlayout rest =>
    exact Packet.parse_eq_of_checksums_ipv4 (Ipv4.Header.starts_append hlayout.starts rest) hagree
  | ipv6 hlayout rest =>
    exact Packet.parse_eq_of_checksums_ipv6 (Ipv6.Header.starts_append hlayout.starts rest) hagree

/-- Computing the checksums of a buffer changes these and nothing else: the octets in all other
positions are what they were, those behind the announced end among them. It forgets what stood in
their place: every buffer that agrees with this one except in its checksums becomes the same, and so
does the result itself. Parsing finds the same headers and the same payload length before and
after. -/
theorem refresh_changes_checksums_only (hrun : refresh.run buffer = .ok () refreshed) :
    AgreeExcept (checksumPositions buffer) refreshed buffer ∧
      refreshed.drop (announcedEnd buffer) = buffer.drop (announcedEnd buffer) ∧
      (∀ other, AgreeExcept (checksumPositions buffer) other buffer →
        refresh.run other = .ok () refreshed) ∧
      refresh.run refreshed = .ok () refreshed ∧
      (Packet.parse refreshed).toHeaders = (Packet.parse buffer).toHeaders ∧
      (Packet.parse refreshed).payloadLength = (Packet.parse buffer).payloadLength := by
  have hsealing := run_refresh_eq_ok_iff.mp hrun
  have hparse := hsealing.parse_eq
  refine ⟨hsealing.agreeExcept, hsealing.drop_announcedEnd, ?_, ?_, ?_, ?_⟩
  · intro other hagree
    exact hsealing.run_refresh_of_agree hagree
  · exact hsealing.run_refresh_of_agree hsealing.agreeExcept
  · rw [hparse]
  · rw [hparse]

theorem refresh_changes_checksums_only_of_datagramBehindOptions :
    refresh.run (datagramBehindOptions 0xAABB 0x1234) =
        .ok () (datagramBehindOptions 0x63C8 0x5A6B) ∧
      refresh.run (overwrite 10 [0, 0] (datagramBehindOptions 0xAABB 0x1234)) =
        .ok () (datagramBehindOptions 0x63C8 0x5A6B) ∧
      refresh.run (datagramBehindOptions 0x63C8 0x5A6B) =
        .ok () (datagramBehindOptions 0x63C8 0x5A6B) ∧
      (Packet.parse (datagramBehindOptions 0x63C8 0x5A6B)).toHeaders =
        (Packet.parse (datagramBehindOptions 0xAABB 0x1234)).toHeaders := by
  have hrun := sealing_datagramBehindOptions.run_refresh
  obtain ⟨-, -, hforgets, hagain, hheaders, -⟩ := refresh_changes_checksums_only hrun
  refine ⟨hrun, hforgets _ ?_, hagain, hheaders⟩
  refine (agreeExcept_overwrite 10 [0, 0] _).mono fun index hindex ↦ ?_
  exact Or.inl ⟨by decide, Or.inl hindex⟩

end PacketRefusal
