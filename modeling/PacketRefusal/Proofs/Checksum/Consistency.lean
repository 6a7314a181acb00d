import PacketRefusal.Proofs.Checksum.Refreshing

/-!
# Which buffers get checksums

The checksums of a packet can be computed when its length fields fit each other, the buffer, and the
header of the protocol that it carries. `ConsistentOverIpv4` and `ConsistentOverIpv6` say so of the
octets. A consistent buffer is laid out as a packet with a rest (`ConsistentOverIpv4.exists_layout`,
`ConsistentOverIpv6.exists_layout`), so that its checksums are stored as `sealIpv4` and `sealIpv6`
say. `Sealing` is the relation between such a buffer and what becomes of it, and
`run_refresh_eq_ok_iff` finds it behind every success.

Over IPv4 the transport checksum is stored before the header checksum, and each of these steps can
fail. `run_refresh_of_not_consistent` shows that every failure comes before anything is stored, so
that `refresh_succeeds_iff_consistent` leaves two cases only: the checksums are stored, or the
buffer stays as it is.
-/

set_option autoImplicit false
set_option relaxedAutoImplicit false

namespace PacketRefusal.Checksum

open Bytes

variable {buffer refreshed : Bytes} {control protocol : UInt8} {length : ℕ}

/-! ### Consistent buffers -/

/-- Transport octets have room for the header of their protocol. The number `control` is that of the
control messages that belong to the version of IP. -/
structure RoomForHeader (control protocol : UInt8) (length : ℕ) : Prop where
  tcp : protocol = Tcp.protocol → 20 ≤ length
  udp : protocol = Udp.protocol → 8 ≤ length
  message : protocol = control → 4 ≤ length

/-- The lengths in a buffer that starts with an IPv4 header fit each other and the buffer. -/
structure ConsistentOverIpv4 (buffer : Bytes) : Prop where
  version : highNibble (octetAt buffer 0) = 4
  minimum_le : 20 ≤ buffer.length
  headerWords : 5 ≤ lowNibble (octetAt buffer 0)
  header_le : 4 * lowNibble (octetAt buffer 0) ≤ (wordAt buffer 2).toNat
  total_le : (wordAt buffer 2).toNat ≤ buffer.length
  room : RoomForHeader Icmp.protocol (octetAt buffer 9)
    ((wordAt buffer 2).toNat - 4 * lowNibble (octetAt buffer 0))

/-- The lengths in a buffer that starts with an IPv6 header fit the buffer. -/
structure ConsistentOverIpv6 (buffer : Bytes) : Prop where
  version : highNibble (octetAt buffer 0) = 6
  minimum_le : 40 ≤ buffer.length
  payload_le : 40 + (wordAt buffer 4).toNat ≤ buffer.length
  room : RoomForHeader Icmp.protocolV6 (octetAt buffer 6) (wordAt buffer 4).toNat

/-- The lengths in a buffer allow for computing the checksums of a packet. -/
def Consistent (buffer : Bytes) : Prop := ConsistentOverIpv4 buffer ∨ ConsistentOverIpv6 buffer

/-- There is room for a header when there are the octets that its checksum requires. -/
theorem roomForHeader_iff {field : Field} (hfield : field.minimumLength = 4)
    (htcp : control ≠ Tcp.protocol) (hudp : control ≠ Udp.protocol) :
    RoomForHeader control protocol length ↔
      ∀ other ∈ (if protocol = Tcp.protocol then some tcpField
        else if protocol = Udp.protocol then some udpField
        else if protocol = control then some field
        else none), other.minimumLength ≤ length := by
  constructor
  · intro hroom other hother
    rw [Option.mem_def] at hother
    split_ifs at hother with hprotocol hprotocol hprotocol
    · cases hother
      exact hroom.tcp hprotocol
    · cases hother
      exact hroom.udp hprotocol
    · cases hother
      exact hfield ▸ hroom.message hprotocol
  · intro hlengths
    constructor
    · rintro rfl
      exact hlengths tcpField rfl
    · rintro rfl
      exact hlengths udpField rfl
    · rintro rfl
      rw [if_neg htcp, if_neg hudp, if_pos rfl] at hlengths
      exact hfield ▸ hlengths field rfl

theorem roomForHeader_iff_overIpv4 : RoomForHeader Icmp.protocol protocol length ↔
    ∀ field ∈ fieldOverIpv4? protocol, field.minimumLength ≤ length :=
  roomForHeader_iff rfl (by decide) (by decide)

theorem roomForHeader_iff_overIpv6 : RoomForHeader Icmp.protocolV6 protocol length ↔
    ∀ field ∈ fieldOverIpv6? protocol, field.minimumLength ≤ length :=
  roomForHeader_iff rfl (by decide) (by decide)

theorem ConsistentOverIpv4.exists_layout (hconsistent : ConsistentOverIpv4 buffer) :
    ∃ header transport rest, buffer = header ++ transport ++ rest ∧
      Ipv4Layout header transport := by
  obtain ⟨header, transport, rest, hbuffer, -, hstart, hstop⟩ :=
    exists_parts hconsistent.header_le hconsistent.total_le
  have hwords := hconsistent.headerWords
  have hread (index : ℕ) (hindex : index < 20) : octetAt buffer index = octetAt header index := by
    rw [hbuffer, octetAt_append_append transport rest (by omega)]
  have htotal : wordAt buffer 2 = wordAt header 2 := by
    rw [wordAt, wordAt, hread 2 (by decide), hread 3 (by decide)]
  refine ⟨header, transport, rest, hbuffer, ?_⟩
  exact {
    version := hread 0 (by decide) ▸ hconsistent.version
    headerLength := hread 0 (by decide) ▸ hstart.symm
    minimumLength := by
      rw [hstart, Ipv4.minimumHeaderLength]
      omega
    totalLength := htotal ▸ hstop.symm
    transportLength := by
      have hroom := roomForHeader_iff_overIpv4.mp hconsistent.room
      rwa [hread 9 (by decide), ← hstop, ← hstart, Nat.add_sub_cancel_left] at hroom }

theorem ConsistentOverIpv6.exists_layout (hconsistent : ConsistentOverIpv6 buffer) :
    ∃ header transport rest, buffer = header ++ transport ++ rest ∧
      Ipv6Layout header transport := by
  obtain ⟨header, transport, rest, hbuffer, -, hstart, hstop⟩ :=
    exists_parts (Nat.le_add_right 40 _) hconsistent.payload_le
  have hread (index : ℕ) (hindex : index < 40) : octetAt buffer index = octetAt header index := by
    rw [hbuffer, octetAt_append_append transport rest (by omega)]
  have hpayload : wordAt buffer 4 = wordAt header 4 := by
    rw [wordAt, wordAt, hread 4 (by decide), hread 5 (by decide)]
  have hlength : (wordAt buffer 4).toNat = transport.length := by omega
  refine ⟨header, transport, rest, hbuffer, ?_⟩
  exact {
    version := hread 0 (by decide) ▸ hconsistent.version
    headerLength := hstart
    payloadLength := hpayload ▸ hlength
    transportLength := by
      have hroom := roomForHeader_iff_overIpv6.mp hconsistent.room
      rwa [hread 6 (by decide), hlength] at hroom }

/-! ### Success -/

/-- A buffer whose checksums can be computed, and what becomes of it. -/
inductive Sealing : Bytes → Bytes → Prop
  | ipv4 {header transport : Bytes} (hlayout : Ipv4Layout header transport) (rest : Bytes) :
    Sealing (header ++ transport ++ rest) (sealIpv4 header transport ++ rest)
  | ipv6 {header transport : Bytes} (hlayout : Ipv6Layout header transport) (rest : Bytes) :
    Sealing (header ++ transport ++ rest) (sealIpv6 header transport ++ rest)

theorem Sealing.run_refresh (hsealing : Sealing buffer refreshed) :
    refresh.run buffer = .ok () refreshed := by
  cases hsealing with
  | ipv4 hlayout rest => exact run_refresh_ipv4 hlayout (.refl _ _)
  | ipv6 hlayout rest => exact run_refresh_ipv6 hlayout (.refl _ _)

theorem Consistent.exists_sealing (hconsistent : Consistent buffer) :
    ∃ refreshed, Sealing buffer refreshed := by
  rcases hconsistent with hipv4 | hipv6
  · obtain ⟨header, transport, rest, rfl, hlayout⟩ := hipv4.exists_layout
    exact ⟨_, .ipv4 hlayout rest⟩
  · obtain ⟨header, transport, rest, rfl, hlayout⟩ := hipv6.exists_layout
    exact ⟨_, .ipv6 hlayout rest⟩

/-! ### Failure -/

/-- Too few transport octets are left alone. -/
theorem run_refreshTransport_of_short {field? : Option Field} {start stop : ℕ}
    (hshort : ¬∀ field ∈ field?, field.minimumLength ≤ ((buffer.take stop).drop start).length)
    (addresses : Bytes) (protocol : UInt8) :
    ∃ error, (refreshTransport field? addresses protocol start stop).run buffer =
      .error error buffer := by
  rw [run_refreshTransport]
  cases field? with
  | none => exact (hshort nofun).elim
  | some field =>
    refine ⟨field.short, if_pos ?_⟩
    by_contra hlong
    refine hshort fun other hother ↦ ?_
    cases hother
    exact Nat.le_of_not_lt hlong

/-- A packet over IPv4 that is not consistent fails before anything is stored. -/
theorem run_refreshIpv4_of_not_consistent (hversion : highNibble (octetAt buffer 0) = 4)
    (hinconsistent : ¬ConsistentOverIpv4 buffer) :
    ∃ error, refreshIpv4.run buffer = .error error buffer := by
  rw [run_refreshIpv4]
  by_cases hshort : buffer.length < Ipv4.minimumHeaderLength
  · exact ⟨_, if_pos hshort⟩
  rw [if_neg hshort]
  by_cases hlengths : 4 * lowNibble (octetAt buffer 0) < Ipv4.minimumHeaderLength ∨
      (wordAt buffer 2).toNat < 4 * lowNibble (octetAt buffer 0) ∨
      buffer.length < (wordAt buffer 2).toNat
  · exact ⟨_, if_pos hlengths⟩
  rw [if_neg hlengths]
  -- The lengths fit, so the transport octets are too few, and they are the first to be stored.
  simp only [not_or, Nat.not_lt, Ipv4.minimumHeaderLength] at hshort hlengths
  obtain ⟨hwords, hheader, htotal⟩ := hlengths
  have hlength : ((buffer.take (wordAt buffer 2).toNat).drop
      (4 * lowNibble (octetAt buffer 0))).length =
        (wordAt buffer 2).toNat - 4 * lowNibble (octetAt buffer 0) := by
    rw [List.length_drop, List.length_take_of_le htotal]
  have hnoRoom : ¬RoomForHeader Icmp.protocol (octetAt buffer 9)
      ((wordAt buffer 2).toNat - 4 * lowNibble (octetAt buffer 0)) := fun hroom ↦
    hinconsistent ⟨hversion, hshort, by omega, hheader, htotal, hroom⟩
  rw [roomForHeader_iff_overIpv4, ← hlength] at hnoRoom
  obtain ⟨error, hrefused⟩ := run_refreshTransport_of_short hnoRoom
    ((buffer.drop 12).take 8) (octetAt buffer 9)
  rw [hrefused]
  exact ⟨error, rfl⟩

/-- A packet over IPv6 that is not consistent fails before anything is stored. -/
theorem run_refreshIpv6_of_not_consistent (hversion : highNibble (octetAt buffer 0) = 6)
    (hinconsistent : ¬ConsistentOverIpv6 buffer) :
    ∃ error, refreshIpv6.run buffer = .error error buffer := by
  rw [run_refreshIpv6]
  by_cases hshort : buffer.length < Ipv6.headerLength
  · exact ⟨_, if_pos hshort⟩
  rw [if_neg hshort]
  by_cases hlengths : buffer.length < Ipv6.headerLength + (wordAt buffer 4).toNat
  · exact ⟨_, if_pos hlengths⟩
  rw [if_neg hlengths]
  rw [Nat.not_lt] at hshort hlengths
  have hlength : ((buffer.take (Ipv6.headerLength + (wordAt buffer 4).toNat)).drop
      Ipv6.headerLength).length = (wordAt buffer 4).toNat := by
    rw [List.length_drop, List.length_take_of_le hlengths, Nat.add_sub_cancel_left]
  have hnoRoom : ¬RoomForHeader Icmp.protocolV6 (octetAt buffer 6) (wordAt buffer 4).toNat :=
    fun hroom ↦ hinconsistent ⟨hversion, hshort, hlengths, hroom⟩
  rw [roomForHeader_iff_overIpv6, ← hlength] at hnoRoom
  exact run_refreshTransport_of_short hnoRoom _ _

theorem highNibble_of_head? {version : ℕ} (hversion : buffer.head?.map highNibble = some version) :
    highNibble (octetAt buffer 0) = version := by
  cases buffer with
  | nil => cases hversion
  | cons octet rest => exact Option.some.inj hversion

/-- A buffer that is not consistent stays as it is. -/
theorem run_refresh_of_not_consistent (hinconsistent : ¬Consistent buffer) :
    ∃ error, refresh.run buffer = .error error buffer := by
  rw [Consistent, not_or] at hinconsistent
  rw [run_refresh]
  split
  · next hversion =>
    exact run_refreshIpv4_of_not_consistent (highNibble_of_head? hversion) hinconsistent.1
  · next hversion =>
    exact run_refreshIpv6_of_not_consistent (highNibble_of_head? hversion) hinconsistent.2
  · exact ⟨.unknownVersion, rfl⟩

/-! ### The two cases -/

/-- Whenever the checksums of a buffer are computed, it was laid out as a packet with a rest, and
its checksums are stored. -/
theorem run_refresh_eq_ok_iff :
    refresh.run buffer = .ok () refreshed ↔ Sealing buffer refreshed := by
  constructor
  · intro hrun
    by_cases hconsistent : Consistent buffer
    · obtain ⟨stored, hsealing⟩ := hconsistent.exists_sealing
      obtain rfl : stored = refreshed := by
        have hboth := hsealing.run_refresh.symm.trans hrun
        cases hboth
        rfl
      exact hsealing
    · obtain ⟨error, hrefused⟩ := run_refresh_of_not_consistent hconsistent
      rw [hrefused] at hrun
      cases hrun
  · exact Sealing.run_refresh

/-- The checksums of a buffer are computed if and only if its lengths are consistent. In all other
cases there is an error, and the buffer is what it was before. -/
theorem refresh_succeeds_iff_consistent (buffer : Bytes) :
    ((∃ refreshed, refresh.run buffer = .ok () refreshed) ↔ Consistent buffer) ∧
      ((∃ error, refresh.run buffer = .error error buffer) ↔ ¬Consistent buffer) := by
  have hsuccess (hconsistent : Consistent buffer) :
      ∃ refreshed, refresh.run buffer = .ok () refreshed := by
    obtain ⟨refreshed, hsealing⟩ := hconsistent.exists_sealing
    exact ⟨refreshed, hsealing.run_refresh⟩
  refine ⟨⟨?_, hsuccess⟩, ?_, run_refresh_of_not_consistent⟩
  · rintro ⟨refreshed, hrun⟩
    by_contra hinconsistent
    obtain ⟨error, hrefused⟩ := run_refresh_of_not_consistent hinconsistent
    rw [hrefused] at hrun
    cases hrun
  · rintro ⟨error, hrefused⟩ hconsistent
    obtain ⟨refreshed, hrun⟩ := hsuccess hconsistent
    rw [hrefused] at hrun
    cases hrun

end PacketRefusal.Checksum
