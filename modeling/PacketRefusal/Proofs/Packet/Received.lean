import PacketRefusal.Proofs.Checksum.Consistency
import PacketRefusal.Proofs.Checksum.PseudoHeader
import PacketRefusal.Proofs.Packet.Sealed
import PacketRefusal.Proofs.Packet.Truncation

/-!
# Refreshed packets verify

What a receiver checks of a packet depends on the packet alone: it reads the lengths and the
protocol from the header, adds up the words that a checksum covers, and expects sixteen ones.
`VerifiesOverIpv4` and `VerifiesOverIpv6` are these checks, for headers with any options and for
transport octets of any number. `verifies_of_run_refresh` says that every packet whose checksums
were computed passes them, and that it is still the packet that it was.

The sums are those of `Ipv4Layout.verifies_header`, `Ipv4Layout.verifies_transport` and
`Ipv6Layout.verifies_transport`. What is left is to find their parts in the buffer, whose last
octets may belong to no packet.
-/

set_option autoImplicit false
set_option relaxedAutoImplicit false

namespace PacketRefusal

open Bytes Checksum

def Ipv4.Header.pseudoHeader (ip : Header) : Bytes :=
  pseudoHeaderOverIpv4 (ip.source.octets ++ ip.destination.octets) ip.protocol
    (ip.totalLength.toNat - ip.length)

def Ipv6.Header.pseudoHeader (ip : Header) : Bytes :=
  pseudoHeaderOverIpv6 (ip.source.octets ++ ip.destination.octets) ip.nextHeader
    ip.payloadLength.toNat

/-- What a receiver checks of a packet over IPv4: the sum of its header, and the sum of the octets
behind it up to the total length, with the pseudo-header for TCP and UDP and alone for ICMP. -/
structure VerifiesOverIpv4 (packet : Bytes) : Prop where
  version : highNibble (octetAt packet 0) = 4
  header : Verifies (packet.take (4 * lowNibble (octetAt packet 0)))
  segment : octetAt packet 9 = Tcp.protocol ∨ octetAt packet 9 = Udp.protocol →
    Verifies ((Ipv4.Header.read packet).pseudoHeader ++ Ipv4.Header.behind packet)
  message : octetAt packet 9 = Icmp.protocol → Verifies (Ipv4.Header.behind packet)

/-- What a receiver checks of a packet over IPv6: the sum of the octets behind its header up to the
announced length, with the pseudo-header for TCP, UDP and ICMPv6. -/
structure VerifiesOverIpv6 (packet : Bytes) : Prop where
  version : highNibble (octetAt packet 0) = 6
  transport : octetAt packet 6 = Tcp.protocol ∨ octetAt packet 6 = Udp.protocol ∨
      octetAt packet 6 = Icmp.protocolV6 →
    Verifies ((Ipv6.Header.read packet).pseudoHeader ++ Ipv6.Header.behind packet)

namespace Checksum

variable {buffer refreshed header transport : Bytes}

/-! ### Over IPv4 -/

/-- The header of a refreshed packet over IPv4 is the one that it had. -/
theorem Ipv4Layout.read_refreshed (hlayout : Ipv4Layout header transport) (rest : Bytes) :
    Ipv4.Header.read (sealIpv4 header transport ++ rest) =
      .read (header ++ transport ++ rest) := by
  rw [Ipv4.Header.read_append hlayout.starts_seal.1, hlayout.read_seal,
    Ipv4.Header.read_append hlayout.starts.1]

theorem Ipv4Layout.behind_refreshed (hlayout : Ipv4Layout header transport) (rest : Bytes) :
    Ipv4.Header.behind (sealIpv4 header transport ++ rest) =
      (sealIpv4 header transport).drop header.length := by
  rw [Ipv4.Header.behind_append hlayout.starts_seal, hlayout.totalLength_seal, Nat.sub_self,
    List.take_zero, List.append_nil, Ipv4.Header.behind, hlayout.headerLength_seal,
    hlayout.totalLength_seal, List.take_length]

theorem Ipv4Layout.pseudoHeader_eq (hlayout : Ipv4Layout header transport) (rest : Bytes) :
    (Ipv4.Header.read (header ++ rest)).pseudoHeader =
      pseudoHeaderOverIpv4 ((header.drop 12).take 8) (octetAt header 9) transport.length := by
  have hminimum : 20 ≤ header.length := hlayout.minimumLength
  have hlength : (wordAt header 2).toNat - (Ipv4.Header.read header).length = transport.length := by
    rw [Ipv4.Header.length_read, hlayout.headerLength, hlayout.totalLength,
      Nat.add_sub_cancel_left]
  rw [Ipv4.Header.read_append hminimum, Ipv4.Header.pseudoHeader]
  change pseudoHeaderOverIpv4 (fit 4 (header.drop 12) ++ fit 4 (header.drop (12 + 4))) _ _ = _
  rw [fit_append_fit (by omega)]
  exact congrArg _ hlength

/-- A refreshed packet over IPv4 verifies. -/
theorem Ipv4Layout.verifies_refreshed (hlayout : Ipv4Layout header transport) (rest : Bytes) :
    VerifiesOverIpv4 (sealIpv4 header transport ++ rest) := by
  have hminimum : 20 ≤ header.length := hlayout.minimumLength
  have hstarts := hlayout.starts_seal
  have hread := hlayout.read_refreshed rest
  have hprotocol : octetAt (sealIpv4 header transport ++ rest) 9 = octetAt header 9 := by
    have hfield := congrArg Ipv4.Header.protocol hread
    rw [List.append_assoc, Ipv4.Header.read_append hminimum] at hfield
    exact hfield
  have htransport (field : Field) (hfield : fieldOverIpv4? (octetAt header 9) = some field) :=
    hlayout.verifies_transport hfield
  refine ⟨(Ipv4.Header.starts_append hstarts rest).2.1, ?_, ?_, ?_⟩
  · rw [octetAt_append_left (Nat.lt_of_lt_of_le (by decide) hstarts.1),
      hlayout.headerLength_seal, List.take_append_of_le_length]
    · exact hlayout.verifies_header
    · rw [sealIpv4, List.length_append, length_store]
      exact Nat.le_add_right _ _
  · rw [hprotocol, hread, List.append_assoc, hlayout.pseudoHeader_eq, hlayout.behind_refreshed]
    rintro (htcp | hudp)
    · exact htransport tcpField (by rw [htcp]; rfl)
    · exact htransport udpField (by rw [hudp]; rfl)
  · rw [hprotocol, hlayout.behind_refreshed]
    intro hicmp
    exact htransport icmpField (by rw [hicmp]; rfl)

/-! ### Over IPv6 -/

/-- The header of a refreshed packet over IPv6 is the one that it had. -/
theorem Ipv6Layout.read_refreshed (hlayout : Ipv6Layout header transport) (rest : Bytes) :
    Ipv6.Header.read (sealIpv6 header transport ++ rest) =
      .read (header ++ transport ++ rest) := by
  rw [Ipv6.Header.read_append hlayout.starts_seal.1, hlayout.read_seal,
    Ipv6.Header.read_append hlayout.starts.1]

theorem Ipv6Layout.behind_refreshed (hlayout : Ipv6Layout header transport) (rest : Bytes) :
    Ipv6.Header.behind (sealIpv6 header transport ++ rest) =
      (sealIpv6 header transport).drop header.length := by
  rw [Ipv6.Header.behind_append hlayout.starts_seal, hlayout.payloadLength_seal, Nat.sub_self,
    List.take_zero, List.append_nil, Ipv6.Header.behind, hlayout.payloadLength_seal,
    List.take_length, hlayout.headerLength]

theorem Ipv6Layout.pseudoHeader_eq (hlayout : Ipv6Layout header transport) (rest : Bytes) :
    (Ipv6.Header.read (header ++ rest)).pseudoHeader =
      pseudoHeaderOverIpv6 ((header.drop 8).take 32) (octetAt header 6) transport.length := by
  have hheader : header.length = 40 := hlayout.headerLength
  rw [Ipv6.Header.read_append hheader.ge, Ipv6.Header.pseudoHeader]
  change pseudoHeaderOverIpv6 (fit 16 (header.drop 8) ++ fit 16 (header.drop (8 + 16))) _ _ = _
  rw [fit_append_fit (by omega)]
  exact congrArg _ hlayout.payloadLength

/-- A refreshed packet over IPv6 verifies. -/
theorem Ipv6Layout.verifies_refreshed (hlayout : Ipv6Layout header transport) (rest : Bytes) :
    VerifiesOverIpv6 (sealIpv6 header transport ++ rest) := by
  have hheader : header.length = 40 := hlayout.headerLength
  have hread := hlayout.read_refreshed rest
  have hprotocol : octetAt (sealIpv6 header transport ++ rest) 6 = octetAt header 6 := by
    have hfield := congrArg Ipv6.Header.nextHeader hread
    rw [List.append_assoc, Ipv6.Header.read_append hheader.ge] at hfield
    exact hfield
  have htransport (field : Field) (hfield : fieldOverIpv6? (octetAt header 6) = some field) :=
    hlayout.verifies_transport hfield
  refine ⟨(Ipv6.Header.starts_append hlayout.starts_seal rest).2, ?_⟩
  rw [hprotocol, hread, List.append_assoc, hlayout.pseudoHeader_eq, hlayout.behind_refreshed]
  rintro (htcp | hudp | hicmpv6)
  · exact htransport tcpField (by rw [htcp]; rfl)
  · exact htransport udpField (by rw [hudp]; rfl)
  · exact htransport icmpv6Field (by rw [hicmpv6]; rfl)

/-! ### Every packet -/

/-- Whenever checksums were computed, the buffer holds a packet of one of the two versions. Its
header fields are those that it had before, and all checksums that a receiver knows of verify. -/
theorem verifies_of_run_refresh (hrun : refresh.run buffer = .ok () refreshed) :
    (highNibble (octetAt buffer 0) = 4 ∧ Ipv4.Header.read refreshed = .read buffer ∧
        VerifiesOverIpv4 refreshed) ∨
      (highNibble (octetAt buffer 0) = 6 ∧ Ipv6.Header.read refreshed = .read buffer ∧
        VerifiesOverIpv6 refreshed) := by
  cases run_refresh_eq_ok_iff.mp hrun with
  | ipv4 hlayout rest =>
    have hstarts := Ipv4.Header.starts_append hlayout.starts rest
    exact Or.inl ⟨hstarts.2.1, hlayout.read_refreshed rest, hlayout.verifies_refreshed rest⟩
  | ipv6 hlayout rest =>
    have hstarts := Ipv6.Header.starts_append hlayout.starts rest
    exact Or.inr ⟨hstarts.2, hlayout.read_refreshed rest, hlayout.verifies_refreshed rest⟩

/-- An IPv4 header with options, with some checksum. -/
def headerWithOptions (checksum : UInt16) : Bytes :=
  [0x46, 0, 0, 33, 0, 1, 0, 0, 64, 17] ++ ofWord checksum ++ [10, 0, 0, 1, 10, 0, 0, 2, 1, 1, 1, 0]

/-- A datagram of odd length, with some checksum. -/
def oddDatagram (checksum : UInt16) : Bytes :=
  [0x30, 0x39, 0, 53, 0, 9] ++ ofWord checksum ++ [0x61]

/-- The datagram behind the header, and octets behind both that belong to no packet. -/
def datagramBehindOptions (headerChecksum datagramChecksum : UInt16) : Bytes :=
  headerWithOptions headerChecksum ++ oddDatagram datagramChecksum ++ [0xFF, 0xFF, 0xFF]

theorem sealing_datagramBehindOptions :
    Sealing (datagramBehindOptions 0xAABB 0x1234) (datagramBehindOptions 0x63C8 0x5A6B) := by
  have hlayout : Ipv4Layout (headerWithOptions 0xAABB) (oddDatagram 0x1234) := {
    version := by decide
    headerLength := by decide
    minimumLength := by decide
    totalLength := by decide
    transportLength := by
      intro field hfield
      cases hfield
      decide }
  have hseal : sealIpv4 (headerWithOptions 0xAABB) (oddDatagram 0x1234) =
      headerWithOptions 0x63C8 ++ oddDatagram 0x5A6B := by
    cbv
  have hsealing := Sealing.ipv4 hlayout [0xFF, 0xFF, 0xFF]
  rwa [hseal] at hsealing

theorem verifies_of_datagramBehindOptions :
    refresh.run (datagramBehindOptions 0xAABB 0x1234) =
        .ok () (datagramBehindOptions 0x63C8 0x5A6B) ∧
      VerifiesOverIpv4 (datagramBehindOptions 0x63C8 0x5A6B) := by
  have hrun := sealing_datagramBehindOptions.run_refresh
  refine ⟨hrun, ?_⟩
  rcases verifies_of_run_refresh hrun with ⟨-, -, hverifies⟩ | ⟨hversion, -⟩
  · exact hverifies
  · exact absurd hversion (by decide)

end Checksum

end PacketRefusal
