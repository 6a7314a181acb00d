import PacketRefusal.Proofs.Checksum.Refreshing
import PacketRefusal.Proofs.Packet.Agreement
import PacketRefusal.Proofs.Packet.Parsing

/-!
# Reading sealed packets

A packet that is laid out as a header and the transport octets it announces is read back as such,
before and after its checksums are stored: it starts with a network header
(`Ipv4Layout.starts_seal`, `Ipv6Layout.starts_seal`), the header is that of the layout
(`Ipv4Layout.read_seal`, `Ipv6Layout.read_seal`), and the octets behind it are the transport octets
(`Ipv4Layout.behind_eq`, `Ipv6Layout.behind_eq`, `Ipv4Layout.behind_seal`,
`Ipv6Layout.behind_seal`).
-/

set_option autoImplicit false
set_option relaxedAutoImplicit false

namespace PacketRefusal.Checksum

open Bytes

variable {header transport : Bytes}

/-! ### IPv4 -/

/-- The checksums of a packet over IPv4 stand in the checksum field of its header or behind it. -/
theorem Ipv4Layout.positions (hlayout : Ipv4Layout header transport) (index : ℕ)
    (hindex : index ∈ ipv4Positions header) : index = 10 ∨ index = 11 ∨ 20 ≤ index := by
  have hminimum : 20 ≤ header.length := hlayout.minimumLength
  rcases hindex with hindex | ⟨field, -, hindex⟩
  · simp only [wordPositions, Set.mem_Ico] at hindex
    omega
  · rw [Set.mem_Ico] at hindex
    omega

theorem Ipv4Layout.starts (hlayout : Ipv4Layout header transport) :
    Ipv4.Header.Starts (header ++ transport) := by
  have hminimum : 20 ≤ header.length := hlayout.minimumLength
  have hwords := hlayout.headerLength
  have htotal := hlayout.totalLength
  rw [Ipv4.Header.Starts, octetAt_append_left (by omega), wordAt_append_left (by omega),
    hlayout.version, List.length_append]
  refine ⟨Nat.le_trans hminimum (Nat.le_add_right _ _), rfl, ?_, ?_, ?_⟩ <;> omega

/-- The octets behind the header of a packet are its transport octets. -/
theorem Ipv4Layout.behind_eq (hlayout : Ipv4Layout header transport) (rest : Bytes) :
    Ipv4.Header.behind (header ++ transport ++ rest) = transport := by
  have hminimum : 20 ≤ header.length := hlayout.minimumLength
  rw [Ipv4.Header.behind, hlayout.octetAt_eq rest (by decide), hlayout.headerLength,
    List.append_assoc, wordAt_append_left (by omega), hlayout.totalLength, ← List.append_assoc,
    ← List.length_append, List.take_left, List.drop_left]

theorem Ipv4Layout.starts_seal (hlayout : Ipv4Layout header transport) :
    Ipv4.Header.Starts (sealIpv4 header transport) :=
  (Ipv4.Header.starts_iff (agreeExcept_sealIpv4 header transport) hlayout.positions).mpr
    hlayout.starts

theorem Ipv4Layout.read_seal (hlayout : Ipv4Layout header transport) :
    Ipv4.Header.read (sealIpv4 header transport) = .read (header ++ transport) :=
  Ipv4.Header.read_eq (agreeExcept_sealIpv4 header transport) hlayout.positions

theorem Ipv4Layout.headerLength_seal (hlayout : Ipv4Layout header transport) :
    4 * lowNibble (octetAt (sealIpv4 header transport) 0) = header.length := by
  have hminimum : 20 ≤ header.length := hlayout.minimumLength
  rw [← Ipv4.Header.length_read, hlayout.read_seal, Ipv4.Header.length_read,
    octetAt_append_left (by omega), hlayout.headerLength]

/-- A sealed packet announces its own length. -/
theorem Ipv4Layout.totalLength_seal (hlayout : Ipv4Layout header transport) :
    (wordAt (sealIpv4 header transport) 2).toNat = (sealIpv4 header transport).length := by
  have hminimum : 20 ≤ header.length := hlayout.minimumLength
  have hword := congrArg Ipv4.Header.totalLength hlayout.read_seal
  simp only [Ipv4.Header.read] at hword
  rw [hword, wordAt_append_left (by omega), hlayout.totalLength, sealIpv4, List.length_append,
    length_store, length_sealTransport]

/-- The octets behind the header of a sealed packet are the sealed transport octets. -/
theorem Ipv4Layout.behind_seal (hlayout : Ipv4Layout header transport) :
    Ipv4.Header.behind (sealIpv4 header transport) =
      sealTransport (fieldOverIpv4? (octetAt header 9)) ((header.drop 12).take 8)
        (octetAt header 9) transport := by
  rw [Ipv4.Header.behind, hlayout.headerLength_seal, hlayout.totalLength_seal, List.take_length,
    sealIpv4, List.drop_left' (length_store 0 5 header)]

/-! ### IPv6 -/

/-- The checksum of a packet over IPv6 stands behind its header. -/
theorem Ipv6Layout.positions (hlayout : Ipv6Layout header transport) (index : ℕ)
    (hindex : index ∈ ipv6Positions header) : Ipv6.headerLength ≤ index := by
  obtain ⟨field, -, hindex⟩ := hindex
  rw [hlayout.headerLength, Set.mem_Ico] at hindex
  omega

theorem Ipv6Layout.starts (hlayout : Ipv6Layout header transport) :
    Ipv6.Header.Starts (header ++ transport) := by
  have hheader : header.length = 40 := hlayout.headerLength
  rw [Ipv6.Header.Starts, octetAt_append_left (by omega), hlayout.version, List.length_append,
    hlayout.headerLength]
  exact ⟨Nat.le_add_right _ _, rfl⟩

/-- The octets behind the header of a packet are its transport octets. -/
theorem Ipv6Layout.behind_eq (hlayout : Ipv6Layout header transport) (rest : Bytes) :
    Ipv6.Header.behind (header ++ transport ++ rest) = transport := by
  have hheader : header.length = 40 := hlayout.headerLength
  rw [Ipv6.Header.behind, List.append_assoc, wordAt_append_left (by omega), hlayout.payloadLength,
    ← hlayout.headerLength, ← List.append_assoc, ← List.length_append, List.take_left,
    List.drop_left]

theorem Ipv6Layout.starts_seal (hlayout : Ipv6Layout header transport) :
    Ipv6.Header.Starts (sealIpv6 header transport) :=
  (Ipv6.Header.starts_iff (agreeExcept_sealIpv6 header transport) hlayout.positions).mpr
    hlayout.starts

theorem Ipv6Layout.read_seal (hlayout : Ipv6Layout header transport) :
    Ipv6.Header.read (sealIpv6 header transport) = .read (header ++ transport) :=
  Ipv6.Header.read_eq (agreeExcept_sealIpv6 header transport) hlayout.positions

/-- A sealed packet announces its own length. -/
theorem Ipv6Layout.payloadLength_seal (hlayout : Ipv6Layout header transport) :
    Ipv6.headerLength + (wordAt (sealIpv6 header transport) 4).toNat =
      (sealIpv6 header transport).length := by
  have hheader : header.length = 40 := hlayout.headerLength
  have hword := congrArg Ipv6.Header.payloadLength hlayout.read_seal
  simp only [Ipv6.Header.read] at hword
  rw [hword, wordAt_append_left (by omega), hlayout.payloadLength, sealIpv6, List.length_append,
    length_sealTransport, hlayout.headerLength]

/-- The octets behind the header of a sealed packet are the sealed transport octets. -/
theorem Ipv6Layout.behind_seal (hlayout : Ipv6Layout header transport) :
    Ipv6.Header.behind (sealIpv6 header transport) =
      sealTransport (fieldOverIpv6? (octetAt header 6)) ((header.drop 8).take 32)
        (octetAt header 6) transport := by
  rw [Ipv6.Header.behind, hlayout.payloadLength_seal, List.take_length, sealIpv6,
    List.drop_left' hlayout.headerLength]

end PacketRefusal.Checksum
