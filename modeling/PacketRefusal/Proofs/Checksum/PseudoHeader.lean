import Mathlib.Tactic.SplitIfs
import PacketRefusal.Proofs.Checksum.Refreshing

/-!
# Sealed packets verify

A transport checksum also covers a pseudo-header, which no packet contains: the addresses, the
protocol number and the length of the transport octets. `pseudoHeaderOverIpv4` and
`pseudoHeaderOverIpv6` are its octets as the standards lay them out, and their sums are the amounts
that are added when a checksum is computed. Hence a packet whose checksums were stored verifies:
`Ipv4Layout.verifies_header` for the header of IPv4, `Ipv4Layout.verifies_transport` and
`Ipv6Layout.verifies_transport` for the transport octets.
-/

set_option autoImplicit false
set_option relaxedAutoImplicit false

namespace PacketRefusal.Checksum

open Bytes

variable {header transport addresses : Bytes} {length : ℕ} {field : Field}

/-! ### Pseudo-headers -/

/-- The pseudo-header over IPv4: addresses, a zero octet, the protocol number and the length. -/
def pseudoHeaderOverIpv4 (addresses : Bytes) (protocol : UInt8) (length : ℕ) : Bytes :=
  addresses ++ [0, protocol] ++ ofWord (.ofNat length)

/-- The pseudo-header over IPv6: addresses, the length, three zero octets and the protocol
number. -/
def pseudoHeaderOverIpv6 (addresses : Bytes) (protocol : UInt8) (length : ℕ) : Bytes :=
  addresses ++ ofLong (.ofNat length) ++ [0, 0, 0, protocol]

theorem even_pseudoHeaderOverIpv4 (heven : 2 ∣ addresses.length) (protocol : UInt8) (length : ℕ) :
    2 ∣ (pseudoHeaderOverIpv4 addresses protocol length).length := by
  rw [pseudoHeaderOverIpv4, List.length_append, List.length_append]
  exact Nat.dvd_add (Nat.dvd_add heven (by simp)) (by simp)

theorem even_pseudoHeaderOverIpv6 (heven : 2 ∣ addresses.length) (protocol : UInt8) (length : ℕ) :
    2 ∣ (pseudoHeaderOverIpv6 addresses protocol length).length := by
  rw [pseudoHeaderOverIpv6, List.length_append, List.length_append]
  exact Nat.dvd_add (Nat.dvd_add heven (by simp)) (by simp)

theorem wordSum_ofLong (long : UInt32) :
    wordSum (ofLong long) = long.toNat / 65536 + long.toNat % 65536 := by
  have hlong := long.toNat_lt
  rw [ofLong, wordSum_append (by simp), wordSum_ofWord, wordSum_ofWord,
    UInt16.toNat_ofNat_of_lt' (by simp [UInt16.size]; omega),
    UInt16.toNat_ofNat_of_lt' (by simp [UInt16.size]; omega)]

theorem wordSum_pseudoHeaderOverIpv4 (heven : 2 ∣ addresses.length) (protocol : UInt8)
    (hlength : length < 65536) :
    wordSum (pseudoHeaderOverIpv4 addresses protocol length) =
      pseudoHeaderSum addresses protocol length := by
  have hfront : 2 ∣ (addresses ++ [0, protocol]).length := by
    rw [List.length_append]
    exact Nat.dvd_add heven (by simp)
  rw [pseudoHeaderOverIpv4, wordSum_append hfront, wordSum_append heven, wordSum_ofWord,
    UInt16.toNat_ofNat_of_lt' hlength, pseudoHeaderSum]
  simp [wordSum]

theorem wordSum_pseudoHeaderOverIpv6 (heven : 2 ∣ addresses.length) (protocol : UInt8)
    (hlength : length < 65536) :
    wordSum (pseudoHeaderOverIpv6 addresses protocol length) =
      pseudoHeaderSum addresses protocol length := by
  have hfront : 2 ∣ (addresses ++ ofLong (.ofNat length)).length := by
    rw [List.length_append]
    exact Nat.dvd_add heven (by simp)
  have hlong : (UInt32.ofNat length).toNat = length :=
    UInt32.toNat_ofNat_of_lt' (Nat.lt_trans hlength (by decide))
  rw [pseudoHeaderOverIpv6, wordSum_append hfront, wordSum_append heven, wordSum_ofLong, hlong,
    pseudoHeaderSum, Nat.div_eq_of_lt hlength, Nat.mod_eq_of_lt hlength]
  simp only [wordSum, UInt8.toNat_zero]
  omega

/-! ### Sealed packets -/

theorem Ipv4Layout.even_addresses (hlayout : Ipv4Layout header transport) :
    2 ∣ ((header.drop 12).take 8).length := by
  have hminimum : 20 ≤ header.length := hlayout.minimumLength
  rw [List.length_take_of_le (by simp; omega)]
  decide

theorem Ipv6Layout.even_addresses (hlayout : Ipv6Layout header transport) :
    2 ∣ ((header.drop 8).take 32).length := by
  have hheader : header.length = 40 := hlayout.headerLength
  rw [List.length_take_of_le (by simp; omega)]
  decide

/-- The length of the transport octets fits the pseudo-header. -/
theorem Ipv4Layout.transport_lt (hlayout : Ipv4Layout header transport) :
    transport.length < 65536 := by
  have htotal := hlayout.totalLength
  have hsmall := (wordAt header 2).toNat_lt
  omega

/-- The length of the transport octets fits the pseudo-header. -/
theorem Ipv6Layout.transport_lt (hlayout : Ipv6Layout header transport) :
    transport.length < 65536 := by
  rw [← hlayout.payloadLength]
  exact (wordAt header 4).toNat_lt

/-- The checksum in the header of a sealed packet over IPv4 verifies. -/
theorem Ipv4Layout.verifies_header (hlayout : Ipv4Layout header transport) :
    Verifies ((sealIpv4 header transport).take header.length) := by
  have hminimum : 20 ≤ header.length := hlayout.minimumLength
  have hroom : 2 * 5 + 2 ≤ header.length := by omega
  rw [sealIpv4, List.take_left' (length_store 0 5 header), Verifies, ← Nat.zero_add (wordSum _)]
  exact foldCarries_store hroom 0

/-- The transport checksum of a sealed packet over IPv4 verifies, with the pseudo-header if it is
covered. -/
theorem Ipv4Layout.verifies_transport (hlayout : Ipv4Layout header transport)
    (hfield : fieldOverIpv4? (octetAt header 9) = some field) :
    Verifies
      ((if field.coversPseudoHeader then
          pseudoHeaderOverIpv4 ((header.drop 12).take 8) (octetAt header 9) transport.length
        else []) ++ (sealIpv4 header transport).drop header.length) := by
  have hroom := hlayout.covers field hfield
  rw [sealIpv4, List.drop_left' (length_store 0 5 header), hfield]
  refine verifies_append_store ?_ ?_ (Nat.le_trans hroom.1 hroom.2)
  · split_ifs
    · exact even_pseudoHeaderOverIpv4 hlayout.even_addresses _ _
    · exact Nat.dvd_zero 2
  · rw [Field.added]
    split_ifs
    · exact wordSum_pseudoHeaderOverIpv4 hlayout.even_addresses _ hlayout.transport_lt
    · rfl

/-- The transport checksum of a sealed packet over IPv6 verifies, with the pseudo-header if it is
covered. -/
theorem Ipv6Layout.verifies_transport (hlayout : Ipv6Layout header transport)
    (hfield : fieldOverIpv6? (octetAt header 6) = some field) :
    Verifies
      ((if field.coversPseudoHeader then
          pseudoHeaderOverIpv6 ((header.drop 8).take 32) (octetAt header 6) transport.length
        else []) ++ (sealIpv6 header transport).drop header.length) := by
  have hroom := hlayout.covers field hfield
  rw [sealIpv6, List.drop_left, hfield]
  refine verifies_append_store ?_ ?_ (Nat.le_trans hroom.1 hroom.2)
  · split_ifs
    · exact even_pseudoHeaderOverIpv6 hlayout.even_addresses _ _
    · exact Nat.dvd_zero 2
  · rw [Field.added]
    split_ifs
    · exact wordSum_pseudoHeaderOverIpv6 hlayout.even_addresses _ hlayout.transport_lt
    · rfl

end PacketRefusal.Checksum
