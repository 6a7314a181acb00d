import PacketRefusal.Proofs.Packet.Received

/-!
# Datagrams that are left without a checksum

A UDP datagram may go without a checksum: two zero octets in its place say that none was generated.
Over IPv6 they are not allowed. The standards therefore have a checksum that comes out as zero sent
as sixteen ones, which a receiver adds up to the same result. `refresh` stores the checksum as it
comes out. `hasChecksum_refreshed_iff` says which datagrams have one afterwards, and which are left
without: those whose words, together with those of the pseudo-header, add up to a multiple of 65535.
`not_hasChecksum_refreshed_queryOverIpv6` is about such a datagram.

`CarriesDatagram` finds the datagram behind the header of a packet, and its pseudo-header.
`Sealing.sealedDatagram` finds it again after the checksums are computed, at the same place and with
its checksum stored. What is stored is the complement of a folded sum (`toNat_checksum`). The sum is
positive, for the protocol number is one of its terms, and so `checksum_eq_zero_iff` applies.

Adding up all words does not show the difference: a datagram whose checksum was stored verifies in
both cases (`Ipv4Layout.verifies_refreshed`, `Ipv6Layout.verifies_refreshed`).
-/

set_option autoImplicit false
set_option relaxedAutoImplicit false

namespace PacketRefusal

open Bytes Checksum

variable {packet buffer refreshed pseudoHeader datagram : Bytes} {start : ℕ}

/-! ### Datagrams -/

/-- A packet with a UDP datagram right behind its IP header: the place where the datagram starts,
its pseudo-header, and its octets up to the announced end of the packet. -/
inductive CarriesDatagram (packet : Bytes) : ℕ → Bytes → Bytes → Prop
  | overIpv4 (hversion : highNibble (octetAt packet 0) = 4)
    (hprotocol : octetAt packet 9 = Udp.protocol) :
    CarriesDatagram packet (4 * lowNibble (octetAt packet 0)) (Ipv4.Header.read packet).pseudoHeader
      (Ipv4.Header.behind packet)
  | overIpv6 (hversion : highNibble (octetAt packet 0) = 6)
    (hprotocol : octetAt packet 6 = Udp.protocol) :
    CarriesDatagram packet Ipv6.headerLength (Ipv6.Header.read packet).pseudoHeader
      (Ipv6.Header.behind packet)

/-- A datagram has a checksum unless both octets in its place are zero. -/
def HasChecksum (packet : Bytes) (start : ℕ) : Prop :=
  ¬(octetAt packet (start + 6) = 0 ∧ octetAt packet (start + 7) = 0)

/-- The octets that the checksum of a datagram covers: the pseudo-header, and the datagram with
zeros in the place of the checksum. -/
def datagramCover (pseudoHeader datagram : Bytes) : Bytes :=
  pseudoHeader ++ overwrite 6 [0, 0] datagram

namespace Checksum

variable {header transport : Bytes}

/-! ### Storing the checksum of a datagram -/

/-- A packet that has a datagram at some place, with the checksum over a pseudo-header stored. -/
inductive SealedDatagram (pseudoHeader datagram : Bytes) : ℕ → Bytes → Prop
  | mk (front rest : Bytes) (heven : 2 ∣ pseudoHeader.length) (hroom : 8 ≤ datagram.length)
    (hpositive : wordSum pseudoHeader ≠ 0) :
    SealedDatagram pseudoHeader datagram front.length
      (front ++ store (wordSum pseudoHeader) 3 datagram ++ rest)

/-- The words that the checksum of a datagram covers are those of the pseudo-header and all those of
the datagram but the checksum. -/
theorem wordSum_datagramCover (heven : 2 ∣ pseudoHeader.length) (hroom : 8 ≤ datagram.length) :
    wordSum (datagramCover pseudoHeader datagram) =
      wordSum pseudoHeader + wordSumSkipping 3 datagram := by
  have hwords : 2 * 3 + 2 ≤ datagram.length := hroom
  rw [datagramCover, wordSum_append heven]
  exact congrArg _ (wordSum_overwrite hwords 0)

/-- The checksum of a datagram stands at the offset six. -/
theorem SealedDatagram.wordAt_eq (hsealed : SealedDatagram pseudoHeader datagram start packet) :
    wordAt packet (start + 6) = checksum (wordSum pseudoHeader) 3 datagram := by
  cases hsealed with
  | mk front rest heven hroom hpositive =>
    have hstored : wordAt (store (wordSum pseudoHeader) 3 datagram) 6 = _ := wordAt_store hroom _
    rw [List.append_assoc, wordAt_append_right rfl, wordAt_append_left (by simp; omega), hstored]

/-! ### Finding the datagram again -/

/-- A datagram is sealed when its pseudo-header adds up to what the checksum takes for it. -/
theorem SealedDatagram.of_sum {addresses : Bytes} (heven : 2 ∣ pseudoHeader.length)
    (hroom : 8 ≤ datagram.length)
    (hsum : wordSum pseudoHeader = pseudoHeaderSum addresses Udp.protocol datagram.length)
    (front rest : Bytes) :
    SealedDatagram pseudoHeader datagram front.length
      (front ++ sealTransport (some udpField) addresses Udp.protocol datagram ++ rest) := by
  have hpositive : wordSum pseudoHeader ≠ 0 := by
    rw [hsum, pseudoHeaderSum]
    simp [Udp.protocol]
  have hsealed := SealedDatagram.mk front rest heven hroom hpositive
  rwa [hsum] at hsealed

theorem Ipv4Layout.sealedDatagram (hlayout : Ipv4Layout header transport)
    (hprotocol : octetAt header 9 = Udp.protocol) (rest : Bytes) :
    SealedDatagram (pseudoHeaderOverIpv4 ((header.drop 12).take 8) Udp.protocol transport.length)
      transport header.length (sealIpv4 header transport ++ rest) := by
  have hfield : fieldOverIpv4? Udp.protocol = some udpField := rfl
  have hroom : 8 ≤ transport.length := hlayout.transportLength udpField (by rw [hprotocol]; rfl)
  rw [sealIpv4, hprotocol, hfield, ← length_store 0 5 header]
  exact .of_sum (even_pseudoHeaderOverIpv4 hlayout.even_addresses _ _) hroom
    (wordSum_pseudoHeaderOverIpv4 hlayout.even_addresses _ hlayout.transport_lt) _ rest

theorem Ipv6Layout.sealedDatagram (hlayout : Ipv6Layout header transport)
    (hprotocol : octetAt header 6 = Udp.protocol) (rest : Bytes) :
    SealedDatagram (pseudoHeaderOverIpv6 ((header.drop 8).take 32) Udp.protocol transport.length)
      transport header.length (sealIpv6 header transport ++ rest) := by
  have hfield : fieldOverIpv6? Udp.protocol = some udpField := rfl
  have hroom : 8 ≤ transport.length := hlayout.transportLength udpField (by rw [hprotocol]; rfl)
  rw [sealIpv6, hprotocol, hfield]
  exact .of_sum (even_pseudoHeaderOverIpv6 hlayout.even_addresses _ _) hroom
    (wordSum_pseudoHeaderOverIpv6 hlayout.even_addresses _ hlayout.transport_lt) _ rest

/-- The datagram of a packet stands at the same place after the checksums are computed, with its
checksum stored. -/
theorem Sealing.sealedDatagram (hsealing : Sealing buffer refreshed)
    (hcarries : CarriesDatagram buffer start pseudoHeader datagram) :
    SealedDatagram pseudoHeader datagram start refreshed := by
  cases hsealing with
  | @ipv4 header transport hlayout rest =>
    have hfirst := hlayout.octetAt_eq rest (by decide : 0 < 20)
    cases hcarries with
    | overIpv4 hversion hprotocol =>
      rw [hlayout.octetAt_eq rest (by decide)] at hprotocol
      rw [hfirst, hlayout.headerLength, hlayout.behind_eq, List.append_assoc,
        hlayout.pseudoHeader_eq, hprotocol]
      exact hlayout.sealedDatagram hprotocol rest
    | overIpv6 hversion hprotocol =>
      -- The buffer was laid out as a packet of the other version.
      rw [hfirst, hlayout.version] at hversion
      contradiction
  | @ipv6 header transport hlayout rest =>
    have hfirst := hlayout.octetAt_eq rest (by decide : 0 < 40)
    cases hcarries with
    | overIpv4 hversion hprotocol =>
      rw [hfirst, hlayout.version] at hversion
      contradiction
    | overIpv6 hversion hprotocol =>
      rw [hlayout.octetAt_eq rest (by decide)] at hprotocol
      rw [hlayout.behind_eq, List.append_assoc, hlayout.pseudoHeader_eq, hprotocol,
        ← hlayout.headerLength]
      exact hlayout.sealedDatagram hprotocol rest

end Checksum

/-! ### Which datagrams are left without a checksum -/

/-- Whenever checksums were computed for a packet with a datagram, the complement of the folded sum
of the covered words is stored in the datagram. Hence the datagram has a checksum unless this sum is
a multiple of 65535. -/
theorem hasChecksum_refreshed_iff (hrun : refresh.run buffer = .ok () refreshed)
    (hcarries : CarriesDatagram buffer start pseudoHeader datagram) :
    start + 8 ≤ refreshed.length ∧
      (wordAt refreshed (start + 6)).toNat =
        65535 - foldCarries (wordSum (datagramCover pseudoHeader datagram)) ∧
      (HasChecksum refreshed start ↔ ¬65535 ∣ wordSum (datagramCover pseudoHeader datagram)) := by
  have hsealed := (run_refresh_eq_ok_iff.mp hrun).sealedDatagram hcarries
  have hword := hsealed.wordAt_eq
  cases hsealed with
  | mk front rest heven hroom hpositive =>
    -- A sum of zero would be a multiple of 65535 whose complement is not zero.
    have hpositive' : wordSum pseudoHeader + wordSumSkipping 3 datagram ≠ 0 := by omega
    rw [wordSum_datagramCover heven hroom]
    refine ⟨?_, ?_, ?_⟩
    · simp only [List.length_append, length_store]
      omega
    · rw [hword, toNat_checksum]
    · rw [← checksum_eq_zero_iff hpositive', ← hword, wordAt_eq_zero_iff, HasChecksum]

theorem hasChecksum_refreshed_datagramBehindOptions :
    refresh.run (datagramBehindOptions 0xAABB 0x1234) =
        .ok () (datagramBehindOptions 0x63C8 0x5A6B) ∧
      HasChecksum (datagramBehindOptions 0x63C8 0x5A6B) 24 := by
  have hrun := sealing_datagramBehindOptions.run_refresh
  have hcarries : CarriesDatagram (datagramBehindOptions 0xAABB 0x1234) 24 _ _ :=
    .overIpv4 (by decide) (by decide)
  obtain ⟨-, -, hchecksum⟩ := hasChecksum_refreshed_iff hrun hcarries
  exact ⟨hrun, hchecksum.mpr (by decide)⟩

/-- A datagram over IPv6 with some checksum. The words that the checksum covers add up to twice
65535. -/
def queryOverIpv6 (checksum : UInt16) : Bytes :=
  [0x60, 0, 0, 0, 0, 13, 17, 64,
    0x20, 0x01, 0x0D, 0xB8, 0, 0, 0, 0, 0, 0, 0, 0, 0, 0, 0, 1,
    0x20, 0x01, 0x0D, 0xB8, 0, 0, 0, 0, 0, 0, 0, 0, 0, 0, 0, 2,
    0x54, 0x42, 0, 53, 0, 13] ++ ofWord checksum ++ [0x71, 0x75, 0x65, 0x72, 0x79]

theorem sealing_queryOverIpv6 : Sealing (queryOverIpv6 0xFFFF) (queryOverIpv6 0) := by
  have hlayout : Ipv6Layout ((queryOverIpv6 0xFFFF).take 40) ((queryOverIpv6 0xFFFF).drop 40) := {
    version := by decide
    headerLength := by decide
    payloadLength := by decide
    transportLength := by
      intro field hfield
      cases hfield
      decide }
  have hseal : sealIpv6 ((queryOverIpv6 0xFFFF).take 40) ((queryOverIpv6 0xFFFF).drop 40) =
      queryOverIpv6 0 := by
    cbv
  have hsealing := Sealing.ipv6 hlayout []
  rwa [hseal, List.take_append_drop, List.append_nil, List.append_nil] at hsealing

/-- Sixteen ones, which the standards ask for here, are replaced by zeros. -/
theorem not_hasChecksum_refreshed_queryOverIpv6 :
    highNibble (octetAt (queryOverIpv6 0xFFFF) 0) = 6 ∧
      octetAt (queryOverIpv6 0xFFFF) 6 = Udp.protocol ∧
      refresh.run (queryOverIpv6 0xFFFF) = .ok () (queryOverIpv6 0) ∧
      ¬HasChecksum (queryOverIpv6 0) 40 := by
  have hzeros : octetAt (queryOverIpv6 0) (40 + 6) = 0 ∧
      octetAt (queryOverIpv6 0) (40 + 7) = 0 := by
    decide
  exact ⟨by decide, by decide, sealing_queryOverIpv6.run_refresh, not_not_intro hzeros⟩

end PacketRefusal
