import PacketRefusal.Proofs.Reply.Forged

/-!
# Replies that differ in little

Two replies of one kind are compared part by part. Where the messages behind their network headers
agree, the replies do so, too, except for the checksum that covers the messages
(`Checksum.agreeExcept_sealIpv4_of_message`, `Checksum.agreeExcept_sealIpv6_of_message`).

The resets of one segment that differ in the number of payload octets differ in the acknowledgment
number alone (`Patch.agreeExcept_forged_tcpReset`, `Patch.agreeExcept_forged_tcpResetV6`), and not
at all if the segment opens a connection. Unreachable messages differ as far as their quotes do
(`Patch.forged_icmpUnreachable_congr`, `Patch.agreeExcept_forged_icmpv6Unreachable`).
-/

set_option autoImplicit false
set_option relaxedAutoImplicit false

namespace PacketRefusal

open Bytes

namespace Checksum

variable {stale : Set ℕ} {first second : Bytes}

/-- Transport octets that agree do so, too, with their checksums stored, except for these. -/
theorem agreeExcept_sealTransport_of_message (hagree : AgreeExcept stale first second)
    (field? : Option Field) (addresses : Bytes) (protocol : UInt8) :
    AgreeExcept (stale ∪ transportPositions field? 0)
      (sealTransport field? addresses protocol first)
      (sealTransport field? addresses protocol second) :=
  ((agreeExcept_sealTransport field? addresses protocol first).mono Set.subset_union_right).trans
    ((hagree.mono Set.subset_union_left).trans
      ((agreeExcept_sealTransport field? addresses protocol second).mono
        Set.subset_union_right).symm)

theorem agreeExcept_sealIpv4_of_message (header : Bytes) (hagree : AgreeExcept stale first second) :
    AgreeExcept
      ((header.length + ·) '' (stale ∪ transportPositions (fieldOverIpv4? (octetAt header 9)) 0))
      (sealIpv4 header first) (sealIpv4 header second) := by
  have hmessage := agreeExcept_sealTransport_of_message hagree
    (fieldOverIpv4? (octetAt header 9)) ((header.drop 12).take 8) (octetAt header 9)
  have hpacket := hmessage.append_front (store 0 5 header)
  rwa [length_store] at hpacket

theorem agreeExcept_sealIpv6_of_message (header : Bytes) (hagree : AgreeExcept stale first second) :
    AgreeExcept
      ((header.length + ·) '' (stale ∪ transportPositions (fieldOverIpv6? (octetAt header 6)) 0))
      (sealIpv6 header first) (sealIpv6 header second) := by
  have hmessage := agreeExcept_sealTransport_of_message hagree
    (fieldOverIpv6? (octetAt header 6)) ((header.drop 8).take 32) (octetAt header 6)
  exact hmessage.append_front header

end Checksum

open Checksum

/-! ### Resets -/

/-- The resets of a segment with different payloads differ in the acknowledgment number alone. -/
theorem agreeExcept_resetSegment (tcp : Tcp.Header) (fewer more : ℕ) :
    AgreeExcept (Set.Ico 8 12) (resetSegment tcp fewer) (resetSegment tcp more) := by
  have hlength : (ofLong (tcp.resetNumbers fewer).acknowledgment).length =
      (ofLong (tcp.resetNumbers more).acknowledgment).length := rfl
  have hnumber := agreeExcept_of_length_eq hlength
  have hfields : AgreeExcept _ (resetFields tcp fewer) (resetFields tcp more) :=
    hnumber.append_front (ofWord tcp.destinationPort ++ ofWord tcp.sourcePort ++
      ofLong (tcp.resetNumbers more).sequence)
  refine ((hfields.append_rest [0x50, 0x14]).append_rest (blank 6)).mono ?_
  rintro _ ⟨octet, hoctet, rfl⟩
  simp at hoctet ⊢
  omega

/-- A segment that opens a connection has one reset, whatever its payload is. -/
theorem resetSegment_of_synchronize {tcp : Tcp.Header} (hsynchronize : tcp.flags.synchronize)
    (fewer more : ℕ) : resetSegment tcp fewer = resetSegment tcp more := by
  rw [resetSegment, resetSegment, resetFields, resetFields, Tcp.Header.resetNumbers,
    Tcp.Header.resetNumbers, if_pos hsynchronize, if_pos hsynchronize]

namespace Patch

variable (captured : Diversion.Address)

theorem agreeExcept_forged_tcpReset (ip : Ipv4.Header) (tcp : Tcp.Header) (fewer more : ℕ) :
    AgreeExcept (Set.Ico 28 32 ∪ Set.Ico 36 38) (tcpReset captured ip tcp fewer).forged
      (tcpReset captured ip tcp more).forged := by
  refine (agreeExcept_sealIpv4_of_message (ipv4Front Tcp.protocol resetLength ip)
    (agreeExcept_resetSegment tcp fewer more)).mono ?_
  rw [octetAt_ipv4Front_nine, fieldOverIpv4?_tcp, transportPositions_some, length_ipv4Front]
  rintro _ ⟨index, hindex, rfl⟩
  simp [tcpField] at hindex ⊢
  omega

theorem agreeExcept_forged_tcpResetV6 (ip : Ipv6.Header) (tcp : Tcp.Header) (fewer more : ℕ) :
    AgreeExcept (Set.Ico 48 52 ∪ Set.Ico 56 58) (tcpResetV6 captured ip tcp fewer).forged
      (tcpResetV6 captured ip tcp more).forged := by
  refine (agreeExcept_sealIpv6_of_message (ipv6Front Tcp.protocol Tcp.minimumHeaderLength ip)
    (agreeExcept_resetSegment tcp fewer more)).mono ?_
  rw [octetAt_ipv6Front_six, fieldOverIpv6?_tcp, transportPositions_some, length_ipv6Front]
  rintro _ ⟨index, hindex, rfl⟩
  simp [tcpField] at hindex ⊢
  omega

theorem forged_tcpReset_of_synchronize (ip : Ipv4.Header) {tcp : Tcp.Header}
    (hsynchronize : tcp.flags.synchronize) (fewer more : ℕ) :
    (tcpReset captured ip tcp fewer).forged = (tcpReset captured ip tcp more).forged := by
  rw [forged, forged, message, message, resetSegment_of_synchronize hsynchronize fewer more]
  rfl

theorem forged_tcpResetV6_of_synchronize (ip : Ipv6.Header) {tcp : Tcp.Header}
    (hsynchronize : tcp.flags.synchronize) (fewer more : ℕ) :
    (tcpResetV6 captured ip tcp fewer).forged = (tcpResetV6 captured ip tcp more).forged := by
  rw [forged, forged, message, message, resetSegment_of_synchronize hsynchronize fewer more]
  rfl

/-! ### Unreachable messages -/

/-- Two unreachable messages over IPv4 with one quote are equal. -/
theorem forged_icmpUnreachable_congr {ip : Ipv4.Header} {first second : Bytes}
    (hquotation : (icmpUnreachable captured ip first).quotation =
      (icmpUnreachable captured ip second).quotation) :
    (icmpUnreachable captured ip first).forged = (icmpUnreachable captured ip second).forged := by
  simp only [forged, front, message, hquotation]

/-- Two unreachable messages over IPv6 with one quote are equal. -/
theorem forged_icmpv6Unreachable_congr {ip : Ipv6.Header} {first second : Bytes}
    (hquotation : (icmpv6Unreachable captured ip first).quotation =
      (icmpv6Unreachable captured ip second).quotation) :
    (icmpv6Unreachable captured ip first).forged =
      (icmpv6Unreachable captured ip second).forged := by
  simp only [forged, front, message, hquotation]

/-- Two unreachable messages over IPv6 differ where their quotes do, and in the checksum. -/
theorem agreeExcept_forged_icmpv6Unreachable {ip : Ipv6.Header} {first second : Bytes}
    {stale : Set ℕ}
    (hquotation : AgreeExcept stale (icmpv6Unreachable captured ip first).quotation
      (icmpv6Unreachable captured ip second).quotation) :
    AgreeExcept (Set.Ico 42 44 ∪ (48 + ·) '' stale) (icmpv6Unreachable captured ip first).forged
      (icmpv6Unreachable captured ip second).forged := by
  have hmessage := hquotation.append_front (icmpPrelude 1 4)
  refine (agreeExcept_sealIpv6_of_message
    (ipv6Front Icmp.protocolV6 (Icmp.headerLength + quoteLengthV6) ip) hmessage).mono ?_
  rw [octetAt_ipv6Front_six, fieldOverIpv6?_icmp, transportPositions_some, length_ipv6Front]
  rintro _ ⟨_, ⟨index, hindex, rfl⟩ | hindex, rfl⟩
  · exact Or.inr ⟨index, hindex, by simp; omega⟩
  · simp [icmpv6Field] at hindex ⊢
    omega

end Patch

end PacketRefusal
