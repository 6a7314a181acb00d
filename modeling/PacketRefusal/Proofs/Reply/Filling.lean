import PacketRefusal.Proofs.Reply.Forged

/-!
# Filling a template in leaves no trace of what was in it

A template is reused without being cleared, so the octets of earlier replies are still in it when a
patch writes its fields. `Template.Intact` is what a template keeps between two uses: outside the
positions that patches may change it agrees with a new one. `Patch.agreeExcept_write` is the point:
the fields of a patch cover all of these positions but the checksums, and computing the checksums
does not look at what was there. Hence `Patch.run_onTemplate`: every intact template ends up with
the forged reply in it, and zeros behind.
-/

set_option autoImplicit false
set_option relaxedAutoImplicit false

namespace PacketRefusal

open Bytes

/-! ### Intact templates -/

def Reply.capacity : Reply → ℕ
  | tcpReset => 40
  | tcpResetV6 => 60
  | icmpUnreachable => 96
  | icmpv6Unreachable => 108

theorem length_initialBuffer (reply : Reply) :
    (Template.initialBuffer reply).length = reply.capacity := by
  cases reply <;>
    simp [Template.initialBuffer, ipv4Prelude, ipv6Prelude, resetPrelude, quoteCapacity,
      quoteLengthV6, Ipv6.headerLength, Tcp.minimumHeaderLength, Reply.capacity]

/-- The positions of a kind of reply that a patch may change. The others keep what the template was
written with. -/
def Reply.rewrittenPositions : Reply → Set ℕ
  | tcpReset => Set.Ico 10 20 ∪ Set.Ico 20 32 ∪ Set.Ico 36 38
  | tcpResetV6 => Set.Ico 8 52 ∪ Set.Ico 56 58
  | icmpUnreachable => Set.Ico 2 4 ∪ Set.Ico 10 20 ∪ Set.Ico 22 24 ∪ Set.Ico 28 96
  | icmpv6Unreachable => Set.Ico 8 40 ∪ Set.Ico 42 44 ∪ Set.Ico 48 108

/-- A template whose other octets are still those it was written with, with zeros behind the
reply. All replies but the unreachable message over IPv4 have a fixed length. -/
structure Template.Intact (reply : Reply) (template : Template) : Prop where
  buffer : AgreeExcept reply.rewrittenPositions template.buffer (initialBuffer reply)
  length : reply ≠ .icmpUnreachable → template.length = initialLength reply
  unused : template.buffer.drop template.length = blank (template.buffer.length - template.length)

/-- A template whose buffer has the size of its kind. All replies but the unreachable message over
IPv4 take the whole buffer. -/
structure Template.Sized (reply : Reply) (template : Template) : Prop where
  buffer : template.buffer.length = reply.capacity
  length : reply ≠ .icmpUnreachable → template.length = initialLength reply

theorem Template.Intact.sized {reply : Reply} {template : Template}
    (hintact : template.Intact reply) : template.Sized reply where
  buffer := hintact.buffer.length_eq.trans (length_initialBuffer reply)
  length := hintact.length

theorem Template.run_refresh (template : Template) :
    refresh.run template =
      match Checksum.refresh.run template.packet with
      | .ok _ packet =>
        .ok () { template with buffer := packet ++ template.buffer.drop template.length }
      | .error error packet =>
        .error error { template with buffer := packet ++ template.buffer.drop template.length } :=
  rfl

namespace Patch

/-- The buffer of a template after a patch has written its fields, before the checksums. -/
def write : Patch → Bytes → Bytes
  | tcpReset _ ip tcp payloadLength, buffer =>
    overwrite 20 (resetFields tcp payloadLength) (overwrite 12 ip.exchanged buffer)
  | tcpResetV6 _ ip tcp payloadLength, buffer =>
    overwrite 40 (resetFields tcp payloadLength) (overwrite 8 ip.exchanged buffer)
  | patch@(icmpUnreachable _ ip _), buffer =>
    overwrite 12 ip.exchanged
      (overwrite 2 (ofWord (.ofNat (quoteOffset + patch.quotation.length)))
        (overwrite 28 (fit quoteCapacity patch.quotation) buffer))
  | patch@(icmpv6Unreachable _ ip _), buffer =>
    overwrite 8 ip.exchanged (overwrite 48 patch.quotation buffer)

/-- The octets of the buffer that the reply leaves unused. -/
def unused (patch : Patch) : Bytes :=
  blank (patch.reply.capacity - patch.length)

/-- The template with the forged reply in it. -/
def filled (patch : Patch) : Template :=
  ⟨patch.returnAddress, patch.forged ++ patch.unused, patch.length⟩

theorem packet_filled (patch : Patch) : patch.filled.packet = patch.forged := by
  rw [Template.packet, filled, List.take_left' patch.length_forged]

/-- A new template holds the parts of the reply once the fields are written. -/
theorem write_initialBuffer (patch : Patch) :
    patch.write (Template.initialBuffer patch.reply) =
      patch.front ++ patch.message ++ patch.unused := by
  cases patch with
  | tcpReset captured ip tcp payloadLength =>
    have hbuffer : Template.initialBuffer .tcpReset =
        ipv4Start Tcp.protocol resetLength ++ blank 8 ++
          (blank 12 ++ ([0x50, 0x14] ++ blank 6)) := rfl
    have hunused : (tcpReset captured ip tcp payloadLength).unused = [] := by
      rw [unused, reply, length, front, message, length_ipv4Front]
      rfl
    rw [write, reply, hbuffer, overwrite_append_middle (length_ipv4Start _ _) (by simp),
      ← List.append_assoc, overwrite_append_middle (by simp) (by simp), hunused, List.append_nil]
    simp [front, message, ipv4Front, resetSegment]
  | tcpResetV6 captured ip tcp payloadLength =>
    have hbuffer : Template.initialBuffer .tcpResetV6 =
        ipv6Start Tcp.protocol Tcp.minimumHeaderLength ++ blank 32 ++
          (blank 12 ++ ([0x50, 0x14] ++ blank 6)) := rfl
    have hunused : (tcpResetV6 captured ip tcp payloadLength).unused = [] := by
      rw [unused, reply, length, front, message, length_ipv6Front]
      rfl
    rw [write, reply, hbuffer, overwrite_append_middle (length_ipv6Start _ _) (by simp),
      ← List.append_assoc, overwrite_append_middle (by simp) (by simp), hunused, List.append_nil]
    simp [front, message, ipv6Front, resetSegment]
  | icmpUnreachable captured ip raw =>
    have hquotation := length_quotation_le (icmpUnreachable captured ip raw)
    generalize hquote : (icmpUnreachable captured ip raw).quotation = quote at hquotation
    generalize hsize : UInt16.ofNat (quoteOffset + quote.length) = size
    have hbuffer : Template.initialBuffer .icmpUnreachable =
        ipv4Prelude Icmp.protocol 0 ++ icmpPrelude 3 3 ++ blank quoteCapacity ++ [] := rfl
    have hquoted : overwrite 28 (fit quoteCapacity quote)
        (Template.initialBuffer .icmpUnreachable) = [0x45, 0] ++ ofWord 0 ++
          ([0xDE, 0xAD, 0, 0, 64, Icmp.protocol] ++ blank 10 ++ icmpPrelude 3 3 ++
            fit quoteCapacity quote) := by
      rw [hbuffer, overwrite_append_middle (by simp [ipv4Prelude]) (by simp), List.append_nil]
      rfl
    have hsized : [0x45, 0] ++ ofWord size ++ ([0xDE, 0xAD, 0, 0, 64, Icmp.protocol] ++ blank 10 ++
        icmpPrelude 3 3 ++ fit quoteCapacity quote) =
          ipv4Start Icmp.protocol (quoteOffset + quote.length) ++ blank 8 ++
            (icmpPrelude 3 3 ++ fit quoteCapacity quote) := by
      rw [ipv4Start, hsize]
      rfl
    have hunused : (icmpUnreachable captured ip raw).unused =
        blank (quoteCapacity - quote.length) := by
      rw [unused, reply, length, front, message, length_ipv4Front,
        length_unreachableMessage, hquote, Reply.capacity, quoteCapacity]
      congr 1
      omega
    rw [write, reply, hquote, hsize, hquoted, overwrite_append_middle (by simp) (by simp), hsized,
      overwrite_append_middle (length_ipv4Start _ _) (by simp), fit_of_ge _ _ hquotation, hunused]
    simp [front, message, ipv4Front, unreachableMessage, hquote, blank]
  | icmpv6Unreachable captured ip raw =>
    have hlength : (icmpv6Unreachable captured ip raw).quotation.length = quoteLengthV6 :=
      length_fit _ _
    generalize hquote : (icmpv6Unreachable captured ip raw).quotation = quote at hlength
    have hbuffer : Template.initialBuffer .icmpv6Unreachable =
        ipv6Prelude Icmp.protocolV6 (Icmp.headerLength + quoteLengthV6) ++ icmpPrelude 1 4 ++
          blank quoteLengthV6 ++ [] := rfl
    have hfront : ipv6Prelude Icmp.protocolV6 (Icmp.headerLength + quoteLengthV6) ++
        icmpPrelude 1 4 ++ quote ++ [] =
          ipv6Start Icmp.protocolV6 (Icmp.headerLength + quoteLengthV6) ++ blank 32 ++
            (icmpPrelude 1 4 ++ quote) := by
      rw [List.append_nil, List.append_assoc]
      rfl
    have hunused : (icmpv6Unreachable captured ip raw).unused = [] := by
      rw [unused, reply, length, front, message, length_ipv6Front,
        length_unreachableMessage, hquote, hlength]
      rfl
    rw [write, reply, hquote, hbuffer,
      overwrite_append_middle (by simp [ipv6Prelude]) (by simp [hlength]), hfront,
      overwrite_append_middle (length_ipv6Start _ _) (by simp), hunused, List.append_nil]
    simp [front, message, ipv6Front, unreachableMessage, hquote]

/-- What was in the buffer shows at most in the positions of the checksums. -/
theorem agreeExcept_write (patch : Patch) {first second : Bytes}
    (hagree : AgreeExcept patch.reply.rewrittenPositions first second) :
    AgreeExcept patch.reply.checksumPositions (patch.write first) (patch.write second) := by
  cases patch with
  | tcpReset captured ip tcp payloadLength =>
    refine ((hagree.overwrite 12 _).overwrite 20 _).mono ?_
    intro index hindex
    simp [reply, Reply.rewrittenPositions, Reply.checksumPositions] at hindex ⊢
    omega
  | tcpResetV6 captured ip tcp payloadLength =>
    refine ((hagree.overwrite 8 _).overwrite 40 _).mono ?_
    intro index hindex
    simp [reply, Reply.rewrittenPositions, Reply.checksumPositions] at hindex ⊢
    omega
  | icmpUnreachable captured ip raw =>
    refine (((hagree.overwrite 28 _).overwrite 2 _).overwrite 12 _).mono ?_
    intro index hindex
    simp [reply, Reply.rewrittenPositions, Reply.checksumPositions, quoteCapacity] at hindex ⊢
    omega
  | icmpv6Unreachable captured ip raw =>
    refine ((hagree.overwrite 48 _).overwrite 8 _).mono ?_
    intro index hindex
    simp [reply, Reply.rewrittenPositions, Reply.checksumPositions, quotation, quoteLengthV6,
      Ipv6.headerLength, Tcp.minimumHeaderLength] at hindex ⊢
    omega

/-- The fields of a patch lie in the positions that may change. -/
theorem agreeExcept_write_self (patch : Patch) (buffer : Bytes) :
    AgreeExcept patch.reply.rewrittenPositions (patch.write buffer) buffer := by
  have hframe {positions : Set ℕ} (offset : ℕ) (new old : Bytes)
      (hpositions : Set.Ico offset (offset + new.length) ⊆ positions) :
      AgreeExcept positions (overwrite offset new old) old :=
    (agreeExcept_overwrite offset new old).mono hpositions
  cases patch with
  | tcpReset captured ip tcp payloadLength =>
    refine (hframe 20 _ _ fun index hindex ↦ ?_).trans (hframe 12 _ _ fun index hindex ↦ ?_) <;>
      simp [reply, Reply.rewrittenPositions] at hindex ⊢ <;> omega
  | tcpResetV6 captured ip tcp payloadLength =>
    refine (hframe 40 _ _ fun index hindex ↦ ?_).trans (hframe 8 _ _ fun index hindex ↦ ?_) <;>
      simp [reply, Reply.rewrittenPositions] at hindex ⊢ <;> omega
  | icmpUnreachable captured ip raw =>
    refine (hframe 12 _ _ fun index hindex ↦ ?_).trans
      ((hframe 2 _ _ fun index hindex ↦ ?_).trans (hframe 28 _ _ fun index hindex ↦ ?_)) <;>
      simp [reply, Reply.rewrittenPositions, quoteCapacity] at hindex ⊢ <;> omega
  | icmpv6Unreachable captured ip raw =>
    refine (hframe 8 _ _ fun index hindex ↦ ?_).trans (hframe 48 _ _ fun index hindex ↦ ?_) <;>
      simp [reply, Reply.rewrittenPositions, quotation, quoteLengthV6, Ipv6.headerLength,
        Tcp.minimumHeaderLength] at hindex ⊢ <;> omega

theorem length_eq_initialLength {patch : Patch} (hfixed : patch.reply ≠ .icmpUnreachable) :
    patch.length = Template.initialLength patch.reply := by
  cases patch with
  | tcpReset captured ip tcp payloadLength => simp [length, front, message]; rfl
  | tcpResetV6 captured ip tcp payloadLength => simp [length, front, message]; rfl
  | icmpUnreachable captured ip raw => exact (hfixed rfl).elim
  | icmpv6Unreachable captured ip raw => simp [length, front, message, quotation]; rfl

/-- An unreachable message over IPv4 ends with its quote. -/
theorem length_icmpUnreachable (captured : Diversion.Address) (ip : Ipv4.Header) (raw : Bytes) :
    (icmpUnreachable captured ip raw).length =
      quoteOffset + (icmpUnreachable captured ip raw).quotation.length := by
  rw [length, front, message, length_ipv4Front, length_unreachableMessage, ← Nat.add_assoc]
  rfl

/-- A patch writes its fields and computes the checksums. -/
theorem run_onTemplate_eq (patch : Patch) {template : Template}
    (hsized : template.Sized patch.reply) :
    patch.onTemplate.run template =
      Template.refresh.run
        ⟨patch.returnAddress, patch.write template.buffer, patch.length⟩ := by
  have hcapacity := hsized.buffer
  have hlength (hfixed : patch.reply ≠ .icmpUnreachable) : template.length = patch.length :=
    (hsized.length hfixed).trans (length_eq_initialLength hfixed).symm
  cases patch with
  | tcpReset captured ip tcp payloadLength =>
    simp only [onTemplate, EStateM.run_bind, Template.run_direct, Template.run_require,
      Template.run_write, hcapacity, reply, Reply.capacity, if_neg (by decide : ¬40 < resetLength),
      hlength (by simp [reply])]
    rfl
  | tcpResetV6 captured ip tcp payloadLength =>
    simp only [onTemplate, EStateM.run_bind, Template.run_direct, Template.run_require,
      Template.run_write, hcapacity, reply, Reply.capacity,
      if_neg (by decide : ¬60 < resetLengthV6), hlength (by simp [reply])]
    rfl
  | icmpUnreachable captured ip raw =>
    simp only [onTemplate, EStateM.run_bind, EStateM.run_get, Template.run_direct,
      Template.run_require, Template.run_write, Template.run_quote, Template.run_resize, hcapacity,
      reply, Reply.capacity, if_neg (by decide : ¬96 < quoteOffset),
      length_icmpUnreachable]
    rfl
  | icmpv6Unreachable captured ip raw =>
    simp only [onTemplate, EStateM.run_bind, Template.run_direct, Template.run_require,
      Template.run_write, Template.run_quote, hcapacity, reply, Reply.capacity,
      if_neg (by decide : ¬108 < quoteOffsetV6), hlength (by simp [reply])]
    rfl

theorem checksumPositions_subset (patch : Patch) :
    patch.reply.checksumPositions ⊆ Set.Iio patch.length := by
  intro index hindex
  cases patch with
  | tcpReset captured ip tcp payloadLength =>
    simp [reply, Reply.checksumPositions, length, front, message] at hindex ⊢
    omega
  | tcpResetV6 captured ip tcp payloadLength =>
    simp [reply, Reply.checksumPositions, length, front, message] at hindex ⊢
    omega
  | icmpUnreachable captured ip raw =>
    simp [reply, Reply.checksumPositions, length, front, message] at hindex ⊢
    omega
  | icmpv6Unreachable captured ip raw =>
    simp [reply, Reply.checksumPositions, length, front, message] at hindex ⊢
    omega

/-- Every intact template ends up with the forged reply in it, whatever was in it before. -/
theorem run_onTemplate (patch : Patch) {template : Template}
    (hintact : template.Intact patch.reply) :
    patch.onTemplate.run template = .ok () patch.filled := by
  have hagree := patch.agreeExcept_write hintact.buffer
  rw [write_initialBuffer] at hagree
  have hlength : (patch.front ++ patch.message).length = patch.length := List.length_append
  have hpacket : Checksum.refresh.run ((patch.write template.buffer).take patch.length) =
      .ok () patch.forged := by
    have hfront := (hagree.take patch.length).mono Set.inter_subset_left
    rw [List.take_left' hlength, ← List.append_nil (patch.front ++ patch.message)] at hfront
    rw [patch.run_refresh hfront, List.append_nil]
  have hunused : (patch.write template.buffer).drop patch.length = patch.unused := by
    have hback := hagree.drop patch.length
    rw [List.drop_left' hlength] at hback
    refine hback.eq_of_subset_empty ?_
    intro index hindex
    have hsmall : patch.length + index < patch.length := patch.checksumPositions_subset hindex
    omega
  rw [run_onTemplate_eq patch hintact.sized, Template.run_refresh, Template.packet, hpacket]
  simp only [hunused, filled]

end Patch

end PacketRefusal
