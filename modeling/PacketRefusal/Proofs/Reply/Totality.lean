import PacketRefusal.Proofs.Packet.Sealed
import PacketRefusal.Proofs.Reply.Patching
import PacketRefusal.Proofs.Reply.Quotation

/-!
# Patching never fails

A patch writes its fields before it computes the checksums, so a failure of the checksums would
leave a reply behind that is written by halves. It cannot occur. The templates that patches lead to
are intact (`Templates.Reachable.intact`), by induction on the patches, and a patch of intact
templates succeeds whatever its records hold (`Templates.run_patch`): of the fields that decide
whether checksums can be computed, a patch writes the total length alone, and that follows from the
quote that was written.

`Patch.Yields` says what the reply holds in terms of these records, also where parsing never gives
such ones: headers of less than five words, announced lengths that end within the header, payloads
that are longer than the sequence space. The quote is the shortest of what was captured, announced,
asked for and given room (`Patch.quotation_icmpUnreachable`), and numbers wrap
(`Tcp.Header.toNat_acknowledgment`). `Templates.exists_run_patch_yields` is the conclusion.
-/

set_option autoImplicit false
set_option relaxedAutoImplicit false

namespace PacketRefusal

open Bytes

/-! ### Reachable templates -/

namespace Templates

/-- The templates after a patch, whether it went through or failed. -/
def after (templates : Templates) (patch : Patch) : Templates :=
  match (Templates.patch patch).run templates with
  | .ok _ templates | .error _ templates => templates

/-- The templates that patches lead to. -/
inductive Reachable : Templates → Prop
  | initial : Reachable initial
  | patch {templates : Templates} (hreachable : Reachable templates) (patch : Patch) :
    Reachable (templates.after patch)

theorem after_eq_patched {templates : Templates} (hintact : templates.Intact) (patch : Patch) :
    templates.after patch = templates.patched patch := by
  rw [after, run_patch hintact patch]

/-- Patches keep templates intact. -/
theorem Reachable.intact {templates : Templates} (hreachable : Reachable templates) :
    templates.Intact := by
  induction hreachable with
  | initial => exact intact_initial
  | patch _ patch ih =>
    rw [after_eq_patched ih patch]
    exact ih.patched patch

end Templates

/-! ### Replies to any records -/

/-- The acknowledgment of a reset counts the numbers that the segment occupies, and wraps. -/
theorem Tcp.Header.toNat_acknowledgment (tcp : Tcp.Header) (payloadLength : ℕ) :
    (tcp.resetNumbers payloadLength).acknowledgment.toNat =
      (tcp.sequenceNumber.toNat + if tcp.flags.synchronize then 1 else payloadLength) %
        UInt32.size := by
  rw [resetNumbers]
  cases tcp.flags.synchronize with
  | true => exact UInt32.toNat_add tcp.sequenceNumber 1
  | false =>
    simp only [Bool.false_eq_true, if_false]
    have hsum := UInt32.toNat_add tcp.sequenceNumber (.ofNat payloadLength)
    rw [UInt32.toNat_ofNat', Nat.add_mod_mod] at hsum
    exact hsum

namespace Patch

/-- What the reply of a patch holds in terms of the records of the patch. -/
def Yields (packet : Bytes) : Patch → Prop
  | tcpReset _ _ tcp payloadLength =>
    (longAt packet 28).toNat =
      (tcp.sequenceNumber.toNat + if tcp.flags.synchronize then 1 else payloadLength) % UInt32.size
  | tcpResetV6 _ _ tcp payloadLength =>
    (longAt packet 48).toNat =
      (tcp.sequenceNumber.toNat + if tcp.flags.synchronize then 1 else payloadLength) % UInt32.size
  | icmpUnreachable _ ip raw =>
    packet.length = 28 + quotedLength ip raw ∧ (wordAt packet 2).toNat = packet.length ∧
      packet.drop 28 = raw.take (quotedLength ip raw)
  | icmpv6Unreachable .. => packet.length = 108

/-- The acknowledgment of a reset stands eight octets behind its network header. -/
theorem longAt_forged_of_reset (patch : Patch) {tcp : Tcp.Header} {payloadLength start : ℕ}
    (hmessage : patch.message = resetSegment tcp payloadLength)
    (hstart : patch.front.length = start)
    (hother : ∀ index ∈ Set.Ico (start + 8) (start + 8 + 4),
      index ∉ patch.reply.checksumPositions) :
    longAt patch.forged (start + 8) = (tcp.resetNumbers payloadLength).acknowledgment := by
  have hdrop : (patch.front ++ patch.message).drop (start + 8) =
      ofLong (tcp.resetNumbers payloadLength).acknowledgment ++ ([0x50, 0x14] ++ blank 6) := by
    rw [hmessage, ← List.drop_drop, List.drop_left' hstart]
    rfl
  rw [patch.agreeExcept_forged.longAt_eq hother, longAt_of_drop _ hdrop]

/-- The reply of every patch holds what its records say. -/
theorem yields_forged (patch : Patch) : patch.Yields patch.forged := by
  cases patch with
  | tcpReset captured ip tcp payloadLength =>
    have hacknowledgment := longAt_forged_of_reset (tcpReset captured ip tcp payloadLength) rfl
      (length_ipv4Front ..) (by simp [reply, Reply.checksumPositions]; omega)
    rw [Yields, hacknowledgment, Tcp.Header.toNat_acknowledgment]
  | tcpResetV6 captured ip tcp payloadLength =>
    have hacknowledgment := longAt_forged_of_reset (tcpResetV6 captured ip tcp payloadLength) rfl
      (length_ipv6Front ..) (by simp [reply, Reply.checksumPositions]; omega)
    rw [Yields, hacknowledgment, Tcp.Header.toNat_acknowledgment]
  | icmpUnreachable captured ip raw =>
    have hlength := (icmpUnreachable captured ip raw).length_forged
    rw [length_icmpUnreachable, quotation_icmpUnreachable,
      List.length_take_of_le (quotedLength_le ip raw)] at hlength
    refine ⟨hlength, (overIpv4_icmpUnreachable captured ip raw).layout.totalLength_seal, ?_⟩
    rw [quote_forged_icmpUnreachable, quotation_icmpUnreachable]
  | icmpv6Unreachable captured ip raw =>
    rw [Yields, length_forged, length_eq_initialLength (by simp [reply])]
    rfl

end Patch

/-- From all templates that patches lead to, every patch succeeds, and the template of its kind
holds the reply that the records of the patch call for. -/
theorem Templates.exists_run_patch_yields {templates : Templates}
    (hreachable : Reachable templates) (patch : Patch) :
    ∃ patched, (Templates.patch patch).run templates = .ok () patched ∧
      patch.Yields (patched.get patch.reply).packet := by
  refine ⟨_, run_patch hreachable.intact patch, ?_⟩
  rw [get_patched, if_pos rfl, patch.packet_filled]
  exact patch.yields_forged

/-- A header such as parsing never finds: it claims 255 words and announces five octets. -/
def overlongHeader : Ipv4.Header where
  headerWords := 255
  totalLength := 5
  fragmentOffset := 0
  protocol := 17
  source := ⟨[10, 0, 0, 1], rfl⟩
  destination := ⟨[10, 0, 0, 2], rfl⟩

/-- The header of a segment in front of the end of the sequence space, without control bits. -/
def lastSegment : Tcp.Header := ⟨12345, 80, 0xFFFFFFFF, 7, .ofOctet 0⟩

theorem Templates.exists_run_patch_yields_of_overlongHeader :
    let used := initial.after (.icmpUnreachable .initial overlongHeader (blank 80))
    Reachable used ∧
      (∃ patched,
        (Templates.patch (.icmpUnreachable .initial overlongHeader [1, 2, 3, 4, 5, 6])).run used =
          .ok () patched ∧
        patched.icmpUnreachable.packet.length = 33 ∧
        patched.icmpUnreachable.packet.drop 28 = [1, 2, 3, 4, 5]) ∧
      ∃ patched,
        (Templates.patch
          (.tcpReset .initial overlongHeader lastSegment (UInt32.size + 5))).run used =
          .ok () patched ∧
        (longAt patched.tcpReset.packet 28).toNat = 4 := by
  intro used
  have hreachable : Reachable used := .patch .initial _
  obtain ⟨quoting, hquoting, hlength, -, hquote⟩ :=
    exists_run_patch_yields hreachable (.icmpUnreachable .initial overlongHeader [1, 2, 3, 4, 5, 6])
  obtain ⟨resetting, hresetting, hacknowledgment⟩ :=
    exists_run_patch_yields hreachable
      (.tcpReset .initial overlongHeader lastSegment (UInt32.size + 5))
  exact ⟨hreachable, ⟨quoting, hquoting, hlength, hquote⟩, resetting, hresetting, hacknowledgment⟩

end PacketRefusal
