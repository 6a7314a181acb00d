import PacketRefusal.Proofs.Faults.Parsing
import PacketRefusal.Proofs.Faults.Reply
import PacketRefusal.Proofs.Rejector.Independence

/-!
# Nothing that arrives can end the rejector

Dealing with a packet once more, with every access and every sum checked: it is parsed, a reply is
filled in, and what the reply takes of its buffer is cut out and sent. The parts do not go wrong by
themselves (`Checked.parse_eq`, `Checked.patch_eq`, `Checked.refresh_eq`), and templates keep the
size of their buffers (`Template.Intact.sized`). So a rejector gets through every packet, whatever
it has met before: `Rejector.handle_checked`.
-/

set_option autoImplicit false
set_option relaxedAutoImplicit false

namespace PacketRefusal

open Bytes

namespace Checked

def answer (rejector : Rejector) (surroundings : Surroundings) (captured : Diversion.Address)
    (packet : Packet) (reply : Reply) : Checked (Rejector × List Effect) :=
  match packet.patch captured reply with
  | .error error => return (rejector, [Rejector.unsent reply error.toHandlingError])
  | .ok filling => do
    match ← patch filling (rejector.templates.get reply) with
    | .error error template =>
      return ({ rejector with templates := rejector.templates.set reply template },
        [Rejector.unsent reply error.toHandlingError])
    | .ok _ template =>
      return ({ rejector with templates := rejector.templates.set reply template },
        [.send template.address (← slice template.buffer 0 template.length),
          Rejector.sendingOutcome reply surroundings.sendFailure])

def handle (rejector : Rejector) (surroundings : Surroundings) (capture : Diversion.Capture) :
    Checked Turn := do
  let packet ← parse capture.data
  if packet.hasNetworkHeader then
    match packet.reply? with
    | none => return ⟨rejector, some .dropped, Rejector.reporting surroundings packet⟩
    | some reply =>
      let (rejector, effects) ← answer rejector surroundings capture.address packet reply
      return ⟨rejector, some (.rejected reply), Rejector.reporting surroundings packet ++ effects⟩
  else return ⟨rejector, some .skipped, []⟩

variable {rejector : Rejector}

/-- An answer from intact templates does not go wrong. -/
theorem answer_eq (hintact : rejector.templates.Intact) (surroundings : Surroundings)
    (captured : Diversion.Address) (packet : Packet) (reply : Reply) :
    answer rejector surroundings captured packet reply =
      .ok (rejector.answer surroundings captured packet reply) := by
  rw [answer, Rejector.answer]
  cases hpatch : packet.patch captured reply with
  | error error => rfl
  | ok filling =>
    obtain rfl := Packet.reply_of_patch hpatch
    have hfilled := filling.run_onTemplate (hintact filling.reply)
    have hroom : filling.filled.length ≤ filling.filled.buffer.length := by
      rw [Patch.filled, List.length_append, filling.length_forged]
      exact Nat.le_add_right _ _
    simp only
    rw [patch_eq filling (hintact filling.reply).sized, ok_bind, hfilled]
    dsimp only
    rw [slice_zero hroom, Templates.run_patch_eq, hfilled]
    simp only [Templates.get_set, if_pos]
    rfl

/-- Dealing with a packet does not go wrong while the templates are intact. -/
theorem handle_eq (hintact : rejector.templates.Intact) (surroundings : Surroundings)
    (capture : Diversion.Capture) :
    handle rejector surroundings capture = .ok (rejector.handle surroundings capture) := by
  rw [handle, parse_eq, ok_bind, Rejector.handle]
  dsimp only
  split_ifs
  · cases (Packet.parse capture.data).reply? with
    | none => rfl
    | some reply =>
      dsimp only
      rw [answer_eq hintact, ok_bind]
      rfl
  · rfl

end Checked

/-- No input ends the program. In every state that can be reached, and whatever fails meanwhile,
dealing with a packet of any octets and from any address meets no fault, and neither does computing
the checksums of any buffer, nor filling in a reply with any fields on a buffer of its size,
whatever that buffer holds: each does with all accesses and sums checked what it does without. -/
theorem Rejector.handle_checked {rejector : Rejector} (hreachable : Reachable rejector) :
    (∀ surroundings capture,
      Checked.handle rejector surroundings capture = .ok (rejector.handle surroundings capture)) ∧
    (∀ buffer, Checked.refresh buffer = .ok (Checksum.refresh.run buffer)) ∧
    ∀ (patch : Patch) (template : Template), template.Sized patch.reply →
      Checked.patch patch template = .ok (patch.onTemplate.run template) :=
  ⟨Checked.handle_eq hreachable.intact, Checked.refresh_eq, fun patch _ ↦ Checked.patch_eq patch⟩

/-- A datagram whose headers announce more octets than there are. -/
def overstatedDatagram : Diversion.Capture where
  data := [0x45, 0, 0xFF, 0xFF, 0, 0, 0, 0, 64, 17, 0, 0, 10, 0, 0, 1, 10, 0, 0, 2] ++
    [0x30, 0x39, 0, 53, 0xFF, 0xFF, 0, 0]
  address := ⟨1, 2, .inbound⟩

/-- A patch from a header whose fields are as large as they can be. -/
def largestPatch : Patch :=
  .icmpUnreachable ⟨1, 2, .inbound⟩
    { headerWords := 255
      totalLength := 65535
      fragmentOffset := 65535
      protocol := 255
      source := ⟨[255, 255, 255, 255], rfl⟩
      destination := ⟨[255, 255, 255, 255], rfl⟩ } (blank 200)

theorem Rejector.handle_checked_of_overstatedDatagram :
    Reachable (initial 65535) ∧
      ((initial 65535).handle {} overstatedDatagram).verdict =
        some (.rejected .icmpUnreachable) ∧
      Checked.handle (initial 65535) {} overstatedDatagram =
        .ok ((initial 65535).handle {} overstatedDatagram) ∧
      Checked.refresh [0x4F, 0] = .ok (.error .shortIpv4 [0x4F, 0]) ∧
      Template.Sized .icmpUnreachable ⟨.initial, blank 96, 0⟩ ∧
      ∃ template, Checked.patch largestPatch ⟨.initial, blank 96, 0⟩ =
        .ok (.error .unknownVersion template) := by
  obtain ⟨hhandle, hrefresh, hpatch⟩ := handle_checked (.initial 65535)
  have hsized : Template.Sized .icmpUnreachable ⟨.initial, blank 96, 0⟩ :=
    ⟨rfl, fun h ↦ (h rfl).elim⟩
  exact ⟨.initial 65535, by decide, hhandle _ _, hrefresh _, hsized, _,
    hpatch largestPatch _ hsized⟩

end PacketRefusal
