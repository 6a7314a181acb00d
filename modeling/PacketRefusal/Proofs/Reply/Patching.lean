import Mathlib.Data.List.Induction
import PacketRefusal.Proofs.Reply.Filling

/-!
# Patched templates carry no memory

Templates are patched again and again, in any order. What keeps them from mixing old octets with new
ones is `Template.Intact`: it holds before the first use (`Template.intact_initial`), every patch
brings it back (`Patch.intact_filled`), and under it a patch leaves nothing of what was in its
template (`Patch.run_onTemplate`). `Templates.run_patch` is the step over the four templates and
`Templates.run_patches` the run, by induction on the sequence of patches. The template of a kind
depends on the last patch of that kind alone, `Templates.get_patched`.
-/

set_option autoImplicit false
set_option relaxedAutoImplicit false

namespace PacketRefusal

open Bytes

/-! ### One template -/

/-- Before its first use a template is intact. -/
theorem Template.intact_initial (reply : Reply) : (initial reply).Intact reply where
  buffer := .refl _ _
  length := fun _ ↦ rfl
  unused := by cases reply <;> decide

/-- A checksum stands in rewritten positions. -/
theorem Reply.checksumPositions_subset (reply : Reply) :
    reply.checksumPositions ⊆ reply.rewrittenPositions := by
  intro index hindex
  cases reply <;> simp [checksumPositions, rewrittenPositions] at hindex ⊢ <;> omega

/-- The octets of an intact template behind its reply are zero. -/
theorem Template.Intact.eq_zero {reply : Reply} {template : Template}
    (hintact : template.Intact reply) {octet : UInt8}
    (hoctet : octet ∈ template.buffer.drop template.packet.length) : octet = 0 := by
  have hbehind : template.buffer.drop template.packet.length =
      template.buffer.drop template.length := by
    rw [packet, List.length_take]
    rcases Nat.le_total template.length template.buffer.length with hlength | hlength
    · rw [Nat.min_eq_left hlength]
    · rw [Nat.min_eq_right hlength, List.drop_length, List.drop_of_length_le hlength]
  rw [hbehind, hintact.unused] at hoctet
  exact List.eq_of_mem_replicate hoctet

namespace Patch

/-- A reply and what follows it in the buffer differ from the template in rewritten positions
only. -/
theorem agreeExcept_filled (patch : Patch) :
    AgreeExcept patch.reply.rewrittenPositions patch.filled.buffer
      (Template.initialBuffer patch.reply) := by
  have hwrite := patch.agreeExcept_write_self (Template.initialBuffer patch.reply)
  rw [write_initialBuffer] at hwrite
  refine AgreeExcept.trans ?_ hwrite
  exact (patch.agreeExcept_forged.append_rest patch.unused).mono
    patch.reply.checksumPositions_subset

/-- A patch leaves an intact template behind. -/
theorem intact_filled (patch : Patch) : patch.filled.Intact patch.reply where
  buffer := patch.agreeExcept_filled
  length := length_eq_initialLength
  unused := by
    have hlength := patch.length_forged
    rw [filled, List.drop_left' hlength, List.length_append, hlength, Nat.add_sub_cancel_left,
      unused, length_blank]

end Patch

/-! ### The four templates -/

namespace Templates

def Intact (templates : Templates) : Prop := ∀ reply, (templates.get reply).Intact reply

theorem intact_initial : initial.Intact := fun reply ↦
  get_initial reply ▸ Template.intact_initial reply

/-- The templates once a patch is through. -/
def patched (templates : Templates) (patch : Patch) : Templates :=
  templates.set patch.reply patch.filled

theorem get_patched (templates : Templates) (patch : Patch) (reply : Reply) :
    (templates.patched patch).get reply =
      if reply = patch.reply then patch.filled else templates.get reply :=
  get_set templates patch.reply reply patch.filled

theorem Intact.patched {templates : Templates} (hintact : templates.Intact) (patch : Patch) :
    (templates.patched patch).Intact := by
  intro reply
  rw [get_patched]
  split_ifs with hreply
  · exact hreply ▸ patch.intact_filled
  · exact hintact reply

theorem run_patch_eq (patch : Patch) (templates : Templates) :
    (Templates.patch patch).run templates =
      match patch.onTemplate.run (templates.get patch.reply) with
      | .ok _ template => .ok () (templates.set patch.reply template)
      | .error error template => .error error (templates.set patch.reply template) :=
  rfl

/-- A patch of intact templates succeeds, and what it makes of its template does not depend on
them. -/
theorem run_patch {templates : Templates} (hintact : templates.Intact) (patch : Patch) :
    (Templates.patch patch).run templates = .ok () (templates.patched patch) := by
  rw [run_patch_eq, patch.run_onTemplate (hintact patch.reply), patched]

/-- A sequence of patches of intact templates succeeds and leaves intact templates. -/
theorem run_forM_patch {templates : Templates} (hintact : templates.Intact)
    (patches : List Patch) :
    (patches.forM Templates.patch).run templates =
        .ok () (patches.foldl Templates.patched templates) ∧
      (patches.foldl Templates.patched templates).Intact := by
  induction patches generalizing templates with
  | nil => exact ⟨rfl, hintact⟩
  | cons patch patches ih =>
    obtain ⟨hrun, hrest⟩ := ih (hintact.patched patch)
    refine ⟨?_, hrest⟩
    rw [List.forM_eq_forM] at hrun ⊢
    rw [List.forM_cons, EStateM.run_bind, run_patch hintact patch]
    exact hrun

end Templates

/-- The last of a sequence of patches that is for a kind of reply. -/
def lastPatch? (patches : List Patch) (reply : Reply) : Option Patch :=
  (patches.filter fun patch ↦ patch.reply = reply).getLast?

/-- The template of a kind of reply holds what the last patch of that kind made of it. -/
theorem Templates.get_foldl_patched (templates : Templates) (patches : List Patch)
    (reply : Reply) :
    (patches.foldl Templates.patched templates).get reply =
      (lastPatch? patches reply).elim (templates.get reply) Patch.filled := by
  induction patches using List.reverseRecOn with
  | nil => rfl
  | append_singleton patches patch ih =>
    rw [List.foldl_append, List.foldl_cons, List.foldl_nil, get_patched]
    by_cases hreply : patch.reply = reply
    · simp [lastPatch?, hreply]
    · have hlast : lastPatch? (patches ++ [patch]) reply = lastPatch? patches reply := by
        simp [lastPatch?, hreply]
      rw [if_neg (Ne.symm hreply), ih, hlast]

/-- Patching is free of memory. Any sequence of patches of new templates succeeds. Afterwards the
template of each kind of reply is what the last patch of that kind makes of a new template, and a
new template if there was none. Its octets outside the rewritten positions are those of a new
template, and the octets behind the reply are zero. -/
theorem Templates.run_patches (patches : List Patch) :
    ∃ templates, (patches.forM Templates.patch).run Templates.initial = .ok () templates ∧
      ∀ reply,
        (lastPatch? patches reply = none → templates.get reply = .initial reply) ∧
        (∀ patch ∈ lastPatch? patches reply,
          patch.onTemplate.run (.initial reply) = .ok () (templates.get reply)) ∧
        (templates.get reply).buffer.length = (Template.initialBuffer reply).length ∧
        (∀ index ∉ reply.rewrittenPositions,
          (templates.get reply).buffer[index]? = (Template.initialBuffer reply)[index]?) ∧
        ∀ octet ∈ (templates.get reply).buffer.drop (templates.get reply).packet.length,
          octet = 0 := by
  obtain ⟨hrun, hintact⟩ := run_forM_patch intact_initial patches
  refine ⟨_, hrun, ?_⟩
  intro reply
  refine ⟨?_, ?_, (hintact reply).buffer.length_eq, (hintact reply).buffer.getElem?_eq, ?_⟩
  · intro hnone
    rw [get_foldl_patched, hnone]
    exact get_initial reply
  · intro patch hpatch
    have hreply : patch.reply = reply := by
      simpa using (List.mem_filter.mp (List.mem_of_getLast? hpatch)).2
    rw [get_foldl_patched, hpatch, ← hreply]
    exact patch.run_onTemplate (Template.intact_initial patch.reply)
  · intro octet hoctet
    exact (hintact reply).eq_zero hoctet

end PacketRefusal
