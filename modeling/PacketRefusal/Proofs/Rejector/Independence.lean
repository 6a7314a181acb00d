import PacketRefusal.Proofs.Reply.Patching
import PacketRefusal.Rejector

/-!
# Packets are dealt with independently of each other

Of the packets it deals with, a rejector keeps nothing but its templates. Since they stay intact
(`Rejector.Reachable.intact`), an answer is the forged reply whatever they hold
(`Rejector.answer_eq`), and what `Rejector.handle` shows to the outside is a function of the packet
and the surroundings (`Rejector.outcome_handle`). The same holds for a whole step
(`Rejector.outcome_step`), and by induction on the attempts a run is the sequence of the outcomes
that new rejectors have (`Rejector.outcomes_run`).
-/

set_option autoImplicit false
set_option relaxedAutoImplicit false

namespace PacketRefusal

/-- The kind of a patch is that of the reply it is made for. -/
theorem Packet.reply_of_patch {packet : Packet} {captured : Diversion.Address} {reply : Reply}
    {patch : Patch} (hpatch : packet.patch captured reply = .ok patch) : patch.reply = reply := by
  cases reply <;> simp only [Packet.patch] at hpatch <;> split at hpatch <;> cases hpatch <;> rfl

/-- What a turn shows to the outside: what became of the packet, and what was done, in order. -/
def Turn.outcome (turn : Turn) : Option Verdict × List Effect := (turn.verdict, turn.effects)

namespace Rejector

/-! ### Reachable states -/

/-- The states that a rejector can be in after some packets, whatever failed meanwhile. -/
inductive Reachable : Rejector → Prop
  | initial (capacity : ℕ) : Reachable (initial capacity)
  | handle {rejector : Rejector} (hreachable : Reachable rejector) (surroundings : Surroundings)
      (capture : Diversion.Capture) : Reachable (rejector.handle surroundings capture).rejector

variable {rejector : Rejector}

theorem Reachable.step (hreachable : Reachable rejector) (surroundings : Surroundings)
    (attempt : Diversion.Attempt) : Reachable (rejector.step surroundings attempt).rejector := by
  rw [Rejector.step]
  cases attempt rejector.capacity with
  | packet capture => exact hreachable.handle surroundings capture
  | failure error => exact hreachable

/-! ### Answers -/

/-- The templates once a packet was answered. -/
def templatesAfter (templates : Templates) (captured : Diversion.Address) (packet : Packet)
    (reply : Reply) : Templates :=
  match packet.patch captured reply with
  | .error _ => templates
  | .ok patch => templates.patched patch

/-- What answering a packet does to the outside. -/
def answerEffects (surroundings : Surroundings) (captured : Diversion.Address) (packet : Packet)
    (reply : Reply) : List Effect :=
  match packet.patch captured reply with
  | .error error => [unsent reply error.toHandlingError]
  | .ok patch =>
    [.send patch.returnAddress patch.forged, sendingOutcome reply surroundings.sendFailure]

/-- An answer from intact templates sends the forged reply. -/
theorem answer_eq (hintact : rejector.templates.Intact) (surroundings : Surroundings)
    (captured : Diversion.Address) (packet : Packet) (reply : Reply) :
    rejector.answer surroundings captured packet reply =
      ({ rejector with templates := templatesAfter rejector.templates captured packet reply },
        answerEffects surroundings captured packet reply) := by
  rw [answer, templatesAfter, answerEffects]
  cases hpatch : packet.patch captured reply with
  | error error => rfl
  | ok patch =>
    have hreply := Packet.reply_of_patch hpatch
    have htemplate : (rejector.templates.patched patch).get reply = patch.filled := by
      rw [Templates.get_patched, if_pos hreply.symm]
    simp only [Templates.run_patch hintact patch, htemplate, patch.packet_filled]
    rfl

theorem intact_templatesAfter {templates : Templates} (hintact : templates.Intact)
    (captured : Diversion.Address) (packet : Packet) (reply : Reply) :
    (templatesAfter templates captured packet reply).Intact := by
  rw [templatesAfter]
  split
  · exact hintact
  · exact hintact.patched _

/-! ### Packets -/

/-- What dealing with a packet shows to the outside. -/
def handleOutcome (surroundings : Surroundings) (capture : Diversion.Capture) :
    Option Verdict × List Effect :=
  let packet := Packet.parse capture.data
  if packet.hasNetworkHeader then
    match packet.reply? with
    | none => (some .dropped, reporting surroundings packet)
    | some reply =>
      (some (.rejected reply), reporting surroundings packet ++
        answerEffects surroundings capture.address packet reply)
  else (some .skipped, [])

/-- With intact templates the outcome depends on the packet and the surroundings alone. -/
theorem outcome_handle (hintact : rejector.templates.Intact) (surroundings : Surroundings)
    (capture : Diversion.Capture) :
    (rejector.handle surroundings capture).outcome = handleOutcome surroundings capture := by
  rw [handle, handleOutcome]
  split_ifs with hnetwork
  · cases (Packet.parse capture.data).reply? with
    | none => rfl
    | some reply =>
      simp only [answer_eq hintact]
      rfl
  · rfl

/-- Dealing with a packet keeps the templates intact and the size of the receiving buffer. -/
theorem intact_handle (hintact : rejector.templates.Intact) (surroundings : Surroundings)
    (capture : Diversion.Capture) :
    (rejector.handle surroundings capture).rejector.templates.Intact ∧
      (rejector.handle surroundings capture).rejector.capacity = rejector.capacity := by
  rw [handle]
  split_ifs with hnetwork
  · cases (Packet.parse capture.data).reply? with
    | none => exact ⟨hintact, rfl⟩
    | some reply =>
      simp only [answer_eq hintact]
      exact ⟨intact_templatesAfter hintact _ _ _, trivial⟩
  · exact ⟨hintact, rfl⟩

/-- The invariant of a rejector: its templates are intact after any packets. -/
theorem Reachable.intact (hreachable : Reachable rejector) : rejector.templates.Intact := by
  induction hreachable with
  | initial capacity => exact Templates.intact_initial
  | handle _ surroundings capture ih => exact (intact_handle ih surroundings capture).1

/-! ### Steps and runs -/

/-- What a step shows to the outside, given what arrives. -/
def stepOutcome (surroundings : Surroundings) : Diversion.Arrival → Option Verdict × List Effect
  | .packet capture => handleOutcome surroundings capture
  | .failure error => (none, [.warning error.message])

theorem outcome_step (hreachable : Reachable rejector) (surroundings : Surroundings)
    (attempt : Diversion.Attempt) :
    (rejector.step surroundings attempt).outcome =
      stepOutcome surroundings (attempt rejector.capacity) := by
  rw [step]
  cases attempt rejector.capacity with
  | packet capture => exact outcome_handle hreachable.intact surroundings capture
  | failure error => rfl

theorem capacity_step (hreachable : Reachable rejector) (surroundings : Surroundings)
    (attempt : Diversion.Attempt) :
    (rejector.step surroundings attempt).rejector.capacity = rejector.capacity := by
  rw [step]
  cases attempt rejector.capacity with
  | packet capture => exact (intact_handle hreachable.intact surroundings capture).2
  | failure error => rfl

/-- Over a run the outcomes are those of the single attempts. -/
theorem outcomes_run (hreachable : Reachable rejector)
    (attempts : List (Surroundings × Diversion.Attempt)) :
    (rejector.run attempts).map Turn.outcome =
      attempts.map fun attempt ↦ stepOutcome attempt.1 (attempt.2 rejector.capacity) := by
  induction attempts generalizing rejector with
  | nil => rfl
  | cons attempt attempts ih =>
    have hrest := ih (hreachable.step attempt.1 attempt.2)
    rw [capacity_step hreachable] at hrest
    rw [run, List.map_cons, List.map_cons, outcome_step hreachable, hrest]

/-- Running a rejector over a sequence of attempts, with any failures of reports and sendings, is
running a new rejector over each of them. The outcomes of the run are those of the single attempts,
in order, and so are all lines reported, packets sent and records logged. -/
theorem run_eq_single_attempts (capacity : ℕ)
    (attempts : List (Surroundings × Diversion.Attempt)) :
    ((initial capacity).run attempts).map Turn.outcome =
        attempts.map (fun attempt ↦ ((initial capacity).step attempt.1 attempt.2).outcome) ∧
      ((initial capacity).run attempts).flatMap Turn.effects =
        attempts.flatMap (fun attempt ↦
          ((initial capacity).run [attempt]).flatMap Turn.effects) ∧
      ((initial capacity).run attempts).flatMap Turn.reports =
        attempts.flatMap (fun attempt ↦
          ((initial capacity).run [attempt]).flatMap Turn.reports) ∧
      ((initial capacity).run attempts).flatMap Turn.sends =
        attempts.flatMap (fun attempt ↦
          ((initial capacity).run [attempt]).flatMap Turn.sends) ∧
      ((initial capacity).run attempts).flatMap Turn.logs =
        attempts.flatMap (fun attempt ↦
          ((initial capacity).run [attempt]).flatMap Turn.logs) := by
  have houtcomes : ((initial capacity).run attempts).map Turn.outcome =
      attempts.map (fun attempt ↦ ((initial capacity).step attempt.1 attempt.2).outcome) := by
    rw [outcomes_run (.initial capacity)]
    exact List.map_congr_left fun attempt _ ↦
      (outcome_step (.initial capacity) attempt.1 attempt.2).symm
  -- Whatever is read off the outcome of each turn follows in the same order.
  have hcollect {entry : Type} (collect : Option Verdict × List Effect → List entry) :
      ((initial capacity).run attempts).flatMap (fun turn ↦ collect turn.outcome) =
        attempts.flatMap fun attempt ↦
          ((initial capacity).run [attempt]).flatMap fun turn ↦ collect turn.outcome := by
    rw [← List.flatMap_map, houtcomes, List.flatMap_map]
    exact congrArg attempts.flatMap (funext fun attempt ↦ (List.append_nil _).symm)
  exact ⟨houtcomes, hcollect Prod.snd, hcollect fun outcome ↦ outcome.2.filterMap Effect.report?,
    hcollect fun outcome ↦ outcome.2.filterMap Effect.send?,
    hcollect fun outcome ↦ outcome.2.filterMap Effect.log?⟩

end Rejector

end PacketRefusal
