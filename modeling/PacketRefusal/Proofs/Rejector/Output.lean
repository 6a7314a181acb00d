import PacketRefusal.Proofs.Rejector.Payload
import PacketRefusal.Proofs.Report.Console
import PacketRefusal.Proofs.Report.Line

/-!
# What a rejector writes to the console

Captured packets are dealt with one after another, and every report can be written
(`Rejector.handleAll`). A packet is reported once if it has a network header, and otherwise it is
skipped (`Rejector.verdict_handle_eq_skipped_iff`), so by induction on the packets the reports are
the lines of those that are not skipped, in their order (`Rejector.reports_handleAll`). A report
line contains neither a line break nor an escape character, and the rest is a matter of the console
(`Rejector.console_output`).
-/

set_option autoImplicit false
set_option relaxedAutoImplicit false

namespace PacketRefusal

theorem Headers.plain_reportLine (headers : Headers) : Console.Plain headers.reportLine where
  noBreak := headers.control_not_mem_reportLine (by decide)
  noEscape := headers.control_not_mem_reportLine (by decide)

namespace Rejector

/-- A packet is skipped just if it has no network header. -/
theorem verdict_handle_eq_skipped_iff (rejector : Rejector) (surroundings : Surroundings)
    (capture : Diversion.Capture) :
    (rejector.handle surroundings capture).verdict = some .skipped ↔
      ¬(Packet.parse capture.data).hasNetworkHeader := by
  rw [verdict_handle, Option.some_inj, Packet.verdict]
  split_ifs with hnetwork
  · refine iff_of_false ?_ (not_not_intro hnetwork)
    cases (Packet.parse capture.data).reply? <;> simp
  · exact iff_of_true rfl hnetwork

/-- The turns in which captured packets are dealt with, one after another, while all reports can be
written. With each packet comes the error with which sending its reply fails, if it does. -/
def handleAll (rejector : Rejector) : List (Option HandlingError × Diversion.Capture) → List Turn
  | [] => []
  | (sendFailure, capture) :: packets =>
    let turn := rejector.handle { sendFailure } capture
    turn :: turn.rejector.handleAll packets

/-- The packets that are not skipped, each with the turn in which it is dealt with. -/
def reported (rejector : Rejector) (packets : List (Option HandlingError × Diversion.Capture)) :
    List (Diversion.Capture × Turn) :=
  ((packets.map Prod.snd).zip (rejector.handleAll packets)).filter
    (·.2.verdict ≠ some .skipped)

theorem reported_cons (rejector : Rejector) (sendFailure : Option HandlingError)
    (capture : Diversion.Capture) (packets : List (Option HandlingError × Diversion.Capture)) :
    let turn := rejector.handle { sendFailure } capture
    rejector.reported ((sendFailure, capture) :: packets) =
      (if turn.verdict = some .skipped then [] else [(capture, turn)]) ++
        turn.rejector.reported packets := by
  intro turn
  by_cases hskipped : turn.verdict = some .skipped
  · rw [if_pos hskipped]
    exact List.filter_cons_of_neg (by simp [turn, hskipped])
  · rw [if_neg hskipped]
    exact List.filter_cons_of_pos (by simp [turn, hskipped])

/-- The reports are the lines of the packets that are not skipped. -/
theorem reports_handleAll (rejector : Rejector)
    (packets : List (Option HandlingError × Diversion.Capture)) :
    (rejector.handleAll packets).flatMap Turn.reports =
      (rejector.reported packets).map fun handled ↦ (Packet.parse handled.1.data).reportLine := by
  induction packets generalizing rejector with
  | nil => rfl
  | cons packet packets ih =>
    obtain ⟨sendFailure, capture⟩ := packet
    rw [handleAll, List.flatMap_cons, ih, reported_cons, List.map_append, reports_handle]
    simp only [verdict_handle_eq_skipped_iff, ite_not]
    split <;> rfl

/-- The console shows one line for each packet that is not skipped, whatever is captured and
whatever fails to be sent.

Without colour the output is, in the order of the packets, the word and the fields of each of them.
With colour it becomes the same text once the control sequences are erased, and each of its lines
begins by selecting red and ends by resetting the colours. -/
theorem console_output (rejector : Rejector)
    (packets : List (Option HandlingError × Diversion.Capture)) :
    let output (color : Bool) :=
      Console.output color ((rejector.handleAll packets).flatMap Turn.reports)
    let reported := rejector.reported packets
    output false = String.join (reported.map fun handled ↦
      "BLOCK " ++ (Packet.parse handled.1.data).reportLine ++ "\n") ∧
    (∀ color, (output color).toList.count '\n' = reported.length) ∧
    Console.eraseRenditions (output true).toList = (output false).toList ∧
    ∃ lines, (output true).toList.splitOn '\n' = lines ++ [[]] ∧
      lines.length = reported.length ∧
      ∀ line ∈ lines, (Console.selectColor Console.red).toList <+: line ∧
        Console.resetColors.toList <:+ line := by
  intro output reported
  have hreports := reports_handleAll rejector packets
  have hplain : ∀ fields ∈ (rejector.handleAll packets).flatMap Turn.reports,
      Console.Plain fields := by
    rw [hreports]
    intro fields hfields
    obtain ⟨handled, -, rfl⟩ := List.mem_map.mp hfields
    exact Headers.plain_reportLine _
  have hlength : ((rejector.handleAll packets).flatMap Turn.reports).length = reported.length := by
    rw [hreports, List.length_map]
  refine ⟨?_, fun color ↦ ?_, Console.eraseRenditions_output hplain, _,
    Console.splitOn_output hplain true, ?_, ?_⟩
  · simp only [output, Console.output, hreports, List.map_map]
    rfl
  · exact (Console.count_output hplain color).trans hlength
  · rw [List.length_map, hlength]
  · intro line hline
    obtain ⟨fields, -, rfl⟩ := List.mem_map.mp hline
    exact Console.content_true fields

end Rejector

end PacketRefusal
