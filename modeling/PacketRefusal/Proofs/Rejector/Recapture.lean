import PacketRefusal.Proofs.Rejector.Effects
import PacketRefusal.Proofs.Reply.Reading

/-!
# Replies that are captured in their turn

What a rejector sends passes the stack on which it listens, so a reply may come back to it as a
captured packet. An unreachable message has neither a TCP nor a UDP header, so it is dropped
(`Patch.handle_forged_of_unreachable`). A reset is answered by a reset: `Patch.AnsweredBy` relates
the patch of a reset to that of its answer, and `Patch.AnsweredBy.handle` is one step.

A reset acknowledges and occupies no number. Resetting it therefore exchanges its ports and its
numbers and changes nothing else (`Tcp.Header.reset_eq_exchanged`), and doing so twice gives the
reset back, octet for octet (`Patch.AnsweredBy.forged_eq`). `Rejector.handle_own_replies` puts the
steps together. `Rejector.echoes` goes on capturing whatever is sent, and by induction on the number
of turns, two resets take turns without end (`Rejector.echoes_of_answeredBy`).
-/

set_option autoImplicit false
set_option relaxedAutoImplicit false

namespace PacketRefusal

open Bytes

/-! ### Resets of resets -/

namespace Tcp.Header

/-- The header with its ports exchanged, and its numbers. -/
def exchanged (tcp : Header) : Header where
  sourcePort := tcp.destinationPort
  destinationPort := tcp.sourcePort
  sequenceNumber := tcp.acknowledgmentNumber
  acknowledgmentNumber := tcp.sequenceNumber
  flags := tcp.flags

theorem exchanged_exchanged (tcp : Header) : tcp.exchanged.exchanged = tcp := rfl

/-- A reset of a reset exchanges its ports and its numbers. -/
theorem reset_eq_exchanged {tcp : Header} (hflags : tcp.flags = resetFlags) :
    tcp.reset 0 = tcp.exchanged := by
  have hnumber : tcp.sequenceNumber + UInt32.ofNat 0 = tcp.sequenceNumber := UInt32.add_zero _
  rw [reset, resetNumbers, exchanged, hflags, hnumber]
  rfl

theorem reset_reset_reset (tcp : Header) (payloadLength : ℕ) :
    ((tcp.reset payloadLength).reset 0).reset 0 = tcp.reset payloadLength := by
  have hfirst : (tcp.reset payloadLength).reset 0 = (tcp.reset payloadLength).exchanged :=
    reset_eq_exchanged rfl
  rw [hfirst, reset_eq_exchanged rfl, exchanged_exchanged]

end Tcp.Header

/-- The octets of a reset are determined by its header. -/
theorem resetSegment_eq_of_reset_eq {first second : Tcp.Header} {fewer more : ℕ}
    (hreset : first.reset fewer = second.reset more) :
    resetSegment first fewer = resetSegment second more := by
  have hfields (tcp : Tcp.Header) (payloadLength : ℕ) :
      resetFields tcp payloadLength =
        ofWord (tcp.reset payloadLength).sourcePort ++
          ofWord (tcp.reset payloadLength).destinationPort ++
          ofLong (tcp.reset payloadLength).sequenceNumber ++
          ofLong (tcp.reset payloadLength).acknowledgmentNumber := rfl
  rw [resetSegment, resetSegment, hfields, hfields, hreset]

namespace Patch

/-- The patch of a reset, and the patch of the reset that answers it if it is captured. -/
inductive AnsweredBy : Patch → Patch → Prop
  | tcpReset (captured : Diversion.Address) (ip : Ipv4.Header) (tcp : Tcp.Header)
      (payloadLength : ℕ) :
    AnsweredBy (.tcpReset captured ip tcp payloadLength)
      (.tcpReset captured.reversed (ip.answer Tcp.protocol resetLength) (tcp.reset payloadLength) 0)
  | tcpResetV6 (captured : Diversion.Address) (ip : Ipv6.Header) (tcp : Tcp.Header)
      (payloadLength : ℕ) :
    AnsweredBy (.tcpResetV6 captured ip tcp payloadLength)
      (.tcpResetV6 captured.reversed (ip.answer Tcp.protocol Tcp.minimumHeaderLength)
        (tcp.reset payloadLength) 0)

theorem exists_answeredBy {patch : Patch}
    (hreset : patch.reply = .tcpReset ∨ patch.reply = .tcpResetV6) :
    ∃ answer, patch.AnsweredBy answer := by
  cases patch with
  | tcpReset captured ip tcp payloadLength => exact ⟨_, .tcpReset captured ip tcp payloadLength⟩
  | tcpResetV6 captured ip tcp payloadLength => exact ⟨_, .tcpResetV6 captured ip tcp payloadLength⟩
  | icmpUnreachable | icmpv6Unreachable => simp [reply] at hreset

namespace AnsweredBy

variable {first second third : Patch} {rejector : Rejector}

theorem reply_eq (hanswered : first.AnsweredBy second) : second.reply = first.reply := by
  cases hanswered <;> rfl

theorem reply_reset (hanswered : first.AnsweredBy second) :
    second.reply = .tcpReset ∨ second.reply = .tcpResetV6 := by
  cases hanswered with
  | tcpReset => exact Or.inl rfl
  | tcpResetV6 => exact Or.inr rfl

/-- The answer to the answer goes where the first reset went. -/
theorem returnAddress_eq (hfirst : first.AnsweredBy second) (hsecond : second.AnsweredBy third) :
    third.returnAddress = first.returnAddress := by
  cases hfirst <;> cases hsecond <;>
    exact congrArg Diversion.Address.reversed (Diversion.Address.reversed_reversed _)

/-- The answer to the answer is the first reset. -/
theorem forged_eq (hfirst : first.AnsweredBy second) (hsecond : second.AnsweredBy third) :
    third.forged = first.forged := by
  cases hfirst with
  | tcpReset captured ip tcp payloadLength =>
    cases hsecond
    have hsegment := resetSegment_eq_of_reset_eq (tcp.reset_reset_reset payloadLength)
    rw [forged, forged, message, message, hsegment]
    rfl
  | tcpResetV6 captured ip tcp payloadLength =>
    cases hsecond
    have hsegment := resetSegment_eq_of_reset_eq (tcp.reset_reset_reset payloadLength)
    rw [forged, forged, message, message, hsegment]
    rfl

/-- A reset that is captured is answered. -/
theorem handle (hanswered : first.AnsweredBy second) (hreachable : Rejector.Reachable rejector)
    (surroundings : Surroundings) :
    (rejector.handle surroundings ⟨first.forged, first.returnAddress⟩).verdict =
        some (.rejected second.reply) ∧
      (rejector.handle surroundings ⟨first.forged, first.returnAddress⟩).sends =
        [(second.returnAddress, second.forged)] := by
  cases hanswered with
  | tcpReset captured ip tcp payloadLength =>
    have hparse := parse_forged_tcpReset captured ip tcp payloadLength
    refine Rejector.handle_of_patch hreachable surroundings ?_ ?_ ?_ <;> rw [hparse] <;> rfl
  | tcpResetV6 captured ip tcp payloadLength =>
    have hparse := parse_forged_tcpResetV6 captured ip tcp payloadLength
    refine Rejector.handle_of_patch hreachable surroundings ?_ ?_ ?_ <;> rw [hparse] <;> rfl

end AnsweredBy

/-! ### Unreachable messages -/

/-- An unreachable message that is captured is dropped, and nothing is sent. -/
theorem handle_forged_of_unreachable {patch : Patch}
    (hreply : patch.reply = .icmpUnreachable ∨ patch.reply = .icmpv6Unreachable)
    {rejector : Rejector} (hreachable : Rejector.Reachable rejector) (surroundings : Surroundings)
    (address : Diversion.Address) :
    (rejector.handle surroundings ⟨patch.forged, address⟩).verdict = some .dropped ∧
      (rejector.handle surroundings ⟨patch.forged, address⟩).sends = [] := by
  have hfound :
      ((Packet.parse patch.forged).ipv4.isSome ∨ (Packet.parse patch.forged).ipv6.isSome) ∧
        (Packet.parse patch.forged).tcp = none ∧ (Packet.parse patch.forged).udp = none := by
    cases patch with
    | tcpReset | tcpResetV6 => simp [reply] at hreply
    | icmpUnreachable captured ip raw => simp [parse_forged_icmpUnreachable]
    | icmpv6Unreachable captured ip raw => simp [parse_forged_icmpv6Unreachable]
  have hcourse := Rejector.course_handle hreachable surroundings ⟨patch.forged, address⟩
  exact ⟨hcourse.verdict_eq_dropped_iff.mpr hfound,
    Rejector.sends_handle_of_none hreachable surroundings
      ((Packet.reply?_eq_none_iff _).mpr hfound.2)⟩

end Patch

/-! ### Captured packets -/

/-- A packet, its reset, and the reset of that. The last one goes from the source of the packet to
its destination, as the packet did, with the numbers of the first reset exchanged. -/
structure ResetAgain (packet reset again : Headers) : Prop where
  ipv4 : again.ipv4.map (fun ip ↦ (ip.source, ip.destination)) =
    packet.ipv4.map fun ip ↦ (ip.source, ip.destination)
  ipv6 : again.ipv6.map (fun ip ↦ (ip.source, ip.destination)) =
    packet.ipv6.map fun ip ↦ (ip.source, ip.destination)
  tcp : ∃ segment refusal, packet.tcp = some segment ∧ reset.tcp = some refusal ∧
    refusal.flags = resetFlags ∧
    again.tcp = some
      { sourcePort := segment.sourcePort
        destinationPort := segment.destinationPort
        sequenceNumber := refusal.acknowledgmentNumber
        acknowledgmentNumber := refusal.sequenceNumber
        flags := resetFlags }

/-- The answer to the reset of a refused packet takes the way of that packet. -/
theorem Refusal.resetAgain {raw : Bytes} {captured : Diversion.Address} {patch answer : Patch}
    (hrefusal : Refusal raw captured patch) (hanswered : patch.AnsweredBy answer) :
    answer.returnAddress = captured ∧
      ResetAgain (Packet.parse raw).toHeaders (Packet.parse patch.forged).toHeaders
        (Packet.parse answer.forged).toHeaders := by
  cases hrefusal with
  | tcpReset hstarts hoffset hprotocol htransport =>
    cases hanswered
    refine ⟨Diversion.Address.reversed_reversed captured, ?_⟩
    rw [(Packet.Upper.ipv4 hstarts hoffset).parse_eq, hprotocol,
      Packet.addTransport_tcp _ htransport, Patch.parse_forged_tcpReset,
      Patch.parse_forged_tcpReset, Tcp.Header.reset_eq_exchanged rfl]
    exact ⟨rfl, rfl, _, _, rfl, rfl, rfl, rfl⟩
  | tcpResetV6 hstarts hupper htransport =>
    cases hanswered
    refine ⟨Diversion.Address.reversed_reversed captured, ?_⟩
    rw [(Packet.Upper.ipv6 hstarts hupper).parse_eq, Packet.addTransport_tcp _ htransport,
      Patch.parse_forged_tcpResetV6, Patch.parse_forged_tcpResetV6,
      Tcp.Header.reset_eq_exchanged rfl]
    exact ⟨rfl, rfl, _, _, rfl, rfl, rfl, rfl⟩
  | icmpUnreachable | icmpv6Unreachable => cases hanswered

namespace Rejector

/-- What becomes of a reply that is captured in its turn, where it was sent to, by a rejector in any
state. An unreachable message is dropped. A reset is answered by a reset in the direction of the
refused packet, with that packet's addresses and ports and with the numbers of the first reset
exchanged. If that one is captured, the first reset is sent again, to the same place. -/
theorem handle_own_replies {first second third : Rejector} (hfirst : Reachable first)
    (hsecond : Reachable second) (hthird : Reachable third)
    (surroundings later latest : Surroundings) (capture : Diversion.Capture) {reply : Reply}
    (hverdict : (first.handle surroundings capture).verdict = some (.rejected reply)) :
    ∃ address packet,
      (first.handle surroundings capture).sends = [(address, packet)] ∧
      (reply = .icmpUnreachable ∨ reply = .icmpv6Unreachable →
        (second.handle later ⟨packet, address⟩).verdict = some .dropped ∧
        (second.handle later ⟨packet, address⟩).sends = []) ∧
      (reply = .tcpReset ∨ reply = .tcpResetV6 →
        ∃ returned,
          (second.handle later ⟨packet, address⟩).verdict = some (.rejected reply) ∧
          (second.handle later ⟨packet, address⟩).sends = [(capture.address, returned)] ∧
          ResetAgain (Packet.parse capture.data).toHeaders (Packet.parse packet).toHeaders
            (Packet.parse returned).toHeaders ∧
          (third.handle latest ⟨returned, capture.address⟩).verdict = some (.rejected reply) ∧
          (third.handle latest ⟨returned, capture.address⟩).sends = [(address, packet)]) := by
  obtain ⟨patch, rfl, hrefusal, hsends⟩ := exists_refusal_of_verdict hfirst hverdict
  refine ⟨patch.returnAddress, patch.forged, hsends,
    fun hreply ↦ Patch.handle_forged_of_unreachable hreply hsecond later _, fun hreply ↦ ?_⟩
  obtain ⟨answer, hanswer⟩ := Patch.exists_answeredBy hreply
  obtain ⟨again, hagain⟩ := Patch.exists_answeredBy hanswer.reply_reset
  obtain ⟨haddress, hheaders⟩ := hrefusal.resetAgain hanswer
  obtain ⟨hverdict', hsends'⟩ := hanswer.handle hsecond later
  obtain ⟨hverdict'', hsends''⟩ := hagain.handle hthird latest
  rw [hanswer.reply_eq] at hverdict'
  rw [hagain.reply_eq, hanswer.reply_eq] at hverdict''
  rw [hanswer.returnAddress_eq hagain, hanswer.forged_eq hagain] at hsends''
  rw [haddress] at hsends' hverdict'' hsends''
  exact ⟨answer.forged, hverdict', hsends', hheaders, hverdict'', hsends''⟩

def arrivingSegment : Diversion.Capture where
  data := [0x45, 0, 0, 40, 0, 1, 0, 0, 64, 6, 0, 0, 10, 0, 0, 1, 10, 0, 0, 2] ++
    [0x30, 0x39, 0, 80, 0xFF, 0xFF, 0xFF, 0xFF, 0, 0, 0, 0, 0x50, 2, 32, 0, 0, 0, 0, 0]
  address := ⟨1, 2, .inbound⟩

theorem handle_own_replies_of_arrivingSegment :
    let used := ((initial 65535).handle {} arrivingSegment).rejector
    Reachable used ∧
      (used.handle {} arrivingSegment).verdict = some (.rejected .tcpReset) ∧
      ∃ address packet returned,
        (used.handle {} arrivingSegment).sends = [(address, packet)] ∧
        ((initial 65535).handle {} ⟨packet, address⟩).sends = [(⟨1, 2, .inbound⟩, returned)] ∧
        (used.handle {} ⟨returned, ⟨1, 2, .inbound⟩⟩).sends = [(address, packet)] := by
  intro used
  have hused : Reachable used := .handle (.initial 65535) {} arrivingSegment
  have hverdict : (used.handle {} arrivingSegment).verdict = some (.rejected .tcpReset) :=
    ((course_handle hused {} arrivingSegment).verdict_eq_rejected_iff _).mpr (by cbv)
  obtain ⟨address, packet, hsends, -, hreset⟩ :=
    handle_own_replies hused (.initial 65535) hused {} {} {} arrivingSegment hverdict
  obtain ⟨returned, -, hsends', -, -, hsends''⟩ := hreset (Or.inl rfl)
  exact ⟨hused, hverdict, address, packet, returned, hsends, hsends', hsends''⟩

/-! ### Runs -/

/-- What is sent when a packet is captured, and then whatever is sent, as often as there are
surroundings left. -/
def echoes : List Surroundings → Rejector → Diversion.Capture → List (Diversion.Address × Bytes)
  | [], _, _ => []
  | surroundings :: rest, rejector, capture =>
    let turn := rejector.handle surroundings capture
    turn.sends ++ turn.sends.flatMap fun sent ↦ echoes rest turn.rejector ⟨sent.2, sent.1⟩

variable {rejector : Rejector}

/-- One packet is sent, and then what is sent for that one. -/
theorem echoes_cons {surroundings : Surroundings} {capture : Diversion.Capture}
    {address : Diversion.Address} {packet : Bytes}
    (hsends : (rejector.handle surroundings capture).sends = [(address, packet)])
    (rest : List Surroundings) :
    echoes (surroundings :: rest) rejector capture =
      (address, packet) ::
        echoes rest (rejector.handle surroundings capture).rejector ⟨packet, address⟩ := by
  simp only [echoes, hsends, List.flatMap_cons, List.flatMap_nil, List.append_nil,
    List.singleton_append]

/-- If nothing is sent for a packet, that is the end. -/
theorem echoes_eq_nil {capture : Diversion.Capture}
    (hsends : ∀ surroundings, (rejector.handle surroundings capture).sends = [])
    (surroundings : List Surroundings) : echoes surroundings rejector capture = [] := by
  cases surroundings with
  | nil => rfl
  | cons surroundings rest => simp only [echoes, hsends, List.flatMap_nil, List.append_nil]

/-- Two things that take turns, the first one at first. -/
def takeTurns {α : Type} : ℕ → α → α → List α
  | 0, _, _ => []
  | count + 1, first, second => first :: takeTurns count second first

/-- Once a reset is captured, its answer and the reset itself take turns. -/
theorem echoes_of_answeredBy {first second : Patch} (hanswered : first.AnsweredBy second)
    (hreachable : Reachable rejector) (surroundings : List Surroundings) :
    echoes surroundings rejector ⟨first.forged, first.returnAddress⟩ =
      takeTurns surroundings.length (second.returnAddress, second.forged)
        (first.returnAddress, first.forged) := by
  -- The answer to the answer is the first reset, so the roles are exchanged in the next turn.
  induction surroundings generalizing first second rejector with
  | nil => rfl
  | cons surroundings rest ih =>
    obtain ⟨third, hthird⟩ := Patch.exists_answeredBy hanswered.reply_reset
    obtain ⟨-, hsends⟩ := hanswered.handle hreachable surroundings
    rw [echoes_cons hsends, ih hthird (hreachable.handle surroundings _),
      hanswered.returnAddress_eq hthird, hanswered.forged_eq hthird]
    rfl

/-- If all that is sent is captured again, an unreachable message is the last packet that is sent,
and a reset is followed by resets without end, of which every other one is the same. -/
theorem echoes_of_verdict (hreachable : Reachable rejector) (surroundings : Surroundings)
    (rest : List Surroundings) (capture : Diversion.Capture) {reply : Reply}
    (hverdict : (rejector.handle surroundings capture).verdict = some (.rejected reply)) :
    ∃ address packet,
      (rejector.handle surroundings capture).sends = [(address, packet)] ∧
      (reply = .icmpUnreachable ∨ reply = .icmpv6Unreachable →
        echoes (surroundings :: rest) rejector capture = [(address, packet)]) ∧
      (reply = .tcpReset ∨ reply = .tcpResetV6 →
        ∃ returned, echoes (surroundings :: rest) rejector capture =
          takeTurns (rest.length + 1) (address, packet) (capture.address, returned)) := by
  obtain ⟨patch, rfl, hrefusal, hsends⟩ := exists_refusal_of_verdict hreachable hverdict
  have hlater := hreachable.handle surroundings capture
  refine ⟨patch.returnAddress, patch.forged, hsends, fun hreply ↦ ?_, fun hreply ↦ ?_⟩
  · rw [echoes_cons hsends, echoes_eq_nil fun others ↦
      (Patch.handle_forged_of_unreachable hreply hlater others _).2]
  · obtain ⟨answer, hanswer⟩ := Patch.exists_answeredBy hreply
    obtain ⟨haddress, -⟩ := hrefusal.resetAgain hanswer
    refine ⟨answer.forged, ?_⟩
    rw [echoes_cons hsends, echoes_of_answeredBy hanswer hlater, haddress]
    rfl

end Rejector

end PacketRefusal
