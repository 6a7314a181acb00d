import Mathlib.Data.List.Basic
import PacketRefusal.Proofs.Rejector.Sending

/-!
# What is done in a turn

A turn takes one of three courses, and `Course` writes each of them down in full: the state after
it, the verdict, and everything that is done, in order. A packet without a network header leaves no
trace. Any other is reported first, whether or not the report can be written. If it has neither a
TCP nor a UDP header, that is all. Otherwise a reply is built and sent, once, and the log says what
became of it. `Rejector.course_handle` says that there is no fourth course: for a packet that was
parsed and for templates that a rejector can have, no step of building a reply fails.

`Rejector.effects_of_turn` reads off when each verdict is given and what goes with it.
-/

set_option autoImplicit false
set_option relaxedAutoImplicit false

namespace PacketRefusal

/-- The kind of reply that the headers of a packet call for: TCP is reset and UDP is declared
unreachable, in the version of the network header. -/
def Headers.CallFor (headers : Headers) : Reply → Prop
  | .tcpReset => headers.tcp.isSome ∧ headers.ipv4.isSome
  | .tcpResetV6 => headers.tcp.isSome ∧ headers.ipv6.isSome
  | .icmpUnreachable => headers.udp.isSome ∧ headers.ipv4.isSome
  | .icmpv6Unreachable => headers.udp.isSome ∧ headers.ipv6.isSome

/-- The records of a report: a warning if it could not be written. -/
def reportRecords (surroundings : Surroundings) : List Log.Record :=
  surroundings.reportFailure.toList.map fun cause ↦
    ⟨.warning, "パケット情報の出力に失敗しました: " ++ cause⟩

/-- The record of an attempt to send a reply, which carries the cause of a failure. -/
def sendRecord (reply : Reply) (surroundings : Surroundings) : Log.Record :=
  match surroundings.sendFailure with
  | none => ⟨.debug, reply.text ++ "を送信しました"⟩
  | some error => ⟨.warning, reply.text ++ "の送信に失敗しました: " ++ error.message⟩

/-- Reporting a packet, and recording it if that fails. -/
def reportEffects (surroundings : Surroundings) (packet : Packet) : List Effect :=
  .report packet.reportLine :: (reportRecords surroundings).map .log

/-- Sending the reply that stands in a template, and recording how that went. -/
def sendEffects (surroundings : Surroundings) (reply : Reply) (template : Template) :
    List Effect :=
  [.send template.address template.packet, .log (sendRecord reply surroundings)]

/-- The courses that a turn can take. -/
inductive Course (rejector : Rejector) (surroundings : Surroundings)
    (captured : Diversion.Address) (packet : Packet) : Turn → Prop
  | skipped (hipv4 : packet.ipv4 = none) (hipv6 : packet.ipv6 = none) :
    Course rejector surroundings captured packet ⟨rejector, some .skipped, []⟩
  | dropped (hnetwork : packet.ipv4.isSome ∨ packet.ipv6.isSome) (htcp : packet.tcp = none)
      (hudp : packet.udp = none) :
    Course rejector surroundings captured packet
      ⟨rejector, some .dropped, reportEffects surroundings packet⟩
  | rejected {reply : Reply} {patch : Patch} {templates : Templates}
      (hcall : packet.CallFor reply) (hpatch : packet.patch captured reply = .ok patch)
      (hrun : (Templates.patch patch).run rejector.templates = .ok () templates) :
    Course rejector surroundings captured packet
      ⟨{ rejector with templates }, some (.rejected reply),
        reportEffects surroundings packet ++ sendEffects surroundings reply (templates.get reply)⟩

namespace Packet

variable {raw : Bytes} {reply : Reply}

theorem hasNetworkHeader_iff (packet : Packet) :
    packet.hasNetworkHeader ↔ packet.ipv4.isSome ∨ packet.ipv6.isSome := by
  rw [Headers.hasNetworkHeader, Bool.or_eq_true]

theorem reply?_eq_none_iff (packet : Packet) :
    packet.reply? = none ↔ packet.tcp = none ∧ packet.udp = none := by
  rw [reply?]
  cases packet.tcp <;> cases packet.udp <;> simp

/-- A network header and a header of TCP or UDP always call for a reply. -/
theorem exists_callFor {packet : Packet} (hnetwork : packet.hasNetworkHeader)
    (hreply : packet.reply? ≠ none) : ∃ reply, packet.CallFor reply := by
  have htransport : packet.tcp.isSome ∨ packet.udp.isSome := by
    rw [Ne, reply?_eq_none_iff, Classical.not_and_iff_not_or_not] at hreply
    exact hreply.imp Option.isSome_iff_ne_none.mpr Option.isSome_iff_ne_none.mpr
  rcases (hasNetworkHeader_iff packet).mp hnetwork with hip | hip <;>
    rcases htransport with hfound | hfound
  · exact ⟨.tcpReset, hfound, hip⟩
  · exact ⟨.icmpUnreachable, hfound, hip⟩
  · exact ⟨.tcpResetV6, hfound, hip⟩
  · exact ⟨.icmpv6Unreachable, hfound, hip⟩

/-- The reply that the headers of a parsed packet call for is chosen. No other one could be, since
parsing finds headers of one IP version and of one transport protocol only. -/
theorem reply?_of_callFor (hcall : (parse raw).CallFor reply) :
    (parse raw).reply? = some reply := by
  rw [reply?]
  cases reply with
  | tcpReset =>
    obtain ⟨tcp, htcp⟩ := Option.isSome_iff_exists.mp hcall.1
    simp only [htcp, if_pos hcall.2]
  | tcpResetV6 =>
    obtain ⟨tcp, htcp⟩ := Option.isSome_iff_exists.mp hcall.1
    simp [htcp, ipv4_parse_eq_none hcall.2]
  | icmpUnreachable =>
    obtain ⟨udp, hudp⟩ := Option.isSome_iff_exists.mp hcall.1
    simp only [hudp, tcp_parse_eq_none hcall.1, if_pos hcall.2]
  | icmpv6Unreachable =>
    obtain ⟨udp, hudp⟩ := Option.isSome_iff_exists.mp hcall.1
    simp [hudp, tcp_parse_eq_none hcall.1, ipv4_parse_eq_none hcall.2]

/-- A reply is chosen for a parsed packet just if its headers call for it. -/
theorem reply?_eq_some_iff : (parse raw).reply? = some reply ↔ (parse raw).CallFor reply := by
  refine ⟨fun hreply ↦ ?_, reply?_of_callFor⟩
  obtain ⟨hnetwork, -⟩ := exists_refusal hreply .initial
  obtain ⟨other, hcall⟩ := exists_callFor hnetwork (by rw [hreply]; exact Option.some_ne_none _)
  obtain rfl : other = reply := Option.some.inj ((reply?_of_callFor hcall).symm.trans hreply)
  exact hcall

end Packet

namespace Rejector

variable {rejector : Rejector}

theorem reporting_eq (surroundings : Surroundings) (packet : Packet) :
    reporting surroundings packet = reportEffects surroundings packet := by
  rw [reporting, reportEffects, reportRecords]
  cases surroundings.reportFailure <;> rfl

theorem sendingOutcome_eq (surroundings : Surroundings) (reply : Reply) :
    sendingOutcome reply surroundings.sendFailure = .log (sendRecord reply surroundings) := by
  rw [sendRecord]
  cases surroundings.sendFailure <;> rfl

/-- A reply that is called for can be built from intact templates, and is sent. -/
theorem exists_answer (hintact : rejector.templates.Intact) (surroundings : Surroundings)
    (captured : Diversion.Address) {raw : Bytes} {reply : Reply}
    (hcall : (Packet.parse raw).CallFor reply) :
    ∃ patch templates, (Packet.parse raw).patch captured reply = .ok patch ∧
      (Templates.patch patch).run rejector.templates = .ok () templates ∧
      rejector.answer surroundings captured (Packet.parse raw) reply =
        ({ rejector with templates }, sendEffects surroundings reply (templates.get reply)) := by
  obtain ⟨-, patch, hpatch, -⟩ :=
    Packet.exists_refusal (Packet.reply?_eq_some_iff.mpr hcall) captured
  have hrun := Templates.run_patch hintact patch
  refine ⟨patch, _, hpatch, hrun, ?_⟩
  simp only [answer, hpatch, hrun, sendingOutcome_eq, sendEffects]

/-- Every turn takes one of the three courses. -/
theorem course_handle (hreachable : Reachable rejector) (surroundings : Surroundings)
    (capture : Diversion.Capture) :
    Course rejector surroundings capture.address (Packet.parse capture.data)
      (rejector.handle surroundings capture) := by
  rw [handle]
  split_ifs with hnetwork
  · cases hreply : (Packet.parse capture.data).reply? with
    | none =>
      obtain ⟨htcp, hudp⟩ := (Packet.reply?_eq_none_iff _).mp hreply
      simp only [reporting_eq]
      exact .dropped ((Packet.hasNetworkHeader_iff _).mp hnetwork) htcp hudp
    | some reply =>
      have hcall := Packet.reply?_eq_some_iff.mp hreply
      obtain ⟨patch, templates, hpatch, hrun, hanswer⟩ :=
        exists_answer hreachable.intact surroundings capture.address hcall
      simp only [hanswer, reporting_eq]
      exact .rejected hcall hpatch hrun
  · rw [Packet.hasNetworkHeader_iff, not_or] at hnetwork
    exact .skipped (Option.not_isSome_iff_eq_none.mp hnetwork.1)
      (Option.not_isSome_iff_eq_none.mp hnetwork.2)

/-- A reply that is called for is forged and sent. -/
theorem exists_patch_of_callFor (hreachable : Reachable rejector) (surroundings : Surroundings)
    (capture : Diversion.Capture) {reply : Reply}
    (hcall : (Packet.parse capture.data).CallFor reply) :
    ∃ patch, (Packet.parse capture.data).patch capture.address reply = .ok patch ∧
      (rejector.handle surroundings capture).verdict = some (.rejected reply) ∧
      (rejector.handle surroundings capture).sends = [(patch.returnAddress, patch.forged)] := by
  have hreply := Packet.reply?_of_callFor hcall
  obtain ⟨hnetwork, patch, hpatch, -⟩ := Packet.exists_refusal hreply capture.address
  exact ⟨patch, hpatch, handle_of_patch hreachable surroundings hnetwork hreply hpatch⟩

end Rejector

namespace Course

variable {rejector : Rejector} {surroundings : Surroundings} {captured : Diversion.Address}
  {packet : Packet} {turn : Turn}

theorem exists_verdict (hcourse : Course rejector surroundings captured packet turn) :
    ∃ verdict, turn.verdict = some verdict := by
  cases hcourse <;> exact ⟨_, rfl⟩

theorem verdict_eq_skipped_iff (hcourse : Course rejector surroundings captured packet turn) :
    turn.verdict = some .skipped ↔ packet.ipv4 = none ∧ packet.ipv6 = none := by
  cases hcourse with
  | skipped hipv4 hipv6 => exact iff_of_true rfl ⟨hipv4, hipv6⟩
  | dropped hnetwork =>
    refine iff_of_false nofun ?_
    rintro ⟨hipv4, hipv6⟩
    simp [hipv4, hipv6] at hnetwork
  | @rejected reply patch templates hcall =>
    refine iff_of_false nofun ?_
    rintro ⟨hipv4, hipv6⟩
    cases reply <;> simp [Headers.CallFor, hipv4, hipv6] at hcall

theorem verdict_eq_dropped_iff (hcourse : Course rejector surroundings captured packet turn) :
    turn.verdict = some .dropped ↔
      (packet.ipv4.isSome ∨ packet.ipv6.isSome) ∧ packet.tcp = none ∧ packet.udp = none := by
  cases hcourse with
  | skipped hipv4 hipv6 => exact iff_of_false nofun (by simp [hipv4, hipv6])
  | dropped hnetwork htcp hudp => exact iff_of_true rfl ⟨hnetwork, htcp, hudp⟩
  | @rejected reply patch templates hcall =>
    refine iff_of_false nofun ?_
    rintro ⟨-, htcp, hudp⟩
    cases reply <;> simp [Headers.CallFor, htcp, hudp] at hcall

theorem verdict_eq_rejected_iff {raw : Bytes}
    (hcourse : Course rejector surroundings captured (Packet.parse raw) turn) (reply : Reply) :
    turn.verdict = some (.rejected reply) ↔ (Packet.parse raw).CallFor reply := by
  rw [← Packet.reply?_eq_some_iff]
  cases hcourse with
  | skipped hipv4 hipv6 =>
    refine iff_of_false nofun fun hreply ↦ ?_
    obtain ⟨hnetwork, -⟩ := Packet.exists_refusal hreply .initial
    simp [Packet.hasNetworkHeader_iff, hipv4, hipv6] at hnetwork
  | dropped hnetwork htcp hudp =>
    refine iff_of_false nofun fun hreply ↦ ?_
    rw [(Packet.reply?_eq_none_iff _).mpr ⟨htcp, hudp⟩] at hreply
    cases hreply
  | rejected hcall =>
    rw [Packet.reply?_of_callFor hcall]
    simp

/-- A packet that is skipped leaves no trace. -/
theorem of_skipped (hcourse : Course rejector surroundings captured packet turn)
    (hverdict : turn.verdict = some .skipped) : turn.rejector = rejector ∧ turn.effects = [] := by
  cases hcourse with
  | skipped => exact ⟨rfl, rfl⟩
  | _ => cases hverdict

/-- A packet that is dropped is reported, and that is all. -/
theorem of_dropped (hcourse : Course rejector surroundings captured packet turn)
    (hverdict : turn.verdict = some .dropped) :
    turn.rejector = rejector ∧ turn.effects = reportEffects surroundings packet := by
  cases hcourse with
  | dropped => exact ⟨rfl, rfl⟩
  | _ => cases hverdict

/-- A packet that is rejected is reported, and the reply that stands in its template afterwards is
sent. -/
theorem of_rejected (hcourse : Course rejector surroundings captured packet turn) {reply : Reply}
    (hverdict : turn.verdict = some (.rejected reply)) :
    ∃ patch templates,
      packet.patch captured reply = .ok patch ∧
      (Templates.patch patch).run rejector.templates = .ok () templates ∧
      turn.rejector = { rejector with templates } ∧
      turn.effects = reportEffects surroundings packet ++
        sendEffects surroundings reply (templates.get reply) := by
  cases hcourse with
  | rejected hcall hpatch hrun =>
    cases hverdict
    exact ⟨_, _, hpatch, hrun, rfl, rfl⟩
  | _ => cases hverdict

end Course

/-- A packet that is rejected with a reply is refused in that way, and the forged reply is sent. -/
theorem Rejector.exists_refusal_of_verdict {rejector : Rejector} (hreachable : Reachable rejector)
    {surroundings : Surroundings} {capture : Diversion.Capture} {reply : Reply}
    (hverdict : (rejector.handle surroundings capture).verdict = some (.rejected reply)) :
    ∃ patch, patch.reply = reply ∧ Refusal capture.data capture.address patch ∧
      (rejector.handle surroundings capture).sends = [(patch.returnAddress, patch.forged)] := by
  have hcourse := course_handle hreachable surroundings capture
  have hreply := Packet.reply?_of_callFor ((hcourse.verdict_eq_rejected_iff reply).mp hverdict)
  obtain ⟨hnetwork, patch, hpatch, hrefusal⟩ := Packet.exists_refusal hreply capture.address
  obtain ⟨-, hsends⟩ := handle_of_patch hreachable surroundings hnetwork hreply hpatch
  exact ⟨patch, Packet.reply_of_patch hpatch, hrefusal, hsends⟩

/-- Everything that a turn does, whatever fails in it.

A packet is skipped just if it has no network header, and then nothing is done and nothing changes.
It is dropped just if it has a network header but neither a TCP nor a UDP header; then it is
reported, and nothing else is done. Every other packet is rejected with the reply that its headers
call for: it is reported, the reply is built without an error, is sent once, and the outcome is
logged. A report that fails adds a warning and changes nothing else. A packet that cannot be
received leaves a warning and nothing else. -/
theorem Rejector.effects_of_turn {rejector : Rejector} (hreachable : Reachable rejector)
    (surroundings : Surroundings) :
    (∀ capture : Diversion.Capture,
      let packet := Packet.parse capture.data
      let turn := rejector.handle surroundings capture
      (turn.verdict = some .skipped ↔ packet.ipv4 = none ∧ packet.ipv6 = none) ∧
      (turn.verdict = some .skipped → turn.rejector = rejector ∧ turn.effects = []) ∧
      (turn.verdict = some .dropped ↔
        (packet.ipv4.isSome ∨ packet.ipv6.isSome) ∧ packet.tcp = none ∧ packet.udp = none) ∧
      (turn.verdict = some .dropped →
        turn.rejector = rejector ∧ turn.effects = reportEffects surroundings packet) ∧
      ∀ reply,
        (turn.verdict = some (.rejected reply) ↔ packet.CallFor reply) ∧
        (turn.verdict = some (.rejected reply) →
          ∃ patch templates,
            packet.patch capture.address reply = .ok patch ∧
            (Templates.patch patch).run rejector.templates = .ok () templates ∧
            turn.rejector = { rejector with templates } ∧
            turn.effects = reportEffects surroundings packet ++
              sendEffects surroundings reply (templates.get reply))) ∧
    ∀ (attempt : Diversion.Attempt) (error : HandlingError),
      attempt rejector.capacity = .failure error →
      rejector.step surroundings attempt =
        ⟨rejector, none, [.log ⟨.warning, error.message⟩]⟩ := by
  refine ⟨fun capture ↦ ?_, fun attempt error hfailed ↦ by rw [step, hfailed]; rfl⟩
  intro packet turn
  have hcourse : Course rejector surroundings capture.address packet turn :=
    course_handle hreachable surroundings capture
  exact ⟨hcourse.verdict_eq_skipped_iff, hcourse.of_skipped, hcourse.verdict_eq_dropped_iff,
    hcourse.of_dropped, fun reply ↦ ⟨hcourse.verdict_eq_rejected_iff reply, hcourse.of_rejected⟩⟩

def bareDatagram : Diversion.Capture where
  data := [0x60, 0, 0, 0, 0, 8, 17, 64] ++ blank 15 ++ [1] ++ blank 15 ++ [2] ++
    [0x30, 0x39, 0, 53, 0, 8, 0, 0]
  address := ⟨1, 2, .inbound⟩

/-- Surroundings in which nothing can be written or sent. -/
def brokenSurroundings : Surroundings := ⟨some "closed", some (.sending "busy")⟩

theorem Rejector.effects_of_bareDatagram :
    Reachable (initial 65535) ∧
      ((initial 65535).handle brokenSurroundings bareDatagram).verdict =
        some (.rejected .icmpv6Unreachable) ∧
      ((initial 65535).handle brokenSurroundings bareDatagram).logs =
        [⟨.warning, "パケット情報の出力に失敗しました: closed"⟩,
          ⟨.warning, "ICMPv6 メッセージの送信に失敗しました: パケットの送信に失敗しました: busy"⟩] ∧
      (initial 65535).step brokenSurroundings (fun _ ↦ .failure (.receiving "no data")) =
        ⟨initial 65535, none, [.log ⟨.warning, "パケットの受信に失敗しました: no data"⟩]⟩ := by
  obtain ⟨hhandle, hstep⟩ := effects_of_turn (.initial 65535) brokenSurroundings
  obtain ⟨-, -, -, -, hrejected⟩ := hhandle bareDatagram
  obtain ⟨hcall, heffects⟩ := hrejected .icmpv6Unreachable
  have hverdict := hcall.mpr (by cbv)
  obtain ⟨_, _, -, -, -, hdone⟩ := heffects hverdict
  refine ⟨.initial 65535, hverdict, ?_, hstep _ (.receiving "no data") rfl⟩
  rw [Turn.logs, hdone]
  rfl

end PacketRefusal
