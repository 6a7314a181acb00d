import PacketRefusal.Proofs.Rejector.Payload
import PacketRefusal.Proofs.Report.Line
import PacketRefusal.Proofs.Reply.Reading

/-!
# Packets with the same report

A report line shows all that the reaction to a packet is chosen by. Packets with the same line have
headers that are shown alike, hence the same verdict (`Packet.verdict_eq_of_shownAlike`) and the
same ends (`Headers.ends_eq_of_shownAlike`). A reply goes between the ends of the packet that it
answers, in the other direction (`Packet.ends_parse_forged`), so replies to packets with the same
line go between the same ends. `Rejector.reports_identify` puts this together with what a line shows
and with what it is made of.
-/

set_option autoImplicit false
set_option relaxedAutoImplicit false

namespace PacketRefusal

/-! ### The ends of a packet -/

/-- The ends between which a packet goes, each pair with the sender first: the addresses, in the
version that the packet has, and the ports of TCP. -/
structure Ends where
  ipv4 : Option (Ipv4.Address × Ipv4.Address)
  ipv6 : Option (Ipv6.Address × Ipv6.Address)
  tcp : Option (UInt16 × UInt16)
  deriving DecidableEq

def Ends.reversed (ends : Ends) : Ends where
  ipv4 := ends.ipv4.map Prod.swap
  ipv6 := ends.ipv6.map Prod.swap
  tcp := ends.tcp.map Prod.swap

/-- The ends between which a packet with some headers goes. -/
def Headers.ends (headers : Headers) : Ends where
  ipv4 := headers.ipv4.map fun header ↦ (header.source, header.destination)
  ipv6 := headers.ipv6.map fun header ↦ (header.source, header.destination)
  tcp := headers.tcp.map fun header ↦ (header.sourcePort, header.destinationPort)

/-- A line shows the ends of the packet. -/
theorem Headers.ends_eq_of_shownAlike {first second : Headers} (halike : first.ShownAlike second) :
    first.ends = second.ends := by
  have htcp := congrArg (Option.map fun shown ↦ (shown.1, shown.2.1)) halike.tcp
  rw [Option.map_map, Option.map_map] at htcp
  rw [ends, ends, halike.ipv4, halike.ipv6, Ends.mk.injEq]
  exact ⟨rfl, rfl, htcp⟩

/-- A line shows which headers are present, and the verdict depends on nothing else. -/
theorem Packet.verdict_eq_of_shownAlike {first second : Packet}
    (halike : first.ShownAlike second.toHeaders) : first.verdict = second.verdict := by
  have hipv4 : first.ipv4.isSome = second.ipv4.isSome := by
    simpa using congrArg Option.isSome halike.ipv4
  have hipv6 : first.ipv6.isSome = second.ipv6.isSome := by
    simpa using congrArg Option.isSome halike.ipv6
  have htcp : first.tcp.isSome = second.tcp.isSome := by
    simpa using congrArg Option.isSome halike.tcp
  have hreply : first.reply? = second.reply? := by
    rw [reply?, reply?, hipv4, halike.udp]
    cases hfirst : first.tcp <;> cases hsecond : second.tcp
    · rfl
    · simp [hfirst, hsecond] at htcp
    · simp [hfirst, hsecond] at htcp
    · rfl
  rw [verdict, verdict, Headers.hasNetworkHeader, Headers.hasNetworkHeader, hipv4, hipv6, hreply]

/-- A reply goes between the ends of the packet that it answers, in the other direction. -/
theorem Packet.ends_parse_forged {raw : Bytes} {captured : Diversion.Address} {reply : Reply}
    {patch : Patch} (hcall : (parse raw).CallFor reply)
    (hpatch : (parse raw).patch captured reply = .ok patch) :
    (parse patch.forged).ends = (parse raw).ends.reversed := by
  cases reply with
  | tcpReset =>
    obtain ⟨tcp, htcp⟩ := Option.isSome_iff_exists.mp hcall.1
    obtain ⟨ip, hip⟩ := Option.isSome_iff_exists.mp hcall.2
    simp only [Packet.patch, hip, htcp, Except.ok.injEq] at hpatch
    subst hpatch
    rw [Headers.ends, Headers.ends, hip, htcp, ipv6_parse_eq_none hcall.2,
      Patch.parse_forged_tcpReset]
    rfl
  | tcpResetV6 =>
    obtain ⟨tcp, htcp⟩ := Option.isSome_iff_exists.mp hcall.1
    obtain ⟨ip, hip⟩ := Option.isSome_iff_exists.mp hcall.2
    simp only [Packet.patch, hip, htcp, Except.ok.injEq] at hpatch
    subst hpatch
    rw [Headers.ends, Headers.ends, hip, htcp, ipv4_parse_eq_none hcall.2,
      Patch.parse_forged_tcpResetV6]
    rfl
  | icmpUnreachable =>
    obtain ⟨ip, hip⟩ := Option.isSome_iff_exists.mp hcall.2
    simp only [Packet.patch, hip, Except.ok.injEq] at hpatch
    subst hpatch
    rw [Headers.ends, Headers.ends, hip, tcp_parse_eq_none hcall.1, ipv6_parse_eq_none hcall.2,
      Patch.parse_forged_icmpUnreachable]
    rfl
  | icmpv6Unreachable =>
    obtain ⟨ip, hip⟩ := Option.isSome_iff_exists.mp hcall.2
    simp only [Packet.patch, hip, Except.ok.injEq] at hpatch
    subst hpatch
    rw [Headers.ends, Headers.ends, hip, tcp_parse_eq_none hcall.1, ipv4_parse_eq_none hcall.2,
      Patch.parse_forged_icmpv6Unreachable]
    rfl

namespace Rejector

/-- A packet that is reported has a network header, and the line shows its headers. -/
theorem eq_reportLine_of_mem_reports {rejector : Rejector} {surroundings : Surroundings}
    {capture : Diversion.Capture} {line : String}
    (hline : line ∈ (rejector.handle surroundings capture).reports) :
    line = (Packet.parse capture.data).reportLine := by
  rw [reports_handle] at hline
  split at hline
  · exact List.mem_singleton.mp hline
  · exact absurd hline List.not_mem_nil

/-- A report line identifies what was reported.

Two lines are the same just if the same kinds of header are present and agree in what is shown of
them. A line is made of printable characters of ASCII, neither begins nor ends with a space, and
contains no two spaces in a row; in particular there is no line break and no control sequence in
it. Two packets that are reported with the same line, by whatever rejectors and whatever fails
there, get the same verdict, and if they are answered, the replies go between the same ends. -/
theorem reports_identify :
    (∀ first second : Headers, first.reportLine = second.reportLine ↔ first.ShownAlike second) ∧
    (∀ headers : Headers,
      (∀ char ∈ headers.reportLine.toList, ' ' ≤ char ∧ char ≤ '~') ∧
      Tight ' ' headers.reportLine.toList ∧
      '\n' ∉ headers.reportLine.toList ∧ '\x1b' ∉ headers.reportLine.toList) ∧
    ∀ {rejector other : Rejector}, Reachable rejector → Reachable other →
      ∀ (surroundings others : Surroundings) (capture capture' : Diversion.Capture) (line : String),
        let turn := rejector.handle surroundings capture
        let turn' := other.handle others capture'
        line ∈ turn.reports → line ∈ turn'.reports →
          turn.verdict = turn'.verdict ∧
          ∀ reply, turn.verdict = some (.rejected reply) → ∃ sent sent',
            turn.sends = [sent] ∧ turn'.sends = [sent'] ∧
            (Packet.parse sent.2).ends = (Packet.parse capture.data).ends.reversed ∧
            (Packet.parse sent'.2).ends = (Packet.parse sent.2).ends := by
  refine ⟨fun first second ↦ Headers.reportLine_eq_iff, fun headers ↦ ?_, ?_⟩
  · exact ⟨fun char hchar ↦ Headers.printable_reportLine hchar, headers.tight_reportLine,
      headers.control_not_mem_reportLine (by decide),
      headers.control_not_mem_reportLine (by decide)⟩
  · intro rejector other hrejector hother surroundings others capture capture' line turn turn'
      hline hline'
    have halike :
        (Packet.parse capture.data).ShownAlike (Packet.parse capture'.data).toHeaders := by
      rw [← Headers.reportLine_eq_iff, ← eq_reportLine_of_mem_reports hline,
        ← eq_reportLine_of_mem_reports hline']
    have hverdict : turn.verdict = turn'.verdict := by
      rw [verdict_handle, verdict_handle, Packet.verdict_eq_of_shownAlike halike]
    refine ⟨hverdict, fun reply hrejected ↦ ?_⟩
    have hrejected' := hverdict.symm.trans hrejected
    have hcall := ((course_handle hrejector surroundings capture).verdict_eq_rejected_iff
      reply).mp hrejected
    have hcall' := ((course_handle hother others capture').verdict_eq_rejected_iff
      reply).mp hrejected'
    obtain ⟨patch, hpatch, -, hsends⟩ :=
      exists_patch_of_callFor hrejector surroundings capture hcall
    obtain ⟨patch', hpatch', -, hsends'⟩ :=
      exists_patch_of_callFor hother others capture' hcall'
    have hends := Packet.ends_parse_forged hcall hpatch
    have hends' := Packet.ends_parse_forged hcall' hpatch'
    refine ⟨_, _, hsends, hsends', hends, ?_⟩
    rw [hends', hends, Headers.ends_eq_of_shownAlike halike]

theorem reports_identify_of_segments :
    let line := "ip.SrcAddr=10.0.0.1 ip.DstAddr=10.0.0.2 " ++
      "tcp.SrcPort=12345 tcp.DstPort=80 tcp.Flags=[PSH][ACK]"
    let turn (payload : Bytes) :=
      (initial 65535).handle {} ⟨segmentWithPayload payload, ⟨1, 2, .inbound⟩⟩
    Reachable (initial 65535) ∧
      line ∈ (turn [0x61, 0x61]).reports ∧ line ∈ (turn [0x62, 0x63]).reports ∧
      (turn [0x61, 0x61]).verdict = some (.rejected .tcpReset) ∧
      (turn [0x62, 0x63]).verdict = some (.rejected .tcpReset) ∧
      ∃ sent sent', (turn [0x61, 0x61]).sends = [sent] ∧ (turn [0x62, 0x63]).sends = [sent'] ∧
        (Packet.parse sent'.2).ends = (Packet.parse sent.2).ends ∧
        (Packet.parse sent.2).ends.tcp = some (80, 12345) := by
  intro line turn
  have hmem (payload : Bytes)
      (hline : (Packet.parse (segmentWithPayload payload)).reportLine = line)
      (hnetwork : (Packet.parse (segmentWithPayload payload)).hasNetworkHeader) :
      line ∈ (turn payload).reports := by
    rw [reports_handle, if_pos hnetwork, List.mem_singleton, hline]
  have hfirst : line ∈ (turn [0x61, 0x61]).reports := hmem _ (by decide +kernel) (by cbv)
  have hsecond : line ∈ (turn [0x62, 0x63]).reports := hmem _ (by decide +kernel) (by cbv)
  obtain ⟨hverdict, hreply⟩ := reports_identify.2.2 (.initial 65535) (.initial 65535) {} {}
    ⟨segmentWithPayload [0x61, 0x61], ⟨1, 2, .inbound⟩⟩
    ⟨segmentWithPayload [0x62, 0x63], ⟨1, 2, .inbound⟩⟩ line hfirst hsecond
  have hrejected : (turn [0x61, 0x61]).verdict = some (.rejected .tcpReset) := by
    rw [verdict_handle]
    cbv
  obtain ⟨sent, sent', hsent, hsent', hends, hends'⟩ := hreply .tcpReset hrejected
  refine ⟨.initial 65535, hfirst, hsecond, hrejected, hverdict ▸ hrejected, sent, sent', hsent,
    hsent', hends', ?_⟩
  rw [hends]
  decide

end Rejector

end PacketRefusal
