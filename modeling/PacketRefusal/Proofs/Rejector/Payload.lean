import PacketRefusal.Proofs.Packet.Padding
import PacketRefusal.Proofs.Rejector.Truncation

/-!
# Octets that do not influence the reaction

Two packets are compared of which one differs from the other in octets that parsing does not look
at. Then they have the same headers and the same payload length, so that the verdicts and the
reports are the same (`Rejector.verdict_handle`, `Rejector.reports_handle`), and the replies can
differ in their quotes only (`Packet.patch_raw_cases`). `Rejector.handle_of_parse_eq` collects this.

`Rejector.handle_ignores_payload` concludes for padding, which is neither counted nor quoted, and
for payload, which is counted, and of which an unreachable message over IPv6 may quote the first
octets.
-/

set_option autoImplicit false
set_option relaxedAutoImplicit false

namespace PacketRefusal

open Bytes

/-- The verdict on a packet with given headers. -/
def Packet.verdict (packet : Packet) : Verdict :=
  if packet.hasNetworkHeader then packet.reply?.elim .dropped .rejected else .skipped

variable {rejector : Rejector} {surroundings : Surroundings} {captured : Diversion.Address}
  {packet : Packet} {reply : Reply} {turn : Turn}

/-! ### Verdicts and reports -/

theorem Rejector.verdict_handle (rejector : Rejector) (surroundings : Surroundings)
    (capture : Diversion.Capture) :
    (rejector.handle surroundings capture).verdict = some (Packet.parse capture.data).verdict := by
  rw [handle, Packet.verdict]
  split_ifs
  · cases (Packet.parse capture.data).reply? <;> rfl
  · rfl

theorem reports_reportEffects (surroundings : Surroundings) (packet : Packet) :
    (reportEffects surroundings packet).filterMap Effect.report? = [packet.reportLine] := by
  rw [reportEffects, reportRecords]
  cases surroundings.reportFailure <;> rfl

theorem reports_answer (rejector : Rejector) (surroundings : Surroundings)
    (captured : Diversion.Address) (packet : Packet) (reply : Reply) :
    (rejector.answer surroundings captured packet reply).2.filterMap Effect.report? = [] := by
  rw [Rejector.answer]
  split
  · rfl
  · split
    · rfl
    · cases surroundings.sendFailure <;> rfl

/-- A packet is reported once if it has a network header, by a line that shows its headers. -/
theorem Rejector.reports_handle (rejector : Rejector) (surroundings : Surroundings)
    (capture : Diversion.Capture) :
    (rejector.handle surroundings capture).reports =
      if (Packet.parse capture.data).hasNetworkHeader then
        [(Packet.parse capture.data).reportLine]
      else [] := by
  rw [handle]
  split_ifs
  · cases (Packet.parse capture.data).reply? with
    | none => rw [Turn.reports, reporting_eq, reports_reportEffects]
    | some reply =>
      rw [Turn.reports, List.filterMap_append, reporting_eq, reports_reportEffects,
        reports_answer, List.append_nil]
  · rfl

/-! ### Replies -/

/-- The octets of a packet enter the patch of its reply as those that are quoted only. -/
theorem Packet.patch_raw_cases {raw : Bytes} {first second : Patch}
    (hfirst : packet.patch captured reply = .ok first)
    (hsecond : ({ packet with raw } : Packet).patch captured reply = .ok second) :
    first = second ∨
      (∃ ip, reply = .icmpUnreachable ∧ packet.ipv4 = some ip ∧
        first = .icmpUnreachable captured ip packet.raw ∧
        second = .icmpUnreachable captured ip raw) ∨
      ∃ ip, reply = .icmpv6Unreachable ∧ packet.ipv6 = some ip ∧
        first = .icmpv6Unreachable captured ip packet.raw ∧
        second = .icmpv6Unreachable captured ip raw := by
  cases reply with
  | tcpReset | tcpResetV6 => exact Or.inl (Except.ok.inj (hfirst.symm.trans hsecond))
  | icmpUnreachable =>
    cases hip : packet.ipv4 with
    | none => simp [patch, hip] at hfirst
    | some ip =>
      simp only [patch, hip] at hfirst hsecond
      cases hfirst
      cases hsecond
      exact Or.inr (Or.inl ⟨ip, rfl, rfl, rfl, rfl⟩)
  | icmpv6Unreachable =>
    cases hip : packet.ipv6 with
    | none => simp [patch, hip] at hfirst
    | some ip =>
      simp only [patch, hip] at hfirst hsecond
      cases hfirst
      cases hsecond
      exact Or.inr (Or.inr ⟨ip, rfl, rfl, rfl, rfl⟩)

/-- The end of a whole packet is the one that its network header announces. -/
theorem IsWhole.length_eq {packet : Bytes} (hwhole : IsWhole packet) :
    (Ipv4.Header.Starts packet → packet.length = (wordAt packet 2).toNat) ∧
      (Ipv6.Header.Starts packet → packet.length = 40 + (wordAt packet 4).toNat) := by
  rcases hwhole with ⟨hversion, hlength⟩ | ⟨hversion, hlength⟩
  · exact ⟨fun _ ↦ hlength, fun hstarts ↦ absurd (hversion.symm.trans hstarts.2) (by decide)⟩
  · exact ⟨fun hstarts ↦ absurd (hversion.symm.trans hstarts.2.1) (by decide), fun _ ↦ hlength⟩

/-- A padded packet has the reply of the bare one. -/
theorem Patch.forged_of_isWhole {packet padding : Bytes} (hwhole : IsWhole packet)
    {first second : Patch} (hfirst : (Packet.parse packet).patch captured reply = .ok first)
    (hsecond : (Packet.parse (packet ++ padding)).patch captured reply = .ok second) :
    first.returnAddress = second.returnAddress ∧ first.forged = second.forged := by
  rw [Packet.parse_append_of_isWhole hwhole] at hsecond
  rcases Packet.patch_raw_cases hfirst hsecond with
    rfl | ⟨ip, rfl, hip, rfl, rfl⟩ | ⟨ip, rfl, hip, rfl, rfl⟩
  · exact ⟨rfl, rfl⟩
  · rw [Packet.ipv4_parse] at hip
    split_ifs at hip with hstarts
    cases hip
    have hannounced : (Ipv4.Header.read packet).totalLength.toNat ≤ packet.length :=
      (hwhole.length_eq.1 hstarts).ge
    refine ⟨rfl, forged_icmpUnreachable_congr captured ?_⟩
    rw [quotation, quotation, quotedOctets, quotedOctets, Packet.raw_parse,
      List.take_append_of_le_length ((Nat.min_le_right _ _).trans hannounced)]
  · rw [Packet.ipv6_parse] at hip
    split_ifs at hip with hstarts
    cases hip
    have hannounced : (Ipv6.Header.read packet).announcedLength ≤ packet.length :=
      (hwhole.length_eq.2 hstarts).ge
    refine ⟨rfl, forged_icmpv6Unreachable_congr captured ?_⟩
    rw [quotation, quotation, quotedOctetsV6, quotedOctetsV6, Packet.raw_parse,
      List.take_append_of_le_length hannounced]

/-- The quotes of packets that agree up to some octet can differ in those octets behind it that were
captured and announced. -/
theorem Patch.agreeExcept_quotation_of_take (ip : Ipv6.Header) {one other : Bytes} {stop : ℕ}
    (hlength : one.length = other.length) (hagree : one.take stop = other.take stop) :
    AgreeExcept (Set.Ico stop (min quoteLengthV6 (min one.length ip.announcedLength)))
      (icmpv6Unreachable captured ip one).quotation
      (icmpv6Unreachable captured ip other).quotation := by
  refine agreeExcept_fit fun index hindex hquoted ↦ ?_
  rw [quotedOctetsV6, quotedOctetsV6]
  by_cases hcaptured : index < min one.length ip.announcedLength
  · have hfront : index < stop := by
      simp only [Set.mem_Ico, not_and, not_lt] at hindex
      omega
    rw [octetAt_take (by omega), octetAt_take (by omega), ← octetAt_take hfront, hagree,
      octetAt_take hfront]
  · rw [octetAt_of_length_le (by rw [List.length_take]; omega),
      octetAt_of_length_le (by rw [List.length_take]; omega)]

/-- What an unreachable message over IPv4 quotes of a packet ends with its transport header. -/
theorem Patch.quotation_of_headerEnds {ip : Ipv4.Header} {one other : Bytes} {stop : ℕ}
    (hends : HeaderEnds one stop) (hagree : one.take stop = other.take stop)
    (hudp : (Packet.parse one).udp.isSome) (hip : (Packet.parse one).ipv4 = some ip) :
    (icmpUnreachable captured ip one).quotation =
      (icmpUnreachable captured ip other).quotation := by
  have hheaders := Packet.headers_parse_append hends.take.hasTransportHeader (one.drop stop)
  rw [List.take_append_drop] at hheaders
  rw [hheaders] at hudp hip
  have hquoted := Packet.quoted_le_of_udp hudp hip
  have hone := quotation_icmpUnreachable_append captured (one.drop stop) hquoted
  rw [hagree] at hquoted
  have hother := quotation_icmpUnreachable_append captured (other.drop stop) hquoted
  rw [List.take_append_drop] at hone hother
  rw [← hone, ← hother, hagree]

/-- Packets that agree up to the end of a transport header have the same reply, unless it is an
unreachable message over IPv6, which quotes the octets behind that end. -/
theorem Patch.forged_of_headerEnds {one other : Bytes} {stop : ℕ} (hends : HeaderEnds one stop)
    (hlength : one.length = other.length) (hagree : one.take stop = other.take stop)
    (hcall : (Packet.parse one).CallFor reply) {first second : Patch}
    (hfirst : (Packet.parse one).patch captured reply = .ok first)
    (hsecond : (Packet.parse other).patch captured reply = .ok second) :
    first.returnAddress = second.returnAddress ∧
      if reply = .icmpv6Unreachable then
        AgreeExcept (Set.Ico 42 44 ∪ Set.Ico (48 + stop)
          (48 + min 60 (min one.length (40 + (wordAt one 4).toNat)))) first.forged second.forged
      else first.forged = second.forged := by
  rw [hends.parse_eq hlength hagree] at hsecond
  rcases Packet.patch_raw_cases hfirst hsecond with
    rfl | ⟨ip, rfl, hip, rfl, rfl⟩ | ⟨ip, rfl, hip, rfl, rfl⟩
  · refine ⟨rfl, ?_⟩
    split_ifs
    · exact .refl _ _
    · rfl
  · refine ⟨rfl, ?_⟩
    rw [if_neg (by decide), Packet.raw_parse]
    exact forged_icmpUnreachable_congr captured
      (quotation_of_headerEnds hends hagree hcall.1 hip)
  · refine ⟨rfl, ?_⟩
    rw [Packet.ipv6_parse] at hip
    split_ifs at hip with hstarts
    cases hip
    rw [if_pos rfl, Packet.raw_parse]
    refine (agreeExcept_forged_icmpv6Unreachable captured
      (agreeExcept_quotation_of_take (.read one) hlength hagree)).mono
      (Set.union_subset_union_right _ ?_)
    rintro _ ⟨index, hindex, rfl⟩
    have hlength : quoteLengthV6 = 60 := rfl
    have hannounced : (Ipv6.Header.read one).announcedLength = 40 + (wordAt one 4).toNat := rfl
    rw [hlength, hannounced] at hindex
    exact ⟨Nat.add_le_add_left hindex.1 48, Nat.add_lt_add_left hindex.2 48⟩

namespace Rejector

/-- What becomes of two packets that are parsed alike. -/
theorem handle_of_parse_eq {first second : Rejector} (hfirst : Reachable first)
    (hsecond : Reachable second) (surroundings others : Surroundings)
    (captured : Diversion.Address) {one other : Bytes}
    (hparse : Packet.parse other = { Packet.parse one with raw := other }) :
    let ofOne := first.handle surroundings ⟨one, captured⟩
    let ofOther := second.handle others ⟨other, captured⟩
    ofOne.verdict = ofOther.verdict ∧ ofOne.reports = ofOther.reports ∧
      (((∀ reply, ofOne.verdict ≠ some (.rejected reply)) ∧
          ofOne.sends = [] ∧ ofOther.sends = []) ∨
        ∃ reply patch patch', (Packet.parse one).CallFor reply ∧
          ofOne.verdict = some (.rejected reply) ∧
          (Packet.parse one).patch captured reply = .ok patch ∧
          (Packet.parse other).patch captured reply = .ok patch' ∧
          ofOne.sends = [(patch.returnAddress, patch.forged)] ∧
          ofOther.sends = [(patch'.returnAddress, patch'.forged)]) := by
  intro ofOne ofOther
  have hone := course_handle hfirst surroundings ⟨one, captured⟩
  have hother := course_handle hsecond others ⟨other, captured⟩
  refine ⟨?_, ?_, ?_⟩
  · rw [verdict_handle, verdict_handle, hparse]
    rfl
  · rw [reports_handle, reports_handle, hparse]
  · cases hreply : (Packet.parse one).reply? with
    | none =>
      have hreply' : (Packet.parse other).reply? = none := by
        rw [hparse]
        exact hreply
      refine Or.inl ⟨fun reply hverdict ↦ ?_, sends_handle_of_none hfirst surroundings hreply,
        sends_handle_of_none hsecond others hreply'⟩
      have hcall := (hone.verdict_eq_rejected_iff reply).mp hverdict
      cases hreply.symm.trans (Packet.reply?_of_callFor hcall)
    | some reply =>
      have hcall := Packet.reply?_eq_some_iff.mp hreply
      have hcall' : (Packet.parse other).CallFor reply := by
        rw [hparse]
        exact hcall
      obtain ⟨patch, hpatch, hverdict, hsends⟩ :=
        exists_patch_of_callFor hfirst surroundings ⟨one, captured⟩ hcall
      obtain ⟨patch', hpatch', -, hsends'⟩ :=
        exists_patch_of_callFor hsecond others ⟨other, captured⟩ hcall'
      exact Or.inr ⟨reply, patch, patch', hcall, hverdict, hpatch, hpatch', hsends, hsends'⟩

/-- Octets that are not headers do not influence the reaction to a packet, in whatever reachable
states it is met and whatever fails there.

Padding behind a packet of just the announced length changes neither the verdict nor the report nor
what is sent. Neither do the octets behind the end of a transport header, with one exception: an
unreachable message over IPv6 may differ in its checksum and in the payload that it quotes. -/
theorem handle_ignores_payload {first second : Rejector} (hfirst : Reachable first)
    (hsecond : Reachable second) (surroundings others : Surroundings)
    (captured : Diversion.Address) :
    (∀ packet padding, IsWhole packet →
      let ofPadded := first.handle surroundings ⟨packet ++ padding, captured⟩
      let ofBare := second.handle others ⟨packet, captured⟩
      ofPadded.verdict = ofBare.verdict ∧ ofPadded.reports = ofBare.reports ∧
        ofPadded.sends = ofBare.sends) ∧
    ∀ one other stop, one.length = other.length → HeaderEnds one stop →
      one.take stop = other.take stop →
      let ofOne := first.handle surroundings ⟨one, captured⟩
      let ofOther := second.handle others ⟨other, captured⟩
      ofOne.verdict = ofOther.verdict ∧ ofOne.reports = ofOther.reports ∧
        if ofOne.verdict = some (.rejected .icmpv6Unreachable) then
          ∃ address toOne toOther,
            ofOne.sends = [(address, toOne)] ∧ ofOther.sends = [(address, toOther)] ∧
            AgreeExcept (Set.Ico 42 44 ∪ Set.Ico (48 + stop)
              (48 + min 60 (min one.length (40 + (wordAt one 4).toNat)))) toOne toOther
        else ofOne.sends = ofOther.sends := by
  constructor
  · intro packet padding hwhole ofPadded ofBare
    have hparse := Packet.parse_append_of_isWhole hwhole padding
    obtain ⟨hverdict, hreports, hsends⟩ :=
      handle_of_parse_eq hsecond hfirst others surroundings captured hparse
    refine ⟨hverdict.symm, hreports.symm, ?_⟩
    rcases hsends with ⟨-, hbare, hpadded⟩ |
      ⟨reply, patch, patch', hcall, -, hpatch, hpatch', hbare, hpadded⟩
    · exact hpadded.trans hbare.symm
    · obtain ⟨haddress, hforged⟩ := Patch.forged_of_isWhole hwhole hpatch hpatch'
      rw [hpadded, hbare, haddress, hforged]
  · intro one other stop hlength hends hagree ofOne ofOther
    obtain ⟨hverdict, hreports, hsends⟩ := handle_of_parse_eq hfirst hsecond surroundings others
      captured (hends.parse_eq hlength hagree)
    refine ⟨hverdict, hreports, ?_⟩
    rcases hsends with ⟨hunanswered, hone, hother⟩ |
      ⟨reply, patch, patch', hcall, hrejected, hpatch, hpatch', hone, hother⟩
    · rw [if_neg (hunanswered _), hone, hother]
    · obtain ⟨haddress, hforged⟩ :=
        Patch.forged_of_headerEnds hends hlength hagree hcall hpatch hpatch'
      rw [haddress] at hone
      split_ifs with hreply
      · rw [hrejected] at hreply
        cases hreply
        exact ⟨_, _, _, hone, hother, hforged⟩
      · have hkind : reply ≠ .icmpv6Unreachable := by
          rintro rfl
          exact hreply hrejected
        rw [if_neg hkind] at hforged
        rw [hone, hother, hforged]

def segmentWithPayload (payload : Bytes) : Bytes :=
  [0x45, 0, 0, 42, 0, 0, 0, 0, 64, 6, 0, 0, 10, 0, 0, 1, 10, 0, 0, 2] ++
    [0x30, 0x39, 0, 80, 0, 0, 0, 1, 0, 0, 0, 7, 0x50, 0x18, 32, 0, 0, 0, 0, 0] ++ payload

theorem handle_ignores_payload_of_segment :
    Reachable (initial 65535) ∧ IsWhole (segmentWithPayload [0x61, 0x61]) ∧
      HeaderEnds (segmentWithPayload [0x61, 0x61]) 40 ∧
      ((initial 65535).handle {} ⟨segmentWithPayload [0x61, 0x61], ⟨1, 2, .inbound⟩⟩).verdict =
        some (.rejected .tcpReset) ∧
      ((initial 65535).handle {} ⟨segmentWithPayload [0x61, 0x61] ++ blank 6,
          ⟨1, 2, .inbound⟩⟩).sends =
        ((initial 65535).handle {} ⟨segmentWithPayload [0x61, 0x61], ⟨1, 2, .inbound⟩⟩).sends ∧
      ((initial 65535).handle {} ⟨segmentWithPayload [0x61, 0x61], ⟨1, 2, .inbound⟩⟩).sends =
        ((initial 65535).handle {} ⟨segmentWithPayload [0x62, 0x63], ⟨1, 2, .inbound⟩⟩).sends := by
  have hwhole : IsWhole (segmentWithPayload [0x61, 0x61]) := Or.inl (by decide)
  have hends : HeaderEnds (segmentWithPayload [0x61, 0x61]) 40 :=
    .tcp (.ipv4 (by decide) (by decide) (by decide)) (by decide)
  have hverdict : ((initial 65535).handle {}
      ⟨segmentWithPayload [0x61, 0x61], ⟨1, 2, .inbound⟩⟩).verdict =
        some (.rejected .tcpReset) := by
    rw [verdict_handle]
    rfl
  obtain ⟨hpadding, hpayload⟩ := handle_ignores_payload (.initial 65535) (.initial 65535) {} {}
    ⟨1, 2, .inbound⟩
  obtain ⟨-, -, hpadded⟩ := hpadding _ (blank 6) hwhole
  obtain ⟨-, -, hchanged⟩ := hpayload (segmentWithPayload [0x61, 0x61])
    (segmentWithPayload [0x62, 0x63]) 40 rfl hends rfl
  rw [if_neg (by rw [hverdict]; decide)] at hchanged
  exact ⟨.initial 65535, hwhole, hends, hverdict, hpadded, hchanged⟩

end Rejector

end PacketRefusal
