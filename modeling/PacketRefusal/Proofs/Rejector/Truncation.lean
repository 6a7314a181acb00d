import PacketRefusal.Proofs.Packet.Truncation
import PacketRefusal.Proofs.Rejector.Effects
import PacketRefusal.Proofs.Reply.Comparison

/-!
# A short receiving buffer keeps the reaction

A packet may be captured in part, cut anywhere: in its options, between its extension headers, in
its payload. `Rejector.handle_prefix` compares what becomes of the part with what would have become
of the whole. The verdict on the part is the milder one, in the order of `Verdict.severity`, and if
the part is answered, then the whole would have been answered in the same way. `Reply.SameButForCut`
says in which octets the two replies may differ: in the number of payload octets that a reset
acknowledges, in the octets that a quote lost, and in the checksum over them.

What is parsed is compared in `PacketRefusal.Proofs.Packet.Truncation`, the replies that are forged
in `PacketRefusal.Proofs.Reply.Comparison`.
-/

set_option autoImplicit false
set_option relaxedAutoImplicit false

namespace PacketRefusal

open Bytes

/-- How far a verdict goes: a packet is left alone, taken away, or answered as well. -/
def Verdict.severity : Verdict → ℕ
  | skipped => 0
  | dropped => 1
  | rejected _ => 2

/-- The replies of a kind to a part of a packet and to the whole of it are the same but for what the
cut took away. Resets differ in the acknowledgment number and the TCP checksum, and not at all if
the segment opens a connection. Messages over IPv4 do not differ. Messages over IPv6 differ in the
ICMPv6 checksum and in the octets of the quote that are missing in the part, which are zero in the
reply to it. -/
def Reply.SameButForCut (part toPart toWhole : Bytes) : Reply → Prop
  | tcpReset =>
    AgreeExcept (Set.Ico 28 32 ∪ Set.Ico 36 38) toPart toWhole ∧
      ∀ tcp ∈ (Packet.parse part).tcp, tcp.flags.synchronize → toPart = toWhole
  | tcpResetV6 =>
    AgreeExcept (Set.Ico 48 52 ∪ Set.Ico 56 58) toPart toWhole ∧
      ∀ tcp ∈ (Packet.parse part).tcp, tcp.flags.synchronize → toPart = toWhole
  | icmpUnreachable => toPart = toWhole
  | icmpv6Unreachable =>
    AgreeExcept (Set.Ico 42 44 ∪ Set.Ico (48 + part.length) 108) toPart toWhole ∧
      ∀ octet ∈ toPart.drop (48 + part.length), octet = 0

variable {raw part : Bytes} {reply : Reply}

/-! ### Quotes -/

/-- A datagram over IPv4 was captured as far as it is quoted. -/
theorem Packet.quoted_le_of_udp (hudp : (parse raw).udp.isSome) {ip : Ipv4.Header}
    (hip : (parse raw).ipv4 = some ip) : ip.length + 8 ≤ raw.length := by
  obtain ⟨udp, hudp⟩ := Option.isSome_iff_exists.mp hudp
  obtain ⟨network, datagram, hupper, hstarts, -, hparse⟩ := exists_upper_of_udp hudp
  rw [hparse] at hip
  generalize Udp.protocol = protocol at hupper
  cases hupper with
  | ipv4 hipv4 hoffset =>
    cases hip
    have hquoted : 4 * lowNibble (octetAt raw 0) + 8 ≤ min raw.length (wordAt raw 2).toNat :=
      Udp.Header.end_le hstarts
    rw [Ipv4.Header.length_read]
    exact hquoted.trans (Nat.min_le_left _ _)
  | ipv6 => cases hip

namespace Patch

variable (captured : Diversion.Address) (more : Bytes)

/-- The quote of a datagram over IPv4 lies within the part that was captured. -/
theorem quotation_icmpUnreachable_append {ip : Ipv4.Header}
    (hquoted : ip.length + 8 ≤ part.length) :
    (icmpUnreachable captured ip part).quotation =
      (icmpUnreachable captured ip (part ++ more)).quotation := by
  rw [quotation, quotation, quotedOctets, quotedOctets,
    List.take_append_of_le_length ((Nat.min_le_left _ _).trans hquoted)]

/-- The quotes of a datagram over IPv6 agree in the octets that were captured. -/
theorem agreeExcept_quotation_append (ip : Ipv6.Header) :
    AgreeExcept (Set.Ico part.length quoteLengthV6) (icmpv6Unreachable captured ip part).quotation
      (icmpv6Unreachable captured ip (part ++ more)).quotation := by
  refine agreeExcept_fit fun index hindex hquoted ↦ ?_
  have hcaptured : index < part.length := by
    simp only [Set.mem_Ico, not_and, not_lt] at hindex
    omega
  rw [quotedOctetsV6, quotedOctetsV6, List.take_append]
  by_cases hannounced : index < ip.announcedLength
  · rw [octetAt_append_left (by rw [List.length_take]; omega)]
  · have hnothing : ip.announcedLength - part.length = 0 := by omega
    rw [hnothing, List.take_zero, List.append_nil]

/-- Behind the part that was captured, a quote over IPv6 is filled in with zeros. -/
theorem eq_zero_of_mem_drop_quotation (ip : Ipv6.Header) :
    ∀ octet ∈ (icmpv6Unreachable captured ip part).quotation.drop part.length, octet = 0 := by
  intro octet hoctet
  obtain ⟨position, hposition, rfl⟩ := List.mem_iff_getElem.mp hoctet
  simp only [quotation, fit_eq_map, List.getElem_drop, List.getElem_map, List.getElem_range]
  refine octetAt_of_length_le ?_
  rw [quotedOctetsV6, List.length_take]
  omega

/-! ### Replies -/

/-- Patches of one kind that were made from a part of a packet and from the whole of it send their
replies to the same address, and the replies are the same but for what the cut took away. -/
theorem sameButForCut_forged (hcall : (Packet.parse part).CallFor reply)
    {first second : Patch} (hfirst : (Packet.parse part).patch captured reply = .ok first)
    (hsecond : (Packet.parse (part ++ more)).patch captured reply = .ok second) :
    first.returnAddress = second.returnAddress ∧
      reply.SameButForCut part first.forged second.forged := by
  have hwithin := Packet.within_parse_append part more
  cases reply with
  | tcpReset =>
    obtain ⟨tcp, htcp⟩ := Option.isSome_iff_exists.mp hcall.1
    obtain ⟨ip, hip⟩ := Option.isSome_iff_exists.mp hcall.2
    have hip' : (Packet.parse (part ++ more)).ipv4 = some ip := hwithin.ipv4 ip hip
    have htcp' : (Packet.parse (part ++ more)).tcp = some tcp := hwithin.tcp tcp htcp
    simp only [Packet.patch, hip, htcp] at hfirst
    simp only [Packet.patch, hip', htcp'] at hsecond
    cases hfirst
    cases hsecond
    refine ⟨rfl, agreeExcept_forged_tcpReset captured ip tcp _ _, ?_⟩
    rintro other hother hsynchronize
    cases htcp.symm.trans hother
    exact forged_tcpReset_of_synchronize captured ip hsynchronize _ _
  | tcpResetV6 =>
    obtain ⟨tcp, htcp⟩ := Option.isSome_iff_exists.mp hcall.1
    obtain ⟨ip, hip⟩ := Option.isSome_iff_exists.mp hcall.2
    have hip' : (Packet.parse (part ++ more)).ipv6 = some ip := hwithin.ipv6 ip hip
    have htcp' : (Packet.parse (part ++ more)).tcp = some tcp := hwithin.tcp tcp htcp
    simp only [Packet.patch, hip, htcp] at hfirst
    simp only [Packet.patch, hip', htcp'] at hsecond
    cases hfirst
    cases hsecond
    refine ⟨rfl, agreeExcept_forged_tcpResetV6 captured ip tcp _ _, ?_⟩
    rintro other hother hsynchronize
    cases htcp.symm.trans hother
    exact forged_tcpResetV6_of_synchronize captured ip hsynchronize _ _
  | icmpUnreachable =>
    obtain ⟨ip, hip⟩ := Option.isSome_iff_exists.mp hcall.2
    have hquoted := Packet.quoted_le_of_udp hcall.1 hip
    have hip' : (Packet.parse (part ++ more)).ipv4 = some ip := hwithin.ipv4 ip hip
    simp only [Packet.patch, hip, Packet.raw_parse] at hfirst
    simp only [Packet.patch, hip', Packet.raw_parse] at hsecond
    cases hfirst
    cases hsecond
    exact ⟨rfl, forged_icmpUnreachable_congr captured
      (quotation_icmpUnreachable_append captured more hquoted)⟩
  | icmpv6Unreachable =>
    obtain ⟨ip, hip⟩ := Option.isSome_iff_exists.mp hcall.2
    have hip' : (Packet.parse (part ++ more)).ipv6 = some ip := hwithin.ipv6 ip hip
    simp only [Packet.patch, hip, Packet.raw_parse] at hfirst
    simp only [Packet.patch, hip', Packet.raw_parse] at hsecond
    cases hfirst
    cases hsecond
    refine ⟨rfl, ?_, ?_⟩
    · refine (agreeExcept_forged_icmpv6Unreachable captured
        (agreeExcept_quotation_append captured more ip)).mono (Set.union_subset_union_right _ ?_)
      rintro _ ⟨index, ⟨hpart, hquoted⟩, rfl⟩
      have hlength : quoteLengthV6 = 60 := rfl
      exact ⟨by dsimp only; omega, by dsimp only; omega⟩
    · rw [← List.drop_drop, quote_forged_icmpv6Unreachable]
      exact eq_zero_of_mem_drop_quotation captured ip

end Patch

/-! ### Verdicts -/

theorem isSome_of_forall_mem {α : Type} {first second : Option α}
    (hsubset : ∀ header ∈ first, header ∈ second) (hsome : first.isSome) : second.isSome := by
  obtain ⟨header, hheader⟩ := Option.isSome_iff_exists.mp hsome
  exact Option.isSome_of_mem (hsubset header hheader)

/-- More headers call for the replies that fewer headers call for. -/
theorem Headers.Within.callFor {first second : Headers} (hwithin : first.Within second)
    (hcall : first.CallFor reply) : second.CallFor reply := by
  cases reply with
  | tcpReset =>
    exact hcall.imp (isSome_of_forall_mem hwithin.tcp) (isSome_of_forall_mem hwithin.ipv4)
  | tcpResetV6 =>
    exact hcall.imp (isSome_of_forall_mem hwithin.tcp) (isSome_of_forall_mem hwithin.ipv6)
  | icmpUnreachable =>
    exact hcall.imp (isSome_of_forall_mem hwithin.udp) (isSome_of_forall_mem hwithin.ipv4)
  | icmpv6Unreachable =>
    exact hcall.imp (isSome_of_forall_mem hwithin.udp) (isSome_of_forall_mem hwithin.ipv6)

theorem Verdict.severity_le_two (verdict : Verdict) : verdict.severity ≤ 2 := by
  cases verdict <;> simp [severity]

/-- The more headers a packet has, the further the verdict on it goes. -/
theorem Course.severity_le {rejector rejector' : Rejector} {surroundings others : Surroundings}
    {captured : Diversion.Address} {first second : Packet} {turn turn' : Turn}
    (hfirst : Course rejector surroundings captured first turn)
    (hsecond : Course rejector' others captured second turn')
    (hwithin : first.toHeaders.Within second.toHeaders) {milder further : Verdict}
    (hmilder : turn.verdict = some milder) (hfurther : turn'.verdict = some further) :
    milder.severity ≤ further.severity := by
  cases hsecond with
  | rejected =>
    cases hfurther
    exact milder.severity_le_two
  | dropped hnetwork htcp hudp =>
    cases hfurther
    cases hfirst with
    | skipped | dropped => cases hmilder; decide
    | @rejected reply patch templates hcall =>
      have hlater := hwithin.callFor hcall
      cases reply <;> simp [Headers.CallFor, htcp, hudp] at hlater
  | skipped hipv4 hipv6 =>
    cases hfurther
    cases hfirst with
    | skipped => cases hmilder; decide
    | dropped hnetwork =>
      have hlater := hnetwork.imp (isSome_of_forall_mem hwithin.ipv4)
        (isSome_of_forall_mem hwithin.ipv6)
      simp [hipv4, hipv6] at hlater
    | @rejected reply patch templates hcall =>
      have hlater := hwithin.callFor hcall
      cases reply <;> simp [Headers.CallFor, hipv4, hipv6] at hlater

namespace Rejector

/-- What becomes of a part of a packet, cut anywhere, compared with what becomes of the whole.

All headers found in the part are found in the whole, with the same fields, and there is no less
payload in the whole. The verdict on the part goes no further than the one on the whole. If the part
is answered, the whole is answered by a reply of the same kind, sent to the same address, and the
two replies are the same but for what the cut took away. This is so in whatever reachable states the
two packets are met, and whatever fails there. -/
theorem handle_prefix {first second : Rejector} (hfirst : Reachable first)
    (hsecond : Reachable second) (surroundings others : Surroundings)
    (captured : Diversion.Address) {part whole : Bytes} (hcut : part <+: whole) :
    let ofPart := first.handle surroundings ⟨part, captured⟩
    let ofWhole := second.handle others ⟨whole, captured⟩
    (Packet.parse part).Within (Packet.parse whole).toHeaders ∧
      (Packet.parse part).payloadLength ≤ (Packet.parse whole).payloadLength ∧
      (∃ milder further, ofPart.verdict = some milder ∧ ofWhole.verdict = some further ∧
        milder.severity ≤ further.severity) ∧
      ∀ reply, ofPart.verdict = some (.rejected reply) →
        ofWhole.verdict = some (.rejected reply) ∧
          ∃ address toPart toWhole, ofPart.sends = [(address, toPart)] ∧
            ofWhole.sends = [(address, toWhole)] ∧
            reply.SameButForCut part toPart toWhole := by
  obtain ⟨more, rfl⟩ := hcut
  intro ofPart ofWhole
  have hwithin := Packet.within_parse_append part more
  have hpart := course_handle hfirst surroundings ⟨part, captured⟩
  have hwhole := course_handle hsecond others ⟨part ++ more, captured⟩
  refine ⟨hwithin, Packet.payloadLength_parse_append part more, ?_, ?_⟩
  · obtain ⟨milder, hmilder⟩ := hpart.exists_verdict
    obtain ⟨further, hfurther⟩ := hwhole.exists_verdict
    exact ⟨milder, further, hmilder, hfurther,
      hpart.severity_le hwhole hwithin hmilder hfurther⟩
  · intro reply hverdict
    have hcall := (hpart.verdict_eq_rejected_iff reply).mp hverdict
    have hlater := hwithin.callFor hcall
    obtain ⟨patch, hpatch, -, hsends⟩ :=
      exists_patch_of_callFor hfirst surroundings ⟨part, captured⟩ hcall
    obtain ⟨patch', hpatch', hverdict', hsends'⟩ :=
      exists_patch_of_callFor hsecond others ⟨part ++ more, captured⟩ hlater
    obtain ⟨haddress, hsame⟩ := Patch.sameButForCut_forged captured more hcall hpatch hpatch'
    refine ⟨hverdict', patch.returnAddress, patch.forged, patch'.forged, hsends, ?_, hsame⟩
    rw [haddress]
    exact hsends'

/-- A datagram behind an IPv6 header, its payload longer than a quote. -/
def longDatagram : Bytes :=
  [0x60, 0, 0, 0, 0, 40, 17, 64] ++ blank 15 ++ [1] ++ blank 15 ++ [2] ++
    [0x30, 0x39, 0, 53, 0, 40, 0, 0] ++ List.replicate 32 0x61

theorem handle_take_longDatagram :
    Reachable (initial 64) ∧ longDatagram.take 52 <+: longDatagram ∧
      ((initial 64).handle {} ⟨longDatagram.take 52, ⟨1, 2, .inbound⟩⟩).verdict =
        some (.rejected .icmpv6Unreachable) ∧
      ∃ address toPart toWhole,
        ((initial 64).handle {} ⟨longDatagram.take 52, ⟨1, 2, .inbound⟩⟩).sends =
          [(address, toPart)] ∧
        ((initial 64).handle {} ⟨longDatagram, ⟨1, 2, .inbound⟩⟩).sends =
          [(address, toWhole)] ∧
        AgreeExcept (Set.Ico 42 44 ∪ Set.Ico 100 108) toPart toWhole ∧
        ∀ octet ∈ toPart.drop 100, octet = 0 := by
  have hcut : longDatagram.take 52 <+: longDatagram := List.take_prefix _ _
  obtain ⟨-, -, -, hanswered⟩ :=
    handle_prefix (.initial 64) (.initial 64) {} {} ⟨1, 2, .inbound⟩ hcut
  have hcall : (Packet.parse (longDatagram.take 52)).CallFor .icmpv6Unreachable := by cbv
  have hverdict := ((course_handle (.initial 64) {}
    ⟨longDatagram.take 52, ⟨1, 2, .inbound⟩⟩).verdict_eq_rejected_iff _).mpr hcall
  obtain ⟨-, address, toPart, toWhole, hpart, hwhole, hsame⟩ := hanswered _ hverdict
  exact ⟨.initial 64, hcut, hverdict, address, toPart, toWhole, hpart, hwhole, hsame⟩

end Rejector

end PacketRefusal
