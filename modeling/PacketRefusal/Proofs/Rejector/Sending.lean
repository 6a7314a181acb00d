import PacketRefusal.Proofs.Packet.Parsing
import PacketRefusal.Proofs.Rejector.Independence

/-!
# What is sent, and for which packets

A packet is refused in one of four cases, which `Refusal` states about its octets, together with the
patch that the reply is made by. `exists_refusal` says that each packet with a reply is in one of
them, so that its patch is never missing a header. The conclusion for a rejector in any reachable
state is that it sends the forged reply of the patch and nothing else (`Rejector.handle_of_patch`),
and nothing at all if there is no reply (`Rejector.sends_handle_of_none`).
-/

set_option autoImplicit false
set_option relaxedAutoImplicit false

namespace PacketRefusal

open Bytes

/-- A packet that is refused, and the patch of its reply. -/
inductive Refusal (raw : Bytes) (captured : Diversion.Address) : Patch → Prop
  | tcpReset (hstarts : Ipv4.Header.Starts raw) (hoffset : (wordAt raw 6).toNat % 8192 = 0)
      (hprotocol : octetAt raw 9 = Tcp.protocol)
      (htransport : Tcp.Header.Starts (Ipv4.Header.behind raw)) :
    Refusal raw captured
      (.tcpReset captured (.read raw) (.read (Ipv4.Header.behind raw))
        ((Ipv4.Header.behind raw).length - Tcp.Header.announcedLength (Ipv4.Header.behind raw)))
  | tcpResetV6 {segment : Bytes} (hstarts : Ipv6.Header.Starts raw)
      (hupper : Ipv6.upperLayer (octetAt raw 6) (Ipv6.Header.behind raw) =
        some (Tcp.protocol, segment))
      (htransport : Tcp.Header.Starts segment) :
    Refusal raw captured
      (.tcpResetV6 captured (.read raw) (.read segment)
        (segment.length - Tcp.Header.announcedLength segment))
  | icmpUnreachable (hstarts : Ipv4.Header.Starts raw)
      (hoffset : (wordAt raw 6).toNat % 8192 = 0) (hprotocol : octetAt raw 9 = Udp.protocol)
      (htransport : Udp.Header.Starts (Ipv4.Header.behind raw)) :
    Refusal raw captured (.icmpUnreachable captured (.read raw) raw)
  | icmpv6Unreachable {datagram : Bytes} (hstarts : Ipv6.Header.Starts raw)
      (hupper : Ipv6.upperLayer (octetAt raw 6) (Ipv6.Header.behind raw) =
        some (Udp.protocol, datagram))
      (htransport : Udp.Header.Starts datagram) :
    Refusal raw captured (.icmpv6Unreachable captured (.read raw) raw)

namespace Packet

variable {raw : Bytes}

/-- A packet with a TCP header has the patch of a reset. -/
theorem exists_refusal_of_tcp {tcp : Tcp.Header} (htcp : (parse raw).tcp = some tcp)
    (captured : Diversion.Address) :
    (parse raw).hasNetworkHeader ∧ ∃ reply patch, (parse raw).reply? = some reply ∧
      (parse raw).patch captured reply = .ok patch ∧ Refusal raw captured patch := by
  obtain ⟨network, segment, hupper, hstarts, rfl, hparse⟩ := exists_upper_of_tcp htcp
  rw [hparse]
  generalize hprotocol : Tcp.protocol = protocol at hupper
  cases hupper with
  | ipv4 hipv4 hoffset =>
    exact ⟨rfl, .tcpReset, _, rfl, rfl, .tcpReset hipv4 hoffset hprotocol.symm hstarts⟩
  | ipv6 hipv6 hupper =>
    exact ⟨rfl, .tcpResetV6, _, rfl, rfl, .tcpResetV6 hipv6 (hprotocol ▸ hupper) hstarts⟩

/-- A packet with a UDP header has the patch of an unreachable message. -/
theorem exists_refusal_of_udp {udp : Udp.Header} (hudp : (parse raw).udp = some udp)
    (captured : Diversion.Address) :
    (parse raw).hasNetworkHeader ∧ ∃ reply patch, (parse raw).reply? = some reply ∧
      (parse raw).patch captured reply = .ok patch ∧ Refusal raw captured patch := by
  obtain ⟨network, datagram, hupper, hstarts, rfl, hparse⟩ := exists_upper_of_udp hudp
  rw [hparse]
  generalize hprotocol : Udp.protocol = protocol at hupper
  cases hupper with
  | ipv4 hipv4 hoffset =>
    exact ⟨rfl, .icmpUnreachable, _, rfl, rfl,
      .icmpUnreachable hipv4 hoffset hprotocol.symm hstarts⟩
  | ipv6 hipv6 hupper =>
    exact ⟨rfl, .icmpv6Unreachable, _, rfl, rfl,
      .icmpv6Unreachable hipv6 (hprotocol ▸ hupper) hstarts⟩

/-- A packet with a reply is refused, and its patch misses no header. -/
theorem exists_refusal {reply : Reply} (hreply : (parse raw).reply? = some reply)
    (captured : Diversion.Address) :
    (parse raw).hasNetworkHeader ∧ ∃ patch,
      (parse raw).patch captured reply = .ok patch ∧ Refusal raw captured patch := by
  have hcases : (parse raw).hasNetworkHeader ∧ ∃ other patch, (parse raw).reply? = some other ∧
      (parse raw).patch captured other = .ok patch ∧ Refusal raw captured patch := by
    cases htcp : (parse raw).tcp with
    | some tcp => exact exists_refusal_of_tcp htcp captured
    | none =>
      cases hudp : (parse raw).udp with
      | some udp => exact exists_refusal_of_udp hudp captured
      | none => simp [reply?, htcp, hudp] at hreply
  obtain ⟨hnetwork, other, patch, hother, hpatch, hrefusal⟩ := hcases
  obtain rfl : other = reply := Option.some.inj (hother.symm.trans hreply)
  exact ⟨hnetwork, patch, hpatch, hrefusal⟩

end Packet

namespace Rejector

variable {rejector : Rejector}

theorem sends_reporting (surroundings : Surroundings) (packet : Packet) :
    (reporting surroundings packet).filterMap Effect.send? = [] := by
  rw [reporting]
  cases surroundings.reportFailure <;> rfl

theorem sends_answerEffects {packet : Packet} {captured : Diversion.Address} {reply : Reply}
    {patch : Patch} (hpatch : packet.patch captured reply = .ok patch)
    (surroundings : Surroundings) :
    (answerEffects surroundings captured packet reply).filterMap Effect.send? =
      [(patch.returnAddress, patch.forged)] := by
  rw [answerEffects, hpatch]
  cases hfailure : surroundings.sendFailure <;>
    simp [sendingOutcome, unsent, Effect.warning, Effect.send?]

/-- A packet with a reply is answered by the forged reply of its patch. -/
theorem handle_of_patch (hreachable : Reachable rejector) (surroundings : Surroundings)
    {capture : Diversion.Capture} {reply : Reply} {patch : Patch}
    (hnetwork : (Packet.parse capture.data).hasNetworkHeader)
    (hreply : (Packet.parse capture.data).reply? = some reply)
    (hpatch : (Packet.parse capture.data).patch capture.address reply = .ok patch) :
    (rejector.handle surroundings capture).verdict = some (.rejected reply) ∧
      (rejector.handle surroundings capture).sends = [(patch.returnAddress, patch.forged)] := by
  have houtcome := outcome_handle hreachable.intact surroundings capture
  rw [handleOutcome] at houtcome
  simp only [if_pos hnetwork, hreply] at houtcome
  have heffects : (rejector.handle surroundings capture).effects = _ := congrArg Prod.snd houtcome
  refine ⟨congrArg Prod.fst houtcome, ?_⟩
  rw [Turn.sends, heffects, List.filterMap_append, sends_reporting, List.nil_append,
    sends_answerEffects hpatch]

/-- A packet without a reply is not answered. -/
theorem sends_handle_of_none (hreachable : Reachable rejector) (surroundings : Surroundings)
    {capture : Diversion.Capture} (hreply : (Packet.parse capture.data).reply? = none) :
    (rejector.handle surroundings capture).sends = [] := by
  have houtcome := outcome_handle hreachable.intact surroundings capture
  rw [handleOutcome] at houtcome
  simp only [hreply] at houtcome
  have heffects : (rejector.handle surroundings capture).effects = _ := congrArg Prod.snd houtcome
  rw [Turn.sends, heffects]
  split_ifs
  · exact sends_reporting surroundings _
  · rfl

/-- Whatever is sent is the forged reply of a refused packet. -/
theorem exists_refusal_of_mem_sends (hreachable : Reachable rejector)
    {surroundings : Surroundings} {capture : Diversion.Capture} {address : Diversion.Address}
    {packet : Bytes} (hsent : (address, packet) ∈ (rejector.handle surroundings capture).sends) :
    ∃ patch, Refusal capture.data capture.address patch ∧
      (rejector.handle surroundings capture).verdict = some (.rejected patch.reply) ∧
      address = patch.returnAddress ∧ packet = patch.forged := by
  cases hreply : (Packet.parse capture.data).reply? with
  | none =>
    rw [sends_handle_of_none hreachable surroundings hreply] at hsent
    cases hsent
  | some reply =>
    obtain ⟨hnetwork, patch, hpatch, hrefusal⟩ := Packet.exists_refusal hreply capture.address
    obtain ⟨hverdict, hsends⟩ := handle_of_patch hreachable surroundings hnetwork hreply hpatch
    rw [hsends, List.mem_singleton, Prod.mk.injEq] at hsent
    rw [← Packet.reply_of_patch hpatch] at hverdict
    exact ⟨patch, hrefusal, hverdict, hsent⟩

end Rejector

end PacketRefusal
