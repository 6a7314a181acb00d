import PacketRefusal.Proofs.Packet.Fragments
import PacketRefusal.Proofs.Rejector.Payload

/-!
# Fragments are reported, and only first ones are answered

A later fragment has octets of the application where a transport header would stand. Whatever they
look like, it is dropped (`Rejector.handle_laterFragment`), since parsing finds no transport header
in it. A first fragment is dealt with as if it had not been fragmented: its flags influence neither
the verdict nor the report, and no reset (`Rejector.handle_sameButFlags`). Only an unreachable
message, which quotes the packet, shows them. `Rejector.handle_of_fragment` says both.
-/

set_option autoImplicit false
set_option relaxedAutoImplicit false

namespace PacketRefusal.Rejector

open Bytes

/-- A later fragment is reported by its addresses, and neither answered nor remembered. -/
theorem handle_laterFragment {rejector : Rejector} (hreachable : Reachable rejector)
    (surroundings : Surroundings) (captured : Diversion.Address) {raw : Bytes} {line : String}
    {length : ℕ} (hfragment : LaterFragment raw line length) :
    let turn := rejector.handle surroundings ⟨raw, captured⟩
    turn.verdict = some .dropped ∧ turn.reports = [line] ∧ turn.sends = [] ∧
      turn.rejector = rejector := by
  intro turn
  obtain ⟨hnetwork, hbare, hline, -⟩ := hfragment.parsed
  have hcourse : Course rejector surroundings captured (Packet.parse raw) turn :=
    course_handle hreachable surroundings ⟨raw, captured⟩
  have hnone : (Packet.parse raw).tcp = none ∧ (Packet.parse raw).udp = none := by
    simp only [Headers.HasTransportHeader, not_or, Option.not_isSome_iff_eq_none] at hbare
    exact hbare.2.2
  have hverdict : turn.verdict = some .dropped :=
    hcourse.verdict_eq_dropped_iff.mpr ⟨(Packet.hasNetworkHeader_iff _).mp hnetwork, hnone⟩
  refine ⟨hverdict, ?_, ?_, (hcourse.of_dropped hverdict).1⟩
  · rw [reports_handle, if_pos hnetwork, hline]
  · exact sends_handle_of_none hreachable surroundings
      ((Packet.reply?_eq_none_iff _).mpr hnone)

/-- The flags of a fragmentation are seen in a quote at most. -/
theorem handle_sameButFlags {first second : Rejector} (hfirst : Reachable first)
    (hsecond : Reachable second) (surroundings others : Surroundings)
    (captured : Diversion.Address) {one other : Bytes} (hsame : SameButFlags one other) :
    let ofOne := first.handle surroundings ⟨one, captured⟩
    let ofOther := second.handle others ⟨other, captured⟩
    ofOne.verdict = ofOther.verdict ∧ ofOne.reports = ofOther.reports ∧
      (ofOne.verdict ≠ some (.rejected .icmpUnreachable) →
        ofOne.verdict ≠ some (.rejected .icmpv6Unreachable) → ofOne.sends = ofOther.sends) := by
  intro ofOne ofOther
  have hparse := hsame.parse_eq
  obtain ⟨hverdict, hreports, hsends⟩ :=
    handle_of_parse_eq hfirst hsecond surroundings others captured hparse
  refine ⟨hverdict, hreports, fun hquoted hquotedV6 ↦ ?_⟩
  rcases hsends with ⟨-, hone, hother⟩ |
    ⟨reply, patch, patch', hcall, hrejected, hpatch, hpatch', hone, hother⟩
  · exact hone.trans hother.symm
  · rw [hparse] at hpatch'
    rcases Packet.patch_raw_cases hpatch hpatch' with rfl | ⟨-, rfl, -⟩ | ⟨-, rfl, -⟩
    · exact hone.trans hother.symm
    · exact (hquoted hrejected).elim
    · exact (hquotedV6 hrejected).elim

/-- How fragments are dealt with, in whatever reachable states they are met and whatever fails
there.

A fragment other than the first has no transport header, whatever its octets look like. It is
dropped: its addresses are reported, nothing is sent, and the state stays as it is. For a first
fragment the flags do not matter: packets that differ in them only have the same headers and the
same payload length, and they get the same verdict, the same report, and the same reset if they are
reset. -/
theorem handle_of_fragment {first second : Rejector} (hfirst : Reachable first)
    (hsecond : Reachable second) (surroundings others : Surroundings)
    (captured : Diversion.Address) :
    (∀ raw line length, LaterFragment raw line length →
      ¬(Packet.parse raw).HasTransportHeader ∧ (Packet.parse raw).payloadLength = length ∧
        let turn := first.handle surroundings ⟨raw, captured⟩
        turn.verdict = some .dropped ∧ turn.reports = [line] ∧ turn.sends = [] ∧
          turn.rejector = first) ∧
    ∀ one other, SameButFlags one other →
      (Packet.parse one).toHeaders = (Packet.parse other).toHeaders ∧
        (Packet.parse one).payloadLength = (Packet.parse other).payloadLength ∧
        let ofOne := first.handle surroundings ⟨one, captured⟩
        let ofOther := second.handle others ⟨other, captured⟩
        ofOne.verdict = ofOther.verdict ∧ ofOne.reports = ofOther.reports ∧
          (ofOne.verdict ≠ some (.rejected .icmpUnreachable) →
            ofOne.verdict ≠ some (.rejected .icmpv6Unreachable) →
            ofOne.sends = ofOther.sends) := by
  constructor
  · intro raw line length hfragment
    obtain ⟨-, hbare, -, hpayload⟩ := hfragment.parsed
    exact ⟨hbare, hpayload, handle_laterFragment hfirst surroundings captured hfragment⟩
  · intro one other hsame
    rw [hsame.parse_eq]
    exact ⟨rfl, rfl, handle_sameButFlags hfirst hsecond surroundings others captured hsame⟩

def openingSegment : Bytes :=
  [0x30, 0x39, 0, 80, 0, 0, 0, 1, 0, 0, 0, 0, 0x50, 0x02, 32, 0, 0, 0, 0, 0]

/-- A later fragment over IPv4 that looks like a segment. -/
def disguisedFragment : Bytes :=
  [0x45, 0, 0, 40, 0, 0, 0x20, 1, 64, 6, 0, 0, 10, 0, 0, 1, 10, 0, 0, 2] ++ openingSegment

/-- A fragment that looks like a segment behind hop-by-hop options, with an octet of its fragment
header that holds the low bits of the offset and the flags. -/
def fragmentBehindOptions (flags : UInt8) : Bytes :=
  [0x60, 0, 0, 0, 0, 36, 0, 64] ++ blank 15 ++ [1] ++ blank 15 ++ [2] ++
    [44, 0, 1, 4, 0, 0, 0, 0] ++ [6, 0, 0, flags, 0, 0, 0, 7] ++ openingSegment

theorem handle_of_fragmentBehindOptions :
    Reachable (initial 65535) ∧
      LaterFragment disguisedFragment "ip.SrcAddr=10.0.0.1 ip.DstAddr=10.0.0.2" 20 ∧
      ((initial 65535).handle {} ⟨disguisedFragment, ⟨1, 2, .inbound⟩⟩).reports =
        ["ip.SrcAddr=10.0.0.1 ip.DstAddr=10.0.0.2"] ∧
      LaterFragment (fragmentBehindOptions 8) "ipv6.SrcAddr=::1 ipv6.DstAddr=::2" 20 ∧
      ((initial 65535).handle {} ⟨fragmentBehindOptions 8, ⟨1, 2, .inbound⟩⟩).sends = [] ∧
      SameButFlags (fragmentBehindOptions 0) (fragmentBehindOptions 1) ∧
      ((initial 65535).handle {} ⟨fragmentBehindOptions 0, ⟨1, 2, .inbound⟩⟩).verdict =
        some (.rejected .tcpResetV6) ∧
      ((initial 65535).handle {} ⟨fragmentBehindOptions 0, ⟨1, 2, .inbound⟩⟩).sends =
        ((initial 65535).handle {} ⟨fragmentBehindOptions 1, ⟨1, 2, .inbound⟩⟩).sends := by
  have hparse : Ipv4.Header.parse? disguisedFragment =
      some (.read disguisedFragment, Ipv4.Header.behind disguisedFragment) := rfl
  have hfragment : LaterFragment disguisedFragment
      "ip.SrcAddr=10.0.0.1 ip.DstAddr=10.0.0.2" 20 :=
    .ipv4 hparse (by decide)
  have hoptions : Ipv6.ExtensionHeader 0 [44, 0, 1, 4, 0, 0, 0, 0] :=
    .carried (by decide) (by decide)
  have hoffset : Ipv6.fragmentOffset [6, 0, 0, 8, 0, 0, 0, 7] ≠ 0 := by decide
  have hparseV6 : Ipv6.Header.parse? (fragmentBehindOptions 8) =
      some (.read (fragmentBehindOptions 8), ([44, 0, 1, 4, 0, 0, 0, 0] ++ []) ++
        ([6, 0, 0, 8, 0, 0, 0, 7] ++ openingSegment)) := rfl
  have hfragmentV6 : LaterFragment (fragmentBehindOptions 8)
      "ipv6.SrcAddr=::1 ipv6.DstAddr=::2" 20 :=
    .ipv6 hparseV6 (.cons hoptions (.done _)) rfl hoffset
  have hagree : AgreeExcept {1, 3} [6, 0, 0, 0, 0, 0, 0, 7] [6, 0, 0, 1, 0, 0, 0, 7] :=
    (agreeExcept_overwrite 3 [0] [6, 0, 0, 1, 0, 0, 0, 7]).mono fun index hindex ↦
      Or.inr (Nat.le_antisymm (Nat.le_of_lt_succ hindex.2) hindex.1)
  have hsame : SameButFlags (fragmentBehindOptions 0) (fragmentBehindOptions 1) :=
    .ipv6 (by decide) rfl (.carried hoptions (.fragment (.firstFragment rfl (by decide))
      (.firstFragment rfl (by decide)) hagree (.same _ _)))
  have hverdict : ((initial 65535).handle {}
      ⟨fragmentBehindOptions 0, ⟨1, 2, .inbound⟩⟩).verdict = some (.rejected .tcpResetV6) := by
    rw [verdict_handle]
    cbv
  obtain ⟨hlater, hflags⟩ := handle_of_fragment (.initial 65535) (.initial 65535) {} {}
    ⟨1, 2, .inbound⟩
  obtain ⟨-, -, -, hreports, -⟩ := hlater _ _ _ hfragment
  obtain ⟨-, -, -, -, hsends, -⟩ := hlater _ _ _ hfragmentV6
  obtain ⟨-, -, -, -, hresets⟩ := hflags _ _ hsame
  refine ⟨.initial 65535, hfragment, hreports, hfragmentV6, hsends, hsame, hverdict, ?_⟩
  exact hresets (by rw [hverdict]; decide) (by rw [hverdict]; decide)

end PacketRefusal.Rejector
