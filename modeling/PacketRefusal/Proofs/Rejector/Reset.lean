import PacketRefusal.Proofs.Packet.Carriage
import PacketRefusal.Proofs.Rejector.Sending
import PacketRefusal.Proofs.Reply.Reading

/-!
# Resets end to end

A reset is believed only if its numbers fit the segment that it refuses. `Carries` finds that
segment in the captured octets. The number of payload octets, which the acknowledgment counts,
follows from its bounds there and from the data offset (`Tcp.Header.payload_eq`).

`Rejector.sends_handle_of_tcp` puts the ends together: the refused packet is parsed, the reset is
forged, and what its receiver parses is the reset that the segment calls for
(`Patch.parse_forged_tcpReset`, `Patch.parse_forged_tcpResetV6`).
-/

set_option autoImplicit false
set_option relaxedAutoImplicit false

namespace PacketRefusal

open Bytes

/-- How many sequence numbers a segment occupies that a packet carries: one if it opens a
connection, and otherwise as many as it has octets of payload. -/
def occupiedNumbers (raw : Bytes) (start stop : ℕ) : ℕ :=
  if (Tcp.Header.read ((raw.take stop).drop start)).flags.synchronize then 1
  else min raw.length stop - start - 4 * highNibble (octetAt raw (start + 12))

/-- The TCP header that the reset of a segment is expected to have, if the segment occupies some
sequence numbers. -/
def Tcp.Header.expectedReset (tcp : Tcp.Header) (occupied : ℕ) : Tcp.Header where
  sourcePort := tcp.destinationPort
  destinationPort := tcp.sourcePort
  sequenceNumber := if tcp.flags.acknowledgment then tcp.acknowledgmentNumber else 0
  acknowledgmentNumber := tcp.sequenceNumber + .ofNat occupied
  flags := resetFlags

/-- What parsing the reset of a packet is expected to find: a network header of the same version
with the addresses exchanged, and a TCP header without options or payload behind it. -/
def Packet.expectedReset (packet : Packet) (tcp : Tcp.Header) (raw : Bytes) : Packet where
  raw := raw
  ipv4 := packet.ipv4.map fun ip ↦
    { headerWords := 5
      totalLength := 40
      fragmentOffset := 0
      protocol := Tcp.protocol
      source := ip.destination
      destination := ip.source }
  ipv6 := packet.ipv6.map fun ip ↦
    { payloadLength := 20
      nextHeader := Tcp.protocol
      source := ip.destination
      destination := ip.source }
  icmp := none
  icmpv6 := none
  tcp := some tcp
  udp := none
  payloadLength := 0

theorem Tcp.Header.reset_eq (tcp : Tcp.Header) (payloadLength : ℕ) :
    tcp.reset payloadLength =
      tcp.expectedReset (if tcp.flags.synchronize then 1 else payloadLength) := by
  rw [reset, resetNumbers, expectedReset]
  cases tcp.flags.synchronize <;> rfl

/-- The reset of a packet is made of the headers that were parsed, and parsing it gives them back
exchanged. -/
theorem Packet.Upper.exists_reset {raw data : Bytes} {network packet : Packet}
    {protocol : UInt8} (hupper : Upper raw network protocol data) {tcp : Tcp.Header}
    {payloadLength : ℕ} (hpacket : packet = { network with tcp := some tcp, payloadLength })
    (captured : Diversion.Address) :
    ∃ reply patch, packet.hasNetworkHeader ∧ packet.reply? = some reply ∧
      packet.patch captured reply = .ok patch ∧ patch.returnAddress = captured.reversed ∧
      parse patch.forged =
        { raw := patch.forged
          ipv4 := packet.ipv4.map (·.answer Tcp.protocol resetLength)
          ipv6 := packet.ipv6.map (·.answer Tcp.protocol Tcp.minimumHeaderLength)
          tcp := some (tcp.reset payloadLength)
          payloadLength := 0 } := by
  subst hpacket
  cases hupper with
  | ipv4 =>
    exact ⟨.tcpReset, _, rfl, rfl, rfl, rfl,
      Patch.parse_forged_tcpReset captured (.read raw) tcp payloadLength⟩
  | ipv6 =>
    exact ⟨.tcpResetV6, _, rfl, rfl, rfl, rfl,
      Patch.parse_forged_tcpResetV6 captured (.read raw) tcp payloadLength⟩

namespace Rejector

variable {rejector : Rejector}

/-- A packet with a TCP header is answered by one reset, which goes back over the same interface in
the opposite direction. The packet carries a segment that the TCP header starts. Parsing the reset
gives a packet of the same version with addresses and ports exchanged, without options, fragments or
payload, whose numbers and control bits refuse that segment. -/
theorem sends_handle_of_tcp (hreachable : Reachable rejector) (surroundings : Surroundings)
    (capture : Diversion.Capture) (tcp : Tcp.Header)
    (htcp : (Packet.parse capture.data).tcp = some tcp) :
    ∃ start stop reset,
      Carries capture.data Tcp.protocol start stop ∧
      tcp = .read ((capture.data.take stop).drop start) ∧
      start + 4 * highNibble (octetAt capture.data (start + 12)) ≤
        min capture.data.length stop ∧
      (rejector.handle surroundings capture).sends =
        [(⟨capture.address.interface, capture.address.subInterface,
          capture.address.direction.reversed⟩, reset)] ∧
      Packet.parse reset = (Packet.parse capture.data).expectedReset
        (tcp.expectedReset (occupiedNumbers capture.data start stop)) reset := by
  obtain ⟨network, segment, hupper, hstarts, rfl, hparse⟩ := Packet.exists_upper_of_tcp htcp
  obtain ⟨start, stop, hcarries, hsegment⟩ := hupper.exists_carries (by decide)
  obtain ⟨hroom, hpayload⟩ := Tcp.Header.payload_eq hsegment hstarts
  obtain ⟨reply, patch, hnetwork, hreply, hpatch, haddress, hforged⟩ :=
    hupper.exists_reset hparse capture.address
  obtain ⟨-, hsends⟩ := handle_of_patch hreachable surroundings hnetwork hreply hpatch
  refine ⟨start, stop, patch.forged, hcarries, by rw [← hsegment], hroom, ?_, ?_⟩
  · rw [hsends, haddress]
    rfl
  · rw [hforged, Tcp.Header.reset_eq, hpayload, occupiedNumbers, ← hsegment]
    rfl

/-- A segment behind hop-by-hop options, whose two octets of payload cross the end of the sequence
space. -/
def segmentBehindOptions : Bytes :=
  [0x60, 0, 0, 0, 0, 30, 0, 64] ++ blank 15 ++ [1] ++ blank 15 ++ [2] ++ [6, 0, 1, 4, 0, 0, 0, 0] ++
    [0x30, 0x39, 0, 80, 0xFF, 0xFF, 0xFF, 0xFF, 0, 0, 0, 7, 0x50, 0x10, 32, 0, 0, 0, 0, 0] ++
    [0x61, 0x62]

theorem sends_handle_of_segmentBehindOptions :
    (Packet.parse segmentBehindOptions).tcp =
        some ⟨12345, 80, 0xFFFFFFFF, 7, ⟨false, true, false, false, false, false⟩⟩ ∧
      ∃ start stop reset,
        Carries segmentBehindOptions Tcp.protocol start stop ∧
        ((initial 65535).handle {} ⟨segmentBehindOptions, ⟨1, 2, .inbound⟩⟩).sends =
          [(⟨1, 2, .outbound⟩, reset)] ∧
        (Packet.parse reset).tcp =
          some (.expectedReset ⟨12345, 80, 0xFFFFFFFF, 7, ⟨false, true, false, false, false, false⟩⟩
            (occupiedNumbers segmentBehindOptions start stop)) := by
  have htcp : (Packet.parse segmentBehindOptions).tcp =
      some ⟨12345, 80, 0xFFFFFFFF, 7, ⟨false, true, false, false, false, false⟩⟩ := by
    cbv
  obtain ⟨start, stop, reset, hcarries, -, -, hsends, hparse⟩ :=
    sends_handle_of_tcp (.initial 65535) {} ⟨segmentBehindOptions, ⟨1, 2, .inbound⟩⟩ _ htcp
  exact ⟨htcp, start, stop, reset, hcarries, hsends, congrArg (·.tcp) hparse⟩

end Rejector

end PacketRefusal
