import PacketRefusal.Proofs.Packet.Carriage
import PacketRefusal.Proofs.Reply.Forged

/-!
# What unreachable messages quote

The receiver of an unreachable message finds the socket that it is about in the quote. Over IPv4 a
quote may be cut by the capture, by the announced length, by the eight octets behind the header, and
by the room in the template (`Patch.quotation_icmpUnreachable`). For a datagram the third bound is
the least one: parsing has found a UDP header within the first two (`Udp.Header.end_le`), and no
header is longer than the room is made for (`Patch.quotation_of_udp`). Over IPv6 the quote has a
fixed length, and zeros take the place of octets that were not captured
(`Patch.quotation_icmpv6Unreachable`).

Read as a packet, a quote that reaches over the UDP header has the headers of the packet it is taken
from, by `HeaderEnds.headers_parse_take_append`. `Patch.parse_quotation_of_udp` and
`Patch.headers_parse_quotation` say so for the two versions.
-/

set_option autoImplicit false
set_option relaxedAutoImplicit false

namespace PacketRefusal

open Bytes

variable {raw : Bytes}

/-! ### Datagrams -/

/-- The payload of a datagram is behind its first eight octets. -/
theorem Packet.payloadLength_parse_take {start stop : ℕ}
    (hcarries : Carries raw Udp.protocol start stop)
    (hstarts : Udp.Header.Starts ((raw.take stop).drop start)) :
    (parse (raw.take (start + 8))).payloadLength = 0 := by
  have htaken : Udp.Header.Starts (((raw.take (start + 8)).take stop).drop start) := by
    rw [Carries.take_take_drop, Nat.add_sub_cancel_left]
    exact Udp.Header.starts_take hstarts
  obtain ⟨network, hupper⟩ :=
    (hcarries.take (Nat.le_add_right start 8)).exists_upper (by decide) (by decide)
  rw [hupper.parse_eq, addTransport_udp network htaken]
  simp only [Udp.headerLength, List.length_drop, List.length_take]
  omega

/-! ### Quotes over IPv4 -/

/-- How many octets of a packet over IPv4 are quoted: those of the header and eight behind it, as
far as there is room for them and as far as they were captured and announced. -/
def quotedLength (ip : Ipv4.Header) (raw : Bytes) : ℕ :=
  min (min 68 raw.length) (min (4 * ip.headerWords.toNat + 8) ip.totalLength.toNat)

theorem quotedLength_le (ip : Ipv4.Header) (raw : Bytes) : quotedLength ip raw ≤ raw.length := by
  rw [quotedLength]
  omega

namespace Patch

/-- An unreachable message over IPv4 quotes what four bounds leave, whatever its records hold. -/
theorem quotation_icmpUnreachable (captured : Diversion.Address) (ip : Ipv4.Header)
    (raw : Bytes) :
    (icmpUnreachable captured ip raw).quotation = raw.take (quotedLength ip raw) := by
  have hroom : quoteCapacity = 68 := rfl
  rw [quotation, quotedOctets, List.take_take, hroom, Ipv4.Header.length, quotedLength,
    List.take_eq_take_iff]
  omega

/-- About a datagram it quotes the whole header and eight octets behind it. -/
theorem quotation_of_udp (htransport : Udp.Header.Starts (Ipv4.Header.behind raw))
    (captured : Diversion.Address) :
    (icmpUnreachable captured (.read raw) raw).quotation =
      raw.take (4 * lowNibble (octetAt raw 0) + 8) := by
  have hquoted : 4 * lowNibble (octetAt raw 0) + 8 ≤ min raw.length (wordAt raw 2).toNat :=
    Udp.Header.end_le htransport
  have hwords := lowNibble_lt (octetAt raw 0)
  have hheader : 4 * (Ipv4.Header.read raw).headerWords.toNat = 4 * lowNibble (octetAt raw 0) :=
    Ipv4.Header.length_read raw
  have htotal : (Ipv4.Header.read raw).totalLength = wordAt raw 2 := rfl
  have hleast : quotedLength (.read raw) raw = 4 * lowNibble (octetAt raw 0) + 8 := by
    rw [quotedLength, hheader, htotal]
    omega
  rw [quotation_icmpUnreachable, hleast]

/-- Parsing the quote of a datagram over IPv4 gives the headers of the datagram, and no payload. -/
theorem parse_quotation_of_udp (hstarts : Ipv4.Header.Starts raw)
    (hoffset : (wordAt raw 6).toNat % 8192 = 0) (hprotocol : octetAt raw 9 = Udp.protocol)
    (htransport : Udp.Header.Starts (Ipv4.Header.behind raw)) (captured : Diversion.Address) :
    let quote := (icmpUnreachable captured (.read raw) raw).quotation
    (Packet.parse quote).toHeaders = (Packet.parse raw).toHeaders ∧
      (Packet.parse quote).payloadLength = 0 := by
  have hcarries := Carries.ipv4 hstarts hoffset hprotocol
  have hheaders := (HeaderEnds.udp hcarries htransport).headers_parse_take_append []
  rw [List.append_nil] at hheaders
  rw [quotation_of_udp htransport captured]
  exact ⟨hheaders, Packet.payloadLength_parse_take hcarries htransport⟩

end Patch

/-! ### Quotes over IPv6 -/

/-- How many octets of a packet over IPv6 are quoted: as many as there is room for, of those that
were captured and announced. -/
def quotedLengthV6 (raw : Bytes) : ℕ := min 60 (min raw.length (40 + (wordAt raw 4).toNat))

namespace Patch

/-- An unreachable message over IPv6 quotes what it has room for, with zeros behind it. -/
theorem quotation_icmpv6Unreachable (captured : Diversion.Address) (raw : Bytes) :
    (icmpv6Unreachable captured (.read raw) raw).quotation =
      raw.take (quotedLengthV6 raw) ++ blank (60 - quotedLengthV6 raw) := by
  have hannounced : (Ipv6.Header.read raw).announcedLength = 40 + (wordAt raw 4).toNat := rfl
  have hroom : quoteLengthV6 = 60 := rfl
  have htaken : raw.take (min 60 (40 + (wordAt raw 4).toNat)) = raw.take (quotedLengthV6 raw) := by
    rw [List.take_eq_take_iff, quotedLengthV6]
    omega
  have hmissing : 60 - min (40 + (wordAt raw 4).toNat) raw.length = 60 - quotedLengthV6 raw := by
    rw [quotedLengthV6]
    omega
  rw [quotation, quotedOctetsV6, fit_eq_take_append, hroom, hannounced, List.take_take,
    List.length_take, htaken, hmissing, blank]

/-- A quote that has room for the UDP header gives the headers of the datagram when it is parsed. -/
theorem headers_parse_quotation (captured : Diversion.Address) {start stop : ℕ}
    (hcarries : Carries raw Udp.protocol start stop)
    (hstarts : Udp.Header.Starts ((raw.take stop).drop start))
    (hquoted : start + 8 ≤ quotedLengthV6 raw) :
    (Packet.parse (icmpv6Unreachable captured (.read raw) raw).quotation).toHeaders =
      (Packet.parse raw).toHeaders := by
  have hfront : (raw.take (quotedLengthV6 raw)).take (start + 8) = raw.take (start + 8) := by
    rw [List.take_take, Nat.min_eq_left hquoted]
  have hparts := List.take_append_drop (start + 8) (raw.take (quotedLengthV6 raw))
  rw [hfront] at hparts
  rw [quotation_icmpv6Unreachable, ← hparts, List.append_assoc]
  exact (HeaderEnds.udp hcarries hstarts).headers_parse_take_append _

end Patch

end PacketRefusal
