import PacketRefusal.Checksum.Refresh
import PacketRefusal.Reply.ResetNumbers
import PacketRefusal.Reply.Template

/-!
# Filling a template in

A `Patch` holds what a reply needs of the packet that is refused: where it was captured, its network
header, and its TCP header and payload length or its octets. `Patch.onTemplate` overwrites exactly
the fields of the template that depend on these, and computes the checksums anew;
`Templates.patch` does so for the template of the patch's kind.

* A reset goes back in the opposite direction. Addresses and ports are exchanged, and both sequence
  numbers are written.
* An unreachable message always goes outbound, since some of them cannot be put into the inbound
  path. Addresses are exchanged and the whole quote area is filled, with zeros behind the quote.
  Over IPv4 the quote is the header and eight octets, and the length of the message follows it.
  Over IPv6 the quote area has a fixed length.

The template is the state of the computation and keeps what was written before an error.
-/

set_option autoImplicit false
set_option relaxedAutoImplicit false

namespace PacketRefusal

open Bytes

/-- What a reply is derived from. -/
inductive Patch
  | tcpReset (captured : Diversion.Address) (ip : Ipv4.Header) (tcp : Tcp.Header)
      (payloadLength : Nat)
  | tcpResetV6 (captured : Diversion.Address) (ip : Ipv6.Header) (tcp : Tcp.Header)
      (payloadLength : Nat)
  | icmpUnreachable (captured : Diversion.Address) (ip : Ipv4.Header) (raw : Bytes)
  | icmpv6Unreachable (captured : Diversion.Address) (ip : Ipv6.Header) (raw : Bytes)
  deriving DecidableEq

namespace Template

/-- A change of a template that may fail. -/
abbrev Change := EStateM BuildError Template

/-- Directs the reply to an address. -/
def direct (address : Diversion.Address) : Change Unit :=
  modify fun template ↦ { template with address }

@[simp] theorem run_direct (address : Diversion.Address) (template : Template) :
    (direct address).run template = .ok () { template with address } := rfl

/-- Checks that the buffer has at least as many octets as the fields that are about to be
written. -/
def require (length : Nat) : Change Unit := do
  let template ← get
  if template.buffer.length < length then throw .templateSize

@[simp] theorem run_require (length : Nat) (template : Template) :
    (require length).run template =
      if template.buffer.length < length then .error .templateSize template
      else .ok () template := by
  unfold require
  simp only [EStateM.run_bind, EStateM.run_get, Checksum.run_ite, EStateM.run_throw,
    EStateM.run_pure]

def write (offset : Nat) (octets : Bytes) : Change Unit :=
  modify fun template ↦ { template with buffer := overwrite offset octets template.buffer }

@[simp] theorem run_write (offset : Nat) (octets : Bytes) (template : Template) :
    (write offset octets).run template =
      .ok () { template with buffer := overwrite offset octets template.buffer } := rfl

/-- Fills the buffer from an offset to its end with a quote, and with zeros behind it. -/
def quote (offset : Nat) (quoted : Bytes) : Change Unit :=
  modify fun template ↦
    { template with
      buffer := overwrite offset (fit (template.buffer.length - offset) quoted) template.buffer }

@[simp] theorem run_quote (offset : Nat) (quoted : Bytes) (template : Template) :
    (quote offset quoted).run template =
      .ok () { template with
        buffer := overwrite offset (fit (template.buffer.length - offset) quoted)
          template.buffer } := rfl

def resize (length : Nat) : Change Unit := modify fun template ↦ { template with length }

@[simp] theorem run_resize (length : Nat) (template : Template) :
    (resize length).run template = .ok () { template with length } := rfl

/-- Computes the checksums of the reply anew. -/
def refresh : Change Unit := fun template ↦
  match Checksum.refresh.run template.packet with
  | .ok _ packet =>
    .ok () { template with buffer := packet ++ template.buffer.drop template.length }
  | .error error packet =>
    .error error { template with buffer := packet ++ template.buffer.drop template.length }

end Template

/-- The ports and numbers of a reset, as they stand at the front of its TCP header. -/
def resetFields (tcp : Tcp.Header) (payloadLength : Nat) : Bytes :=
  let numbers := tcp.resetNumbers payloadLength
  ofWord tcp.destinationPort ++ ofWord tcp.sourcePort ++
    ofLong numbers.sequence ++ ofLong numbers.acknowledgment

/-- What an unreachable message over IPv4 quotes: the header and eight octets, within the announced
length and within what was captured. -/
def quotedOctets (ip : Ipv4.Header) (raw : Bytes) : Bytes :=
  raw.take (min (ip.length + 8) ip.totalLength.toNat)

/-- What an unreachable message over IPv6 quotes: the packet within its announced length. -/
def quotedOctetsV6 (ip : Ipv6.Header) (raw : Bytes) : Bytes := raw.take ip.announcedLength

namespace Patch

/-- The kind of reply that a patch fills in. -/
def reply : Patch → Reply
  | tcpReset .. => .tcpReset
  | tcpResetV6 .. => .tcpResetV6
  | icmpUnreachable .. => .icmpUnreachable
  | icmpv6Unreachable .. => .icmpv6Unreachable

/-- Fills in the template of the patch's kind. -/
def onTemplate : Patch → Template.Change Unit
  | tcpReset captured ip tcp payloadLength => do
    Template.direct captured.reversed
    Template.require resetLength
    Template.write 12 (ip.destination.octets ++ ip.source.octets)
    Template.write Ipv4.minimumHeaderLength (resetFields tcp payloadLength)
    Template.refresh
  | tcpResetV6 captured ip tcp payloadLength => do
    Template.direct captured.reversed
    Template.require resetLengthV6
    Template.write 8 (ip.destination.octets ++ ip.source.octets)
    Template.write Ipv6.headerLength (resetFields tcp payloadLength)
    Template.refresh
  | icmpUnreachable captured ip raw => do
    Template.direct captured.outbound
    Template.require quoteOffset
    let room := (← get).buffer.length - quoteOffset
    let quoted := (quotedOctets ip raw).take room
    let length := quoteOffset + quoted.length
    Template.quote quoteOffset quoted
    Template.resize length
    Template.write 2 (ofWord (.ofNat length))
    Template.write 12 (ip.destination.octets ++ ip.source.octets)
    Template.refresh
  | icmpv6Unreachable captured ip raw => do
    Template.direct captured.outbound
    Template.require quoteOffsetV6
    Template.quote quoteOffsetV6 (quotedOctetsV6 ip raw)
    Template.write 8 (ip.destination.octets ++ ip.source.octets)
    Template.refresh

end Patch

/-- Fills in the template of the patch's kind and keeps the others. -/
def Templates.patch (patch : Patch) : EStateM BuildError Templates Unit := fun templates ↦
  match patch.onTemplate.run (templates.get patch.reply) with
  | .ok _ template => .ok () (templates.set patch.reply template)
  | .error error template => .error error (templates.set patch.reply template)

end PacketRefusal
