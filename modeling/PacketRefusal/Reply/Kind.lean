import PacketRefusal.Packet

/-!
# Kinds of reply

TCP is refused by a reset, UDP by an unreachable message, each in the IP version of the packet
that is refused. `Packet.reply?` chooses the kind; packets with neither header get no reply.
-/

set_option autoImplicit false
set_option relaxedAutoImplicit false

namespace PacketRefusal

inductive Reply
  | tcpReset
  | tcpResetV6
  | icmpUnreachable
  | icmpv6Unreachable
  deriving DecidableEq

def Reply.text : Reply → String
  | tcpReset => "TCP リセット"
  | tcpResetV6 => "TCP (IPv6) リセット"
  | icmpUnreachable => "ICMP メッセージ"
  | icmpv6Unreachable => "ICMPv6 メッセージ"

/-- The kind of reply that refuses a packet. -/
def Packet.reply? (packet : Packet) : Option Reply :=
  match packet.tcp, packet.udp with
  | some _, _ => some (if packet.ipv4.isSome then .tcpReset else .tcpResetV6)
  | none, some _ => some (if packet.ipv4.isSome then .icmpUnreachable else .icmpv6Unreachable)
  | none, none => none

end PacketRefusal
