import PacketRefusal.Packet

/-!
# The line that reports a packet

`Headers.reportLine` shows what was recognised in a packet as `key=value` tokens, separated by
single spaces and in a fixed order: IPv4, IPv6, ICMP, ICMPv6, TCP, UDP. The control bits of TCP
appear by name in brackets, in an order of their own.
-/

set_option autoImplicit false
set_option relaxedAutoImplicit false

namespace PacketRefusal

/-- The names of the control bits that are set. -/
def Tcp.Flags.names (flags : Tcp.Flags) : String :=
  let named : List (Bool × String) :=
    [(flags.finish, "[FIN]"), (flags.reset, "[RST]"), (flags.urgent, "[URG]"),
      (flags.synchronize, "[SYN]"), (flags.push, "[PSH]"), (flags.acknowledgment, "[ACK]")]
  String.join ((named.filter (·.1)).map (·.2))

namespace Report

def token (key value : String) : String := key ++ "=" ++ value

def numberToken (key : String) (number : Nat) : String := token key (toString number)

def ipv4Tokens (header : Ipv4.Header) : List String :=
  [token "ip.SrcAddr" header.source.text, token "ip.DstAddr" header.destination.text]

def ipv6Tokens (header : Ipv6.Header) : List String :=
  [token "ipv6.SrcAddr" header.source.text, token "ipv6.DstAddr" header.destination.text]

/-- The tokens of an ICMP header, whose keys start with the name of the protocol. -/
def icmpTokens (name : String) (header : Icmp.Header) : List String :=
  [numberToken (name ++ ".Type") header.kind.toNat,
    numberToken (name ++ ".Code") header.code.toNat]

def tcpTokens (header : Tcp.Header) : List String :=
  [numberToken "tcp.SrcPort" header.sourcePort.toNat,
    numberToken "tcp.DstPort" header.destinationPort.toNat,
    token "tcp.Flags" header.flags.names]

def udpTokens (header : Udp.Header) : List String :=
  [numberToken "udp.SrcPort" header.sourcePort.toNat,
    numberToken "udp.DstPort" header.destinationPort.toNat]

end Report

namespace Headers

/-- The tokens that show the headers, in the fixed order of the kinds of header. -/
def reportTokens (headers : Headers) : List String :=
  headers.ipv4.elim [] Report.ipv4Tokens ++
    headers.ipv6.elim [] Report.ipv6Tokens ++
    headers.icmp.elim [] (Report.icmpTokens "icmp") ++
    headers.icmpv6.elim [] (Report.icmpTokens "icmpv6") ++
    headers.tcp.elim [] Report.tcpTokens ++
    headers.udp.elim [] Report.udpTokens

def reportLine (headers : Headers) : String := " ".intercalate headers.reportTokens

end Headers

end PacketRefusal
