import PacketRefusal.Ipv4.Header
import PacketRefusal.Ipv6.Header
import PacketRefusal.Ipv6.ExtensionChain
import PacketRefusal.Transport.Tcp
import PacketRefusal.Transport.Udp
import PacketRefusal.Transport.Icmp

/-!
# Captured packets

`Packet.parse` recognises the headers of a captured packet: a network header by the version in the
first octet, and behind it at most one transport header. Parsing never fails; what is not
recognised is absent from the result. Fragments other than the first carry data of the application
where a transport header would stand, so none is looked for in them.

`Upper` is what the network layer hands on: a protocol number with the octets under it.
`Headers.addTransport` reads a transport header there.
-/

set_option autoImplicit false
set_option relaxedAutoImplicit false

namespace PacketRefusal

/-- The headers recognised in a packet. -/
structure Headers where
  ipv4 : Option Ipv4.Header := none
  ipv6 : Option Ipv6.Header := none
  icmp : Option Icmp.Header := none
  icmpv6 : Option Icmp.Header := none
  tcp : Option Tcp.Header := none
  udp : Option Udp.Header := none
  deriving DecidableEq

def Headers.hasNetworkHeader (headers : Headers) : Bool :=
  headers.ipv4.isSome || headers.ipv6.isSome

/-- A captured packet with the headers recognised in it. The payload length counts the captured
octets behind the last of these headers. -/
structure Packet extends Headers where
  raw : Bytes
  payloadLength : Nat := 0
  deriving DecidableEq

namespace Packet

def unrecognised (raw : Bytes) : Packet := { raw }

/-- The packet with a transport header and the payload behind it added, or with neither when no
such header was found. -/
def withTransport {header : Type} (packet : Packet) (add : Headers → header → Headers)
    (found : Option (header × Bytes)) : Packet :=
  match found with
  | some (transport, payload) =>
    { packet with
      toHeaders := add packet.toHeaders transport
      payloadLength := payload.length }
  | none => packet

/-- The packet with the transport header read from the octets under a protocol number. ICMP is
only looked for under IPv4, ICMPv6 only under IPv6, and under any other number all octets are
payload. -/
def addTransport (packet : Packet) (protocol : UInt8) (data : Bytes) : Packet :=
  if protocol = Tcp.protocol then
    packet.withTransport (fun headers tcp ↦ { headers with tcp := some tcp })
      (Tcp.Header.parse? data)
  else if protocol = Udp.protocol then
    packet.withTransport (fun headers udp ↦ { headers with udp := some udp })
      (Udp.Header.parse? data)
  else if protocol = Icmp.protocol ∧ packet.ipv4.isSome then
    packet.withTransport (fun headers icmp ↦ { headers with icmp := some icmp })
      (Icmp.Header.parse? data)
  else if protocol = Icmp.protocolV6 ∧ packet.ipv6.isSome then
    packet.withTransport (fun headers icmpv6 ↦ { headers with icmpv6 := some icmpv6 })
      (Icmp.Header.parse? data)
  else { packet with payloadLength := data.length }

/-- A captured packet that claims to be IPv4. -/
def parseIpv4 (raw : Bytes) : Packet :=
  match Ipv4.Header.parse? raw with
  | none => unrecognised raw
  | some (header, data) =>
    let packet : Packet := { raw, ipv4 := some header }
    if header.isLaterFragment then { packet with payloadLength := data.length }
    else packet.addTransport header.protocol data

/-- A captured packet that claims to be IPv6. -/
def parseIpv6 (raw : Bytes) : Packet :=
  match Ipv6.Header.parse? raw with
  | none => unrecognised raw
  | some (header, data) =>
    let packet : Packet := { raw, ipv6 := some header }
    match Ipv6.upperLayer header.nextHeader data with
    | none => packet
    | some (protocol, data) => packet.addTransport protocol data

/-- The headers of a captured packet and the length of its payload. -/
def parse (raw : Bytes) : Packet :=
  match raw.head?.map Bytes.highNibble with
  | some 4 => parseIpv4 raw
  | some 6 => parseIpv6 raw
  | _ => unrecognised raw

end Packet

end PacketRefusal
