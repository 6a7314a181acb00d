import PacketRefusal.Main
import PacketRefusal.Rejector
import PacketRefusal.Report.Console
import PacketRefusal.Startup.FreshDirectory
import PacketRefusal.Startup.Launch
import PacketRefusal.Proofs.Bytes.Agreement
import PacketRefusal.Proofs.Bytes.Append
import PacketRefusal.Proofs.Checksum.Consistency
import PacketRefusal.Proofs.Checksum.PseudoHeader
import PacketRefusal.Proofs.Checksum.Verification
import PacketRefusal.Proofs.Configuration.Document
import PacketRefusal.Proofs.Configuration.Level
import PacketRefusal.Proofs.Configuration.Numeral
import PacketRefusal.Proofs.Configuration.Variables
import PacketRefusal.Proofs.Faults.Access
import PacketRefusal.Proofs.Faults.Checksum
import PacketRefusal.Proofs.Faults.Handling
import PacketRefusal.Proofs.Faults.Parsing
import PacketRefusal.Proofs.Faults.Reply
import PacketRefusal.Proofs.Ipv6.Chain
import PacketRefusal.Proofs.Ipv6.Grammar
import PacketRefusal.Proofs.Packet.Agreement
import PacketRefusal.Proofs.Packet.Backing
import PacketRefusal.Proofs.Packet.Carriage
import PacketRefusal.Proofs.Packet.Datagram
import PacketRefusal.Proofs.Packet.Fragments
import PacketRefusal.Proofs.Packet.Padding
import PacketRefusal.Proofs.Packet.Parsing
import PacketRefusal.Proofs.Packet.Received
import PacketRefusal.Proofs.Packet.Refreshed
import PacketRefusal.Proofs.Packet.Sealed
import PacketRefusal.Proofs.Packet.Truncation
import PacketRefusal.Proofs.Pattern.Reading
import PacketRefusal.Proofs.Rejector.Effects
import PacketRefusal.Proofs.Rejector.Fragments
import PacketRefusal.Proofs.Rejector.Independence
import PacketRefusal.Proofs.Rejector.Output
import PacketRefusal.Proofs.Rejector.Payload
import PacketRefusal.Proofs.Rejector.Recapture
import PacketRefusal.Proofs.Rejector.Reports
import PacketRefusal.Proofs.Rejector.Reset
import PacketRefusal.Proofs.Rejector.Truncation
import PacketRefusal.Proofs.Rejector.Unreachable
import PacketRefusal.Proofs.Rejector.WellFormed
import PacketRefusal.Proofs.Reply.Comparison
import PacketRefusal.Proofs.Reply.Quotation
import PacketRefusal.Proofs.Reply.Totality
import PacketRefusal.Proofs.Startup.EnvironmentFile
import PacketRefusal.Proofs.Startup.Filter
import PacketRefusal.Proofs.Startup.LogFilter
import PacketRefusal.Proofs.Startup.Stages
import PacketRefusal.Proofs.Text.Ordinary
import PacketRefusal.Proofs.Wire.Network
import PacketRefusal.Proofs.Wire.Recovery
