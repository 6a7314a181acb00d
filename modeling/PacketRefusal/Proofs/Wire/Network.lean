import PacketRefusal.Proofs.Packet.Padding
import PacketRefusal.Proofs.Wire.Segment

/-!
# Packets as they are sent

The octets that a sender puts around a content: an IPv4 header with options, or an IPv6 header with
a list of extension headers. `Ipv4.Envelope` and `Ipv6.Envelope` hold what the sender is free to
choose; versions, lengths and the numbers that announce what follows are computed. A list of
extension headers is laid out as a chain in the sense of the walk over it
(`Ipv6.chain_chainOctets`).

In both versions the content is what the network layer hands on (`Ipv4.Envelope.upper_octets`,
`Ipv6.Envelope.upper_octets`), and the packet is whole, so that padding behind it is not seen.
-/

set_option autoImplicit false
set_option relaxedAutoImplicit false

namespace PacketRefusal

open Bytes

/-! ### IPv4 -/

namespace Ipv4

/-- What the sender of a packet over IPv4 is free to choose, except for what the packet carries. The
flags are the reserved bit and the two bits that control fragmentation. -/
structure Envelope where
  serviceType : UInt8
  identification : UInt16
  flags : Fin 8
  timeToLive : UInt8
  checksum : UInt16
  source : Address
  destination : Address
  options : Options

namespace Envelope

variable (envelope : Envelope) (protocol : UInt8) (data : Bytes)

def totalLength (data : Bytes) : ℕ := 20 + 4 * envelope.options.words + data.length

/-- The header up to its addresses. -/
def front : Bytes :=
  [.ofNat (64 + 5 + envelope.options.words), envelope.serviceType] ++
    ofWord (.ofNat (envelope.totalLength data)) ++ ofWord envelope.identification ++
    ofWord (.ofNat (8192 * envelope.flags)) ++ [envelope.timeToLive, protocol] ++
    ofWord envelope.checksum

/-- The packet: the header of a fragment that starts its packet, its options, and the data. -/
def octets : Bytes :=
  envelope.front protocol data ++ (envelope.source.octets ++ (envelope.destination.octets ++
    (envelope.options.octets ++ data)))

/-- The header that parsing is expected to find. -/
def header : Header where
  headerWords := .ofNat (5 + envelope.options.words)
  totalLength := .ofNat (envelope.totalLength data)
  fragmentOffset := 0
  protocol := protocol
  source := envelope.source
  destination := envelope.destination

theorem length_octets : (envelope.octets protocol data).length = envelope.totalLength data := by
  have hfront : (envelope.front protocol data).length = 12 := rfl
  simp only [octets, List.length_append, hfront, envelope.source.length_octets,
    envelope.destination.length_octets, envelope.options.length_octets, totalLength]
  omega

theorem toNat_octetAt_zero :
    (octetAt (envelope.octets protocol data) 0).toNat = 64 + 5 + envelope.options.words := by
  have hwords := envelope.options.words.isLt
  have hoctet : octetAt (envelope.octets protocol data) 0 =
      .ofNat (64 + 5 + envelope.options.words) := rfl
  rw [hoctet, UInt8.toNat_ofNat_of_lt' (by simp only [UInt8.size]; omega)]

theorem highNibble_octets : highNibble (octetAt (envelope.octets protocol data) 0) = 4 := by
  have hwords := envelope.options.words.isLt
  rw [highNibble, toNat_octetAt_zero]
  omega

theorem lowNibble_octets :
    lowNibble (octetAt (envelope.octets protocol data) 0) = 5 + envelope.options.words := by
  have hwords := envelope.options.words.isLt
  rw [lowNibble, toNat_octetAt_zero]
  omega

theorem wordAt_two_octets :
    wordAt (envelope.octets protocol data) 2 = .ofNat (envelope.totalLength data) :=
  wordAt_of_drop ((envelope.octets protocol data).drop 4) rfl

theorem wordAt_six_octets :
    (wordAt (envelope.octets protocol data) 6).toNat % 8192 = 0 := by
  have hflags := envelope.flags.isLt
  rw [wordAt_of_drop ((envelope.octets protocol data).drop 8) rfl,
    UInt16.toNat_ofNat_of_lt' (by simp only [UInt16.size]; omega)]
  omega

theorem read_octets :
    Header.read (envelope.octets protocol data) = envelope.header protocol data := by
  have hsource : Address.read (envelope.octets protocol data) 12 = envelope.source :=
    Address.read_eq_of_drop rfl
  have hbehind : (envelope.octets protocol data).drop 16 =
      envelope.destination.octets ++ (envelope.options.octets ++ data) := by
    have hdrop : (envelope.octets protocol data).drop 12 = envelope.source.octets ++
        (envelope.destination.octets ++ (envelope.options.octets ++ data)) := rfl
    rw [show 16 = 12 + 4 from rfl, ← List.drop_drop, hdrop,
      List.drop_left' envelope.source.length_octets]
  have hdestination : Address.read (envelope.octets protocol data) 16 = envelope.destination :=
    Address.read_eq_of_drop hbehind
  rw [Header.read, lowNibble_octets, wordAt_two_octets, wordAt_six_octets, hsource, hdestination]
  rfl

variable {data}

theorem toNat_totalLength (hfits : envelope.totalLength data < 65536) :
    (wordAt (envelope.octets protocol data) 2).toNat = envelope.totalLength data := by
  rw [wordAt_two_octets, UInt16.toNat_ofNat_of_lt' hfits]

theorem starts_octets (hfits : envelope.totalLength data < 65536) :
    Header.Starts (envelope.octets protocol data) := by
  refine ⟨?_, envelope.highNibble_octets protocol data, ?_, ?_, ?_⟩
  · rw [length_octets, totalLength, minimumHeaderLength]
    omega
  · rw [lowNibble_octets]
    omega
  · rw [lowNibble_octets, length_octets, totalLength]
    omega
  · rw [lowNibble_octets, toNat_totalLength envelope protocol hfits, totalLength]
    omega

theorem behind_octets (hfits : envelope.totalLength data < 65536) :
    Header.behind (envelope.octets protocol data) = data := by
  have hheader : (envelope.front protocol data ++ envelope.source.octets ++
      envelope.destination.octets ++ envelope.options.octets).length =
        4 * (5 + envelope.options.words) := by
    have hfront : (envelope.front protocol data).length = 12 := rfl
    simp only [List.length_append, hfront, envelope.source.length_octets,
      envelope.destination.length_octets, envelope.options.length_octets]
    omega
  have hsplit : envelope.octets protocol data = envelope.front protocol data ++
      envelope.source.octets ++ envelope.destination.octets ++ envelope.options.octets ++ data := by
    simp only [octets, List.append_assoc]
  rw [Header.behind, toNat_totalLength envelope protocol hfits, lowNibble_octets,
    List.take_of_length_le (Nat.le_of_eq (envelope.length_octets protocol data)), hsplit,
    List.drop_left' hheader]

/-- The data is what the network layer hands on. -/
theorem upper_octets (hfits : envelope.totalLength data < 65536) :
    Packet.Upper (envelope.octets protocol data)
      { raw := envelope.octets protocol data, ipv4 := some (envelope.header protocol data) }
      protocol data := by
  have hupper := Packet.Upper.ipv4 (envelope.starts_octets protocol hfits)
    (envelope.wordAt_six_octets protocol data)
  rwa [read_octets, behind_octets envelope protocol hfits] at hupper

theorem isWhole_octets (hfits : envelope.totalLength data < 65536) :
    IsWhole (envelope.octets protocol data) := by
  refine Or.inl ⟨envelope.highNibble_octets protocol data, ?_⟩
  rw [length_octets, toNat_totalLength envelope protocol hfits]

end Envelope

end Ipv4

/-! ### IPv6 -/

namespace Ipv6

/-- An extension header behind which the chain goes on, except for the number of what follows. A
fragment header belongs to a fragment that starts its packet; its flags are the two reserved bits
and the bit that announces more fragments. -/
inductive Extension
  | carried (kind : UInt8) (hkind : CarriesLength kind) (units : UInt8) (content : Bytes)
      (hcontent : content.length = 6 + 8 * units.toNat)
  | firstFragment (reserved : UInt8) (flags : Fin 8) (identification : UInt32)

def Extension.kind : Extension → UInt8
  | carried kind .. => kind
  | firstFragment .. => fragment

/-- The octets of an extension header in front of something with a number. -/
def Extension.octets (next : UInt8) : Extension → Bytes
  | carried _ _ units content _ => [next, units] ++ content
  | firstFragment reserved flags identification =>
    [next, reserved] ++ ofWord (.ofNat flags) ++ ofLong identification

/-- The number of what comes first: an extension header, or a protocol if there is none. -/
def firstKind (protocol : UInt8) : List Extension → UInt8
  | [] => protocol
  | extension :: _ => extension.kind

/-- The octets of some extension headers in front of a protocol. -/
def chainOctets (protocol : UInt8) : List Extension → Bytes
  | [] => []
  | extension :: rest => extension.octets (firstKind protocol rest) ++ chainOctets protocol rest

theorem Extension.octetAt_zero_octets (extension : Extension) (next : UInt8) :
    octetAt (extension.octets next) 0 = next := by
  cases extension <;> rfl

theorem Extension.extensionHeader_octets (extension : Extension) (next : UInt8) :
    ExtensionHeader extension.kind (extension.octets next) := by
  cases extension with
  | carried kind hkind units content hcontent =>
    refine .carried hkind ?_
    have hunits : octetAt ((carried kind hkind units content hcontent).octets next) 1 = units := rfl
    rw [carriedLength, hunits, octets, List.length_append, hcontent]
    simp only [List.length_cons, List.length_nil]
    omega
  | firstFragment reserved flags identification =>
    refine .firstFragment rfl ?_
    have hflags := flags.isLt
    rw [fragmentOffset, wordAt_of_drop (ofLong identification) rfl,
      UInt16.toNat_ofNat_of_lt' (by simp only [UInt16.size]; omega)]
    omega

/-- Extension headers are laid out as a chain. -/
theorem chain_chainOctets (protocol : UInt8) (extensions : List Extension) :
    Chain (firstKind protocol extensions) (chainOctets protocol extensions) protocol := by
  induction extensions with
  | nil => exact .done protocol
  | cons extension rest ih =>
    refine .cons (extension.extensionHeader_octets _) ?_
    rwa [extension.octetAt_zero_octets]

/-- What the sender of a packet over IPv6 is free to choose, except for what the packet carries. The
traffic class and the flow label fill the octets up to the payload length, except for the four bits
of the version. -/
structure Envelope where
  classHigh : Fin 16
  classLowFlowHigh : UInt8
  flowLow : UInt16
  hopLimit : UInt8
  source : Address
  destination : Address
  extensions : List Extension

namespace Envelope

variable (envelope : Envelope) (protocol : UInt8) (data : Bytes)

def payloadLength : ℕ := (chainOctets protocol envelope.extensions).length + data.length

/-- The header up to its addresses. -/
def front : Bytes :=
  [.ofNat (96 + envelope.classHigh), envelope.classLowFlowHigh] ++ ofWord envelope.flowLow ++
    ofWord (.ofNat (envelope.payloadLength protocol data)) ++
    [firstKind protocol envelope.extensions, envelope.hopLimit]

/-- The packet: the fixed header, the extension headers, and the data. -/
def octets : Bytes :=
  envelope.front protocol data ++ (envelope.source.octets ++ (envelope.destination.octets ++
    (chainOctets protocol envelope.extensions ++ data)))

/-- The header that parsing is expected to find. -/
def header : Header where
  payloadLength := .ofNat (envelope.payloadLength protocol data)
  nextHeader := firstKind protocol envelope.extensions
  source := envelope.source
  destination := envelope.destination

theorem length_octets :
    (envelope.octets protocol data).length = 40 + envelope.payloadLength protocol data := by
  have hfront : (envelope.front protocol data).length = 8 := rfl
  simp only [octets, List.length_append, hfront, envelope.source.length_octets,
    envelope.destination.length_octets, payloadLength]
  omega

theorem highNibble_octets : highNibble (octetAt (envelope.octets protocol data) 0) = 6 := by
  have hclass := envelope.classHigh.isLt
  have hoctet : octetAt (envelope.octets protocol data) 0 = .ofNat (96 + envelope.classHigh) := rfl
  rw [highNibble, hoctet, UInt8.toNat_ofNat_of_lt' (by simp only [UInt8.size]; omega)]
  omega

theorem wordAt_four_octets :
    wordAt (envelope.octets protocol data) 4 = .ofNat (envelope.payloadLength protocol data) :=
  wordAt_of_drop ((envelope.octets protocol data).drop 6) rfl

theorem starts_octets : Header.Starts (envelope.octets protocol data) := by
  refine ⟨?_, envelope.highNibble_octets protocol data⟩
  rw [length_octets, headerLength]
  omega

theorem read_octets :
    Header.read (envelope.octets protocol data) = envelope.header protocol data := by
  have hsource : Address.read (envelope.octets protocol data) 8 = envelope.source :=
    Address.read_eq_of_drop rfl
  have hbehind : (envelope.octets protocol data).drop 24 = envelope.destination.octets ++
      (chainOctets protocol envelope.extensions ++ data) := by
    have hdrop : (envelope.octets protocol data).drop 8 = envelope.source.octets ++
        (envelope.destination.octets ++ (chainOctets protocol envelope.extensions ++ data)) := rfl
    rw [show 24 = 8 + 16 from rfl, ← List.drop_drop, hdrop,
      List.drop_left' envelope.source.length_octets]
  have hdestination : Address.read (envelope.octets protocol data) 24 = envelope.destination :=
    Address.read_eq_of_drop hbehind
  rw [Header.read, wordAt_four_octets, hsource, hdestination]
  rfl

variable {data}

theorem toNat_payloadLength (hfits : envelope.payloadLength protocol data < 65536) :
    (wordAt (envelope.octets protocol data) 4).toNat = envelope.payloadLength protocol data := by
  rw [wordAt_four_octets, UInt16.toNat_ofNat_of_lt' hfits]

theorem behind_octets (hfits : envelope.payloadLength protocol data < 65536) :
    Header.behind (envelope.octets protocol data) =
      chainOctets protocol envelope.extensions ++ data := by
  have hheader : (envelope.front protocol data ++ envelope.source.octets ++
      envelope.destination.octets).length = headerLength := by
    have hfront : (envelope.front protocol data).length = 8 := rfl
    simp only [List.length_append, hfront, envelope.source.length_octets,
      envelope.destination.length_octets, headerLength]
  have hsplit : envelope.octets protocol data = envelope.front protocol data ++
      envelope.source.octets ++ envelope.destination.octets ++
        (chainOctets protocol envelope.extensions ++ data) := by
    simp only [octets, List.append_assoc]
  have hlength : (envelope.octets protocol data).length ≤
      headerLength + envelope.payloadLength protocol data :=
    Nat.le_of_eq (envelope.length_octets protocol data)
  rw [Header.behind, toNat_payloadLength envelope protocol hfits,
    List.take_of_length_le hlength, hsplit, List.drop_left' hheader]

/-- The data is what the network layer hands on, unless its number is that of an extension
header. -/
theorem upper_octets (hcarries : ¬CarriesLength protocol) (hfragment : protocol ≠ fragment)
    (hfits : envelope.payloadLength protocol data < 65536) :
    Packet.Upper (envelope.octets protocol data)
      { raw := envelope.octets protocol data, ipv6 := some (envelope.header protocol data) }
      protocol data := by
  rw [← read_octets]
  refine .ipv6 (envelope.starts_octets protocol data) ?_
  have hnext : octetAt (envelope.octets protocol data) 6 =
      firstKind protocol envelope.extensions := rfl
  rw [behind_octets envelope protocol hfits, hnext,
    upperLayer_append_chain (chain_chainOctets protocol envelope.extensions),
    upperLayer_of_upper hcarries hfragment]

theorem isWhole_octets (hfits : envelope.payloadLength protocol data < 65536) :
    IsWhole (envelope.octets protocol data) := by
  refine Or.inr ⟨envelope.highNibble_octets protocol data, ?_⟩
  rw [length_octets, toNat_payloadLength envelope protocol hfits]

end Envelope

end Ipv6

end PacketRefusal
