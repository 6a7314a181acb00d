import PacketRefusal.Proofs.Faults.Access
import PacketRefusal.Proofs.Ipv6.Chain
import PacketRefusal.Proofs.Packet.Parsing

/-!
# Parsing does not go wrong

The parsers once more, with every access and every sum checked. Each is proved equal to the parser
without checks, for all octets: what it asks for is granted, since lengths are compared before
octets are read. The walk over extension headers is a loop, and `walkRound` is one round of it;
`walk_eq` follows its rounds by the recursion of `Ipv6.upperLayer`. `parse_eq` puts the parsers
together.
-/

set_option autoImplicit false
set_option relaxedAutoImplicit false

namespace PacketRefusal.Checked

open Bytes

/-! ### Network headers -/

/-- Reads an IPv4 address octet by octet. -/
def ipv4Address (bytes : Bytes) (offset : ℕ) : Checked Ipv4.Address := do
  let first ← octet bytes offset
  let second ← octet bytes (offset + 1)
  let third ← octet bytes (offset + 2)
  let fourth ← octet bytes (offset + 3)
  return ⟨[first, second, third, fourth], rfl⟩

/-- Reads an IPv6 address by copying its octets. -/
def ipv6Address (bytes : Bytes) (offset : ℕ) : Checked Ipv6.Address := do
  let octets ← copy (List.replicate 16 0) (← slice bytes offset (offset + 16))
  return .read octets 0

def parseIpv4Header? (data : Bytes) : Checked (Option (Ipv4.Header × Bytes)) :=
  if data.length < Ipv4.minimumHeaderLength then return none
  else do
    let version := highNibble (← octet data 0)
    let words := lowNibble (← octet data 0)
    if version ≠ 4 ∨ words < 5 then return none
    else do
      let headerLength ← multiply words 4
      let totalLength ← word data 2
      if data.length < headerLength ∨ totalLength.toNat < headerLength then return none
      else do
        let flags ← word data 6
        let protocol ← octet data 9
        let source ← ipv4Address data 12
        let destination ← ipv4Address data 16
        let behind ← slice data headerLength (min data.length totalLength.toNat)
        return some
          ({headerWords := .ofNat words
            totalLength
            fragmentOffset := .ofNat (flags.toNat % 8192)
            protocol
            source
            destination}, behind)

def parseIpv6Header? (data : Bytes) : Checked (Option (Ipv6.Header × Bytes)) :=
  if data.length < Ipv6.headerLength then return none
  else do
    if highNibble (← octet data 0) ≠ 6 then return none
    else do
      let payloadLength ← word data 4
      let nextHeader ← octet data 6
      let source ← ipv6Address data 8
      let destination ← ipv6Address data 24
      let announced ← add Ipv6.headerLength payloadLength.toNat
      let behind ← slice data Ipv6.headerLength (min data.length announced)
      return some ({ payloadLength, nextHeader, source, destination }, behind)

theorem ipv4Address_eq {bytes : Bytes} {offset : ℕ} (hfit : offset + 4 ≤ bytes.length) :
    ipv4Address bytes offset = .ok (.read bytes offset) := by
  have hoctets : fit 4 (bytes.drop offset) =
      [octetAt bytes offset, octetAt bytes (offset + 1), octetAt bytes (offset + 2),
        octetAt bytes (offset + 3)] := by
    rw [fit_eq_map]
    simp only [List.range, List.range.loop, List.map_cons, List.map_nil, octetAt_drop, Nat.add_zero]
  rw [ipv4Address, octet_eq (by omega), octet_eq (by omega), octet_eq (by omega),
    octet_eq (by omega)]
  simp only [Ipv4.Address.read, hoctets]
  rfl

theorem ipv6Address_eq {bytes : Bytes} {offset : ℕ} (hfit : offset + 16 ≤ bytes.length) :
    ipv6Address bytes offset = .ok (.read bytes offset) := by
  have hlength : ((bytes.take (offset + 16)).drop offset).length = 16 := by
    rw [List.length_drop, List.length_take]
    omega
  have hread : Ipv6.Address.read ((bytes.take (offset + 16)).drop offset) 0 =
      .read bytes offset := by
    simp only [Ipv6.Address.read, List.drop_zero]
    congr 1
    rw [fit_eq_map, fit_eq_map]
    refine List.map_congr_left fun index hindex ↦ ?_
    rw [octetAt_drop, octetAt_drop, octetAt_take]
    have hsmall := List.mem_range.mp hindex
    omega
  rw [ipv6Address, slice_eq (by omega) hfit, ok_bind, copy_eq (by rw [hlength]; rfl), ok_bind,
    hread]
  rfl

/-- An IPv4 header is read within what was captured, and what stands behind it is cut out between
bounds that are in order. -/
theorem parseIpv4Header?_eq (data : Bytes) :
    parseIpv4Header? data = .ok (Ipv4.Header.parse? data) := by
  rw [parseIpv4Header?, Ipv4.Header.parse?_eq]
  by_cases hshort : data.length < Ipv4.minimumHeaderLength
  · rw [if_pos hshort, if_neg fun hstarts ↦ Nat.not_le_of_lt hshort hstarts.1]
    rfl
  have hlength : 20 ≤ data.length := Nat.le_of_not_lt hshort
  have hwords := lowNibble_lt (octetAt data 0)
  rw [if_neg hshort]
  simp only [octet_eq (show 0 < data.length by omega), ok_bind]
  by_cases hversion : highNibble (octetAt data 0) ≠ 4 ∨ lowNibble (octetAt data 0) < 5
  · rw [if_pos hversion, if_neg fun hstarts ↦ hversion.elim (· hstarts.2.1)
      (Nat.not_lt_of_le hstarts.2.2.1)]
    rfl
  rw [if_neg hversion, multiply_eq (by rw [sizeLimit]; omega), word_eq (by omega)]
  simp only [ok_bind, Nat.mul_comm _ 4]
  by_cases huncovered : data.length < 4 * lowNibble (octetAt data 0) ∨
      (wordAt data 2).toNat < 4 * lowNibble (octetAt data 0)
  · rw [if_pos huncovered, if_neg fun hstarts ↦ huncovered.elim
      (Nat.not_lt_of_le hstarts.2.2.2.1) (Nat.not_lt_of_le hstarts.2.2.2.2)]
    rfl
  rw [not_or, Classical.not_not, Nat.not_lt] at hversion
  rw [not_or, Nat.not_lt, Nat.not_lt] at huncovered
  rw [if_neg (by omega), if_pos ⟨hlength, hversion.1, hversion.2, huncovered⟩,
    word_eq (by omega), octet_eq (by omega), ipv4Address_eq (by omega), ipv4Address_eq (by omega),
    slice_eq (Nat.le_min.mpr huncovered) (Nat.min_le_left _ _), Nat.min_comm,
    ← List.take_eq_take_min]
  rfl

/-- An IPv6 header is read within what was captured. -/
theorem parseIpv6Header?_eq (data : Bytes) :
    parseIpv6Header? data = .ok (Ipv6.Header.parse? data) := by
  rw [parseIpv6Header?, Ipv6.Header.parse?_eq]
  by_cases hshort : data.length < Ipv6.headerLength
  · rw [if_pos hshort, if_neg fun hstarts ↦ Nat.not_le_of_lt hshort hstarts.1]
    rfl
  have hlength : 40 ≤ data.length := Nat.le_of_not_lt hshort
  rw [if_neg hshort, octet_eq (by omega), ok_bind]
  by_cases hversion : highNibble (octetAt data 0) = 6
  · have hpayload := (wordAt data 4).toNat_lt
    have hbounds : Ipv6.headerLength ≤
        min data.length (Ipv6.headerLength + (wordAt data 4).toNat) :=
      Nat.le_min.mpr ⟨hlength, Nat.le_add_right _ _⟩
    rw [if_neg (Classical.not_not.mpr hversion), if_pos ⟨hlength, hversion⟩, word_eq (by omega),
      ok_bind, octet_eq (by omega), ok_bind, ipv6Address_eq (by omega), ipv6Address_eq (by omega),
      ok_bind, ok_bind, add_eq (by rw [sizeLimit, Ipv6.headerLength]; omega), ok_bind,
      slice_eq hbounds (Nat.min_le_left _ _), Nat.min_comm, ← List.take_eq_take_min]
    rfl
  · rw [if_pos hversion, if_neg fun hstarts ↦ hversion hstarts.2]
    rfl

/-! ### Extension headers -/

/-- The outcome of one round of the walk: it is over, or it goes on at the kind and the octets of
the next header. -/
inductive Round
  | over (found : Option (UInt8 × Bytes))
  | next (kind : UInt8) (rest : Bytes)

def isLaterFragment (kind : UInt8) (rest : Bytes) : Checked Bool :=
  if kind = Ipv6.fragment then do return (← word rest 2).toNat / 8 ≠ 0
  else return false

def skipHeader (kind : UInt8) (rest : Bytes) (length : ℕ) : Checked Round :=
  if rest.length < length then return .over none
  else do
    if ← isLaterFragment kind rest then
      return .over (some (Ipv6.fragment, ← slice rest length rest.length))
    else return .next (← octet rest 0) (← slice rest length rest.length)

def walkRound (kind : UInt8) (rest : Bytes) : Checked Round :=
  if Ipv6.CarriesLength kind then
    if rest.length < 2 then return .over none
    else do
      let units ← add (← octet rest 1).toNat 1
      let length ← multiply units 8
      skipHeader kind rest length
  else if kind = Ipv6.fragment then skipHeader kind rest Ipv6.fragmentLength
  else return .over (some (kind, rest))

variable {kind next : UInt8} {rest more : Bytes} {found : Option (UInt8 × Bytes)}

/-- A header that is skipped is there, and what is asked of it are its first octets. -/
theorem skipHeader_eq (kind : UInt8) {length : ℕ} (hlength : 8 ≤ length) (rest : Bytes) :
    skipHeader kind rest length = .ok
      (if rest.length < length then .over none
      else if kind = Ipv6.fragment ∧ Ipv6.fragmentOffset rest ≠ 0 then
        .over (some (Ipv6.fragment, rest.drop length))
      else .next (octetAt rest 0) (rest.drop length)) := by
  rw [skipHeader]
  by_cases hcut : rest.length < length
  · rw [if_pos hcut, if_pos hcut]
    rfl
  have hlater : isLaterFragment kind rest =
      .ok (decide (kind = Ipv6.fragment ∧ Ipv6.fragmentOffset rest ≠ 0)) := by
    rw [isLaterFragment]
    by_cases hkind : kind = Ipv6.fragment
    · rw [if_pos hkind, word_eq (by omega), ok_bind]
      simp only [hkind, true_and]
      rfl
    · rw [if_neg hkind]
      simp only [hkind, false_and, decide_false]
      rfl
  rw [if_neg hcut, if_neg hcut, hlater, ok_bind, slice_length (by omega), octet_eq (by omega)]
  by_cases hstop : kind = Ipv6.fragment ∧ Ipv6.fragmentOffset rest ≠ 0
  · rw [if_pos (decide_eq_true hstop), if_pos hstop]
    rfl
  · rw [if_neg (by simpa using hstop), if_neg hstop]
    rfl

theorem walkRound_of_carriesLength (hkind : Ipv6.CarriesLength kind) (rest : Bytes) :
    walkRound kind rest = .ok
      (if 2 ≤ rest.length ∧ Ipv6.carriedLength rest ≤ rest.length then
        .next (octetAt rest 0) (rest.drop (Ipv6.carriedLength rest))
      else .over none) := by
  have hfragment : kind ≠ Ipv6.fragment := by
    rintro rfl
    revert hkind
    decide
  have hcarried : ((octetAt rest 1).toNat + 1) * 8 = Ipv6.carriedLength rest := Nat.mul_comm _ _
  have hoctet := (octetAt rest 1).toNat_lt
  rw [walkRound, if_pos hkind]
  by_cases hshort : rest.length < 2
  · rw [if_pos hshort, if_neg fun hcaptured ↦ Nat.not_le_of_lt hshort hcaptured.1]
    rfl
  rw [if_neg hshort, octet_eq (by omega), ok_bind, add_eq (by rw [sizeLimit]; omega), ok_bind,
    multiply_eq (by rw [sizeLimit]; omega), ok_bind, hcarried,
    skipHeader_eq kind (Ipv6.eight_le_carriedLength rest)]
  by_cases hcut : rest.length < Ipv6.carriedLength rest
  · rw [if_pos hcut, if_neg fun hcaptured ↦ Nat.not_le_of_lt hcut hcaptured.2]
  · rw [if_neg hcut, if_neg fun hstop ↦ hfragment hstop.1,
      if_pos ⟨Nat.le_of_not_lt hshort, Nat.le_of_not_lt hcut⟩]

theorem walkRound_fragment (rest : Bytes) :
    walkRound Ipv6.fragment rest = .ok
      (if rest.length < Ipv6.fragmentLength then .over none
      else if Ipv6.fragmentOffset rest ≠ 0 then
        .over (some (Ipv6.fragment, rest.drop Ipv6.fragmentLength))
      else .next (octetAt rest 0) (rest.drop Ipv6.fragmentLength)) := by
  rw [walkRound, if_neg (by decide), if_pos rfl, skipHeader_eq _ (by decide)]
  simp only [true_and]

theorem walkRound_of_upper (hcarries : ¬Ipv6.CarriesLength kind) (hfragment : kind ≠ Ipv6.fragment)
    (rest : Bytes) : walkRound kind rest = .ok (.over (some (kind, rest))) := by
  rw [walkRound, if_neg hcarries, if_neg hfragment]
  rfl

/-- A round that does not end the walk leaves fewer octets. -/
theorem length_lt_of_walkRound (hround : walkRound kind rest = .ok (.next next more)) :
    more.length < rest.length := by
  have hdrop {length : ℕ} (hpositive : 8 ≤ length) (hcaptured : length ≤ rest.length) :
      (rest.drop length).length < rest.length := by
    rw [List.length_drop]
    omega
  by_cases hcarries : Ipv6.CarriesLength kind
  · rw [walkRound_of_carriesLength hcarries, Except.ok.injEq] at hround
    split_ifs at hround with hcaptured
    cases hround
    exact hdrop (Ipv6.eight_le_carriedLength rest) hcaptured.2
  · by_cases hfragment : kind = Ipv6.fragment
    · rw [hfragment, walkRound_fragment, Except.ok.injEq] at hround
      split_ifs at hround with hcut hoffset
      cases hround
      exact hdrop (by decide) (Nat.le_of_not_lt hcut)
    · rw [walkRound_of_upper hcarries hfragment, Except.ok.injEq] at hround
      cases hround

/-- The walk over a chain of extension headers, round by round. -/
def walk (kind : UInt8) (rest : Bytes) : Checked (Option (UInt8 × Bytes)) :=
  match _hround : walkRound kind rest with
  | .error fault => .error fault
  | .ok (.over found) => .ok found
  | .ok (.next next more) => walk next more
termination_by rest.length
decreasing_by exact length_lt_of_walkRound _hround

theorem walk_of_over (hround : walkRound kind rest = .ok (.over found)) :
    walk kind rest = .ok found := by
  rw [walk]
  split
  · next hfault => cases hfault.symm.trans hround
  · next hover =>
    cases hover.symm.trans hround
    rfl
  · next hnext => cases hnext.symm.trans hround

theorem walk_of_next (hround : walkRound kind rest = .ok (.next next more)) :
    walk kind rest = walk next more := by
  rw [walk]
  split
  · next hfault => cases hfault.symm.trans hround
  · next hover => cases hover.symm.trans hround
  · next hnext =>
    cases hnext.symm.trans hround
    rfl

/-- The walk reaches no octet that was not captured. -/
theorem walk_eq (kind : UInt8) (rest : Bytes) :
    walk kind rest = .ok (Ipv6.upperLayer kind rest) := by
  -- The recursion of the walk: it is at a header with a length, at a fragment header, or through.
  induction kind, rest using Ipv6.upperLayer.induct with
  | case1 kind rest hkind hcaptured ih =>
    have hround := walkRound_of_carriesLength hkind rest
    rw [if_pos hcaptured] at hround
    rw [Ipv6.upperLayer, if_pos hkind, dif_pos hcaptured, walk_of_next hround, ih]
  | case2 kind rest hkind hcaptured =>
    have hround := walkRound_of_carriesLength hkind rest
    rw [if_neg hcaptured] at hround
    rw [walk_of_over hround, Ipv6.upperLayer, if_pos hkind, dif_neg hcaptured]
  | case3 rest hcaptured hoffset hkind ih =>
    have hround := walkRound_fragment rest
    rw [if_neg (Nat.not_lt.mpr hcaptured), if_neg (Classical.not_not.mpr hoffset)] at hround
    rw [Ipv6.upperLayer, if_neg hkind, if_pos rfl, dif_pos hcaptured, if_pos hoffset,
      walk_of_next hround, ih]
  | case4 rest hcaptured hoffset hkind =>
    have hround := walkRound_fragment rest
    rw [if_neg (Nat.not_lt.mpr hcaptured), if_pos hoffset] at hround
    rw [walk_of_over hround, Ipv6.upperLayer_of_laterFragment hcaptured hoffset]
  | case5 rest hcaptured hkind =>
    have hround := walkRound_fragment rest
    rw [if_pos (Nat.lt_of_not_le hcaptured)] at hround
    rw [walk_of_over hround, Ipv6.upperLayer, if_neg hkind, if_pos rfl, dif_neg hcaptured]
  | case6 kind rest hkind hfragment =>
    rw [walk_of_over (walkRound_of_upper hkind hfragment rest),
      Ipv6.upperLayer_of_upper hkind hfragment]

/-! ### Transport headers -/

def parseTcpHeader? (data : Bytes) : Checked (Option (Tcp.Header × Bytes)) :=
  if data.length < Tcp.minimumHeaderLength then return none
  else do
    let headerLength ← multiply (highNibble (← octet data 12)) 4
    if headerLength < Tcp.minimumHeaderLength ∨ data.length < headerLength then return none
    else do
      let sourcePort ← word data 0
      let destinationPort ← word data 2
      let sequenceNumber ← long data 4
      let acknowledgmentNumber ← long data 8
      let flags := Tcp.Flags.ofOctet (← octet data 13)
      let payload ← slice data headerLength data.length
      return some
        ({ sourcePort, destinationPort, sequenceNumber, acknowledgmentNumber, flags }, payload)

def parseUdpHeader? (data : Bytes) : Checked (Option (Udp.Header × Bytes)) :=
  if data.length < Udp.headerLength then return none
  else do
    let header ← slice data 0 Udp.headerLength
    let announced ← word header 4
    if announced.toNat < Udp.headerLength then return none
    else do
      let sourcePort ← word header 0
      let destinationPort ← word header 2
      let payload ← slice data Udp.headerLength (min data.length announced.toNat)
      return some ({ sourcePort, destinationPort }, payload)

def parseIcmpHeader? (data : Bytes) : Checked (Option (Icmp.Header × Bytes)) :=
  if data.length < Icmp.headerLength then return none
  else do
    let kind ← octet data 0
    let code ← octet data 1
    let payload ← slice data Icmp.headerLength data.length
    return some ({ kind, code }, payload)

theorem parseTcpHeader?_eq (data : Bytes) :
    parseTcpHeader? data = .ok (Tcp.Header.parse? data) := by
  rw [parseTcpHeader?, Tcp.Header.parse?]
  by_cases hshort : data.length < Tcp.minimumHeaderLength
  · rw [if_pos hshort, if_neg fun hstarts ↦ Nat.not_le_of_lt hshort hstarts.1]
    rfl
  have hlength : 20 ≤ data.length := Nat.le_of_not_lt hshort
  have hannounced : highNibble (octetAt data 12) * 4 = Tcp.Header.announcedLength data :=
    Nat.mul_comm _ _
  have hwords : highNibble (octetAt data 12) < 256 :=
    Nat.lt_of_le_of_lt (Nat.div_le_self _ _) (octetAt data 12).toNat_lt
  rw [if_neg hshort, octet_eq (by omega), ok_bind, multiply_eq (by rw [sizeLimit]; omega), ok_bind,
    hannounced]
  by_cases huncovered : Tcp.Header.announcedLength data < Tcp.minimumHeaderLength ∨
      data.length < Tcp.Header.announcedLength data
  · rw [if_pos huncovered, if_neg fun hstarts ↦ huncovered.elim
      (Nat.not_lt_of_le hstarts.2.1) (Nat.not_lt_of_le hstarts.2.2)]
    rfl
  · rw [if_neg huncovered]
    rw [not_or, Nat.not_lt, Nat.not_lt] at huncovered
    rw [if_pos ⟨hlength, huncovered⟩, word_eq (by omega), word_eq (by omega), long_eq (by omega),
      long_eq (by omega), octet_eq (by omega), slice_length huncovered.2]
    rfl

theorem parseUdpHeader?_eq (data : Bytes) :
    parseUdpHeader? data = .ok (Udp.Header.parse? data) := by
  rw [parseUdpHeader?, Udp.Header.parse?]
  by_cases hshort : data.length < Udp.headerLength
  · rw [if_pos hshort, if_neg fun hstarts ↦ Nat.not_le_of_lt hshort hstarts.1]
    rfl
  have hlength : Udp.headerLength ≤ data.length := Nat.le_of_not_lt hshort
  have hheader : (data.take Udp.headerLength).length = 8 := List.length_take_of_le hlength
  have hread {index : ℕ} (hindex : index < 7) :
      word (data.take Udp.headerLength) index = .ok (wordAt data index) := by
    have hinside : index + 1 < Udp.headerLength := Nat.succ_lt_succ hindex
    rw [word_eq (by omega), wordAt_take hinside]
  rw [if_neg hshort, slice_zero hlength, ok_bind, hread (by decide), ok_bind]
  by_cases huncovered : (wordAt data 4).toNat < Udp.headerLength
  · rw [if_pos huncovered, if_neg fun hstarts ↦ Nat.not_le_of_lt huncovered hstarts.2]
    rfl
  · rw [if_neg huncovered]
    rw [Nat.not_lt] at huncovered
    rw [if_pos ⟨hlength, huncovered⟩, hread (by decide), hread (by decide),
      slice_eq (Nat.le_min.mpr ⟨hlength, huncovered⟩) (Nat.min_le_left _ _), Nat.min_comm,
      ← List.take_eq_take_min]
    rfl

theorem parseIcmpHeader?_eq (data : Bytes) :
    parseIcmpHeader? data = .ok (Icmp.Header.parse? data) := by
  rw [parseIcmpHeader?, Icmp.Header.parse?]
  by_cases hshort : data.length < Icmp.headerLength
  · rw [if_pos hshort, if_neg (Nat.not_le_of_lt hshort)]
    rfl
  · rw [if_neg hshort]
    rw [Nat.not_lt] at hshort
    have hlength : 8 ≤ data.length := hshort
    rw [if_pos hshort, octet_eq (by omega), octet_eq (by omega), slice_length hshort]
    rfl

/-! ### Packets -/

/-- Adds the transport header read from the octets under a protocol number. -/
def addTransport (packet : Packet) (protocol : UInt8) (data : Bytes) : Checked Packet :=
  if protocol = Tcp.protocol then do
    return packet.withTransport (fun headers tcp ↦ { headers with tcp := some tcp })
      (← parseTcpHeader? data)
  else if protocol = Udp.protocol then do
    return packet.withTransport (fun headers udp ↦ { headers with udp := some udp })
      (← parseUdpHeader? data)
  else if protocol = Icmp.protocol ∧ packet.ipv4.isSome then do
    return packet.withTransport (fun headers icmp ↦ { headers with icmp := some icmp })
      (← parseIcmpHeader? data)
  else if protocol = Icmp.protocolV6 ∧ packet.ipv6.isSome then do
    return packet.withTransport (fun headers icmpv6 ↦ { headers with icmpv6 := some icmpv6 })
      (← parseIcmpHeader? data)
  else return { packet with payloadLength := data.length }

def parseIpv4 (raw : Bytes) : Checked Packet := do
  match ← parseIpv4Header? raw with
  | none => return .unrecognised raw
  | some (header, data) =>
    let packet : Packet := { raw, ipv4 := some header }
    if header.isLaterFragment then return { packet with payloadLength := data.length }
    else addTransport packet header.protocol data

def parseIpv6 (raw : Bytes) : Checked Packet := do
  match ← parseIpv6Header? raw with
  | none => return .unrecognised raw
  | some (header, data) =>
    let packet : Packet := { raw, ipv6 := some header }
    match ← walk header.nextHeader data with
    | none => return packet
    | some (protocol, data) => addTransport packet protocol data

def parse (raw : Bytes) : Checked Packet :=
  match raw.head?.map highNibble with
  | some 4 => parseIpv4 raw
  | some 6 => parseIpv6 raw
  | _ => return .unrecognised raw

theorem addTransport_eq (packet : Packet) (protocol : UInt8) (data : Bytes) :
    addTransport packet protocol data = .ok (packet.addTransport protocol data) := by
  rw [addTransport, Packet.addTransport, parseTcpHeader?_eq, parseUdpHeader?_eq,
    parseIcmpHeader?_eq]
  split_ifs <;> rfl

theorem parseIpv4_eq (raw : Bytes) : parseIpv4 raw = .ok (Packet.parseIpv4 raw) := by
  rw [parseIpv4, parseIpv4Header?_eq, ok_bind, Packet.parseIpv4]
  cases Ipv4.Header.parse? raw with
  | none => rfl
  | some found =>
    dsimp only
    split_ifs
    · rfl
    · exact addTransport_eq _ _ _

theorem parseIpv6_eq (raw : Bytes) : parseIpv6 raw = .ok (Packet.parseIpv6 raw) := by
  rw [parseIpv6, parseIpv6Header?_eq, ok_bind, Packet.parseIpv6]
  cases Ipv6.Header.parse? raw with
  | none => rfl
  | some found =>
    dsimp only
    rw [walk_eq, ok_bind]
    cases Ipv6.upperLayer found.1.nextHeader found.2 with
    | none => rfl
    | some handed => exact addTransport_eq _ _ _

/-- Parsing does not go wrong on any octets. -/
theorem parse_eq (raw : Bytes) : parse raw = .ok (Packet.parse raw) := by
  rw [parse, Packet.parse, parseIpv4_eq, parseIpv6_eq]
  generalize raw.head?.map highNibble = version
  by_cases hfour : version = some 4
  · subst hfour
    rfl
  by_cases hsix : version = some 6
  · subst hsix
    rfl
  simp only
  rfl

end PacketRefusal.Checked
