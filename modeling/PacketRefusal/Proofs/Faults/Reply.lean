import PacketRefusal.Proofs.Faults.Checksum
import PacketRefusal.Proofs.Reply.Filling

/-!
# Filling a template in does not go wrong

The patches once more, with every access and every sum checked, as they cut the buffer of a template
into header, message and quote area and write each field into its part. Whatever the fields of a
patch are, and whatever the template holds, a buffer of the right size is enough for them
(`patch_eq`). The quote is as long as the shorter of its area and of what is quoted
(`fillQuote_eq`), so that the length of an unreachable message fits its sixteen bits.
-/

set_option autoImplicit false
set_option relaxedAutoImplicit false

namespace PacketRefusal.Checked

open Bytes

/-- What filling in a template leads to. -/
abbrev Patched := EStateM.Result BuildError Template Unit

/-! ### Parts of patches -/

def writeAddresses (offset : ℕ) (source destination header : Bytes) : Checked Bytes := do
  let header ← write offset source header
  write (offset + source.length) destination header

def writeReset (tcp : Tcp.Header) (payloadLength : ℕ) (segment : Bytes) : Checked Bytes := do
  let numbers := tcp.resetNumbers payloadLength
  let segment ← write 0 (ofWord tcp.destinationPort) segment
  let segment ← write 2 (ofWord tcp.sourcePort) segment
  let segment ← write 4 (ofLong numbers.sequence) segment
  write 8 (ofLong numbers.acknowledgment) segment

/-- Fills the area of a quote and says how long the quote is. -/
def fillQuote (area original : Bytes) : Checked (Bytes × ℕ) := do
  let length := min area.length original.length
  let quoted ← copy (← slice area 0 length) (← slice original 0 length)
  let unused ← slice area length area.length
  return (quoted ++ blank unused.length, length)

/-- Fills a buffer from an offset to its end with a quote and says how long the quote is. -/
def writeQuote (offset : ℕ) (original buffer : Bytes) : Checked (Bytes × ℕ) := do
  let (area, length) ← fillQuote (← slice buffer offset buffer.length) original
  return (buffer.take offset ++ area, length)

/-- Recomputes the checksums of the octets in front of an index. -/
def refreshFront (length : ℕ) (template : Template) : Checked Patched := do
  match ← refresh (← slice template.buffer 0 length) with
  | .ok _ packet =>
    return .ok () { template with buffer := packet ++ template.buffer.drop length }
  | .error error packet =>
    return .error error { template with buffer := packet ++ template.buffer.drop length }

variable {template : Template}

/-- Octets that are written behind others are written with them. -/
theorem write_overwrite {start offset : ℕ} {first second buffer : Bytes}
    (hoffset : start + first.length = offset) (hfit : offset + second.length ≤ buffer.length) :
    write offset second (overwrite start first buffer) =
      .ok (overwrite start (first ++ second) buffer) := by
  subst hoffset
  rw [write_eq (by rwa [length_overwrite]), overwrite_overwrite hfit]

theorem writeAddresses_eq {offset : ℕ} {source destination header : Bytes}
    (hfit : offset + source.length + destination.length ≤ header.length) :
    writeAddresses offset source destination header =
      .ok (overwrite offset (source ++ destination) header) := by
  rw [writeAddresses, write_eq (Nat.le_trans (Nat.le_add_right _ _) hfit), ok_bind,
    write_overwrite rfl hfit]

theorem writeReset_eq (tcp : Tcp.Header) (payloadLength : ℕ) {segment : Bytes}
    (hfit : 12 ≤ segment.length) :
    writeReset tcp payloadLength segment =
      .ok (overwrite 0 (resetFields tcp payloadLength) segment) := by
  have hword {offset : ℕ} (hend : offset + 2 ≤ 12) (word : UInt16) :
      offset + (ofWord word).length ≤ segment.length := Nat.le_trans hend hfit
  have hlong {offset : ℕ} (hend : offset + 4 ≤ 12) (long : UInt32) :
      offset + (ofLong long).length ≤ segment.length := Nat.le_trans hend hfit
  rw [writeReset, write_eq (hword (by decide) _), ok_bind,
    write_overwrite (by rfl) (hword (by decide) _), ok_bind,
    write_overwrite (by rfl) (hlong (by decide) _), ok_bind,
    write_overwrite (by rfl) (hlong (by decide) _)]
  rfl

/-- A quote and the zeros behind it fill the area. -/
theorem fillQuote_eq (area original : Bytes) :
    fillQuote area original =
      .ok (fit area.length original, (original.take area.length).length) := by
  have hquoted : original.take (min area.length original.length) = original.take area.length :=
    List.take_eq_take_min.symm
  have hlength : (original.take area.length).length = min area.length original.length :=
    List.length_take
  rw [fillQuote, slice_zero (Nat.min_le_left _ _), ok_bind, slice_zero (Nat.min_le_right _ _),
    ok_bind, copy_eq (by rw [hquoted, hlength, List.length_take_of_le (Nat.min_le_left _ _)]),
    ok_bind, slice_length (Nat.min_le_left _ _), ok_bind, hquoted, List.length_drop, ← fit_take,
    fit_of_ge _ _ (List.length_take_le _ _), hlength]
  rfl

/-- A quote replaces the octets from its offset on. -/
theorem writeQuote_eq {offset : ℕ} {buffer : Bytes} (hoffset : offset ≤ buffer.length)
    (original : Bytes) :
    writeQuote offset original buffer =
      .ok (overwrite offset (fit (buffer.length - offset) original) buffer,
        (original.take (buffer.length - offset)).length) := by
  have hfit : offset + (fit (buffer.length - offset) original).length = buffer.length := by
    rw [length_fit, Nat.add_sub_cancel' hoffset]
  rw [writeQuote, slice_length hoffset, ok_bind, fillQuote_eq, ok_bind, List.length_drop,
    overwrite_eq _ _ _ (Nat.le_of_eq hfit), hfit, List.drop_length, List.append_nil]
  rfl

/-- Checksums are computed over octets of the buffer. -/
theorem refreshFront_eq {length : ℕ} (hlength : length ≤ template.buffer.length)
    (hwhole : template.length = length) :
    refreshFront length template = .ok (Template.refresh.run template) := by
  subst hwhole
  rw [refreshFront, slice_zero hlength, ok_bind, refresh_eq, ok_bind, Template.run_refresh,
    Template.packet]
  cases Checksum.refresh.run (template.buffer.take template.length) <;> rfl

/-! ### Patches -/

/-- Fills in a reset whose network header has its addresses at an offset. -/
def patchReset (headerLength offset : ℕ) (source destination : Bytes)
    (captured : Diversion.Address) (tcp : Tcp.Header) (payloadLength : ℕ) (template : Template) :
    Checked Patched := do
  let template := { template with address := captured.reversed }
  let (header, segment) ← split template.buffer headerLength
  if header.length < headerLength then return .error .templateSize template
  else do
    let header ← writeAddresses offset source destination header
    let template := { template with buffer := header ++ segment }
    if segment.length < Tcp.minimumHeaderLength then return .error .templateSize template
    else do
      let segment ← writeReset tcp payloadLength segment
      let template := { template with buffer := header ++ segment }
      refreshFront template.buffer.length template

def patchUnreachable (captured : Diversion.Address) (ip : Ipv4.Header) (raw : Bytes)
    (template : Template) : Checked Patched := do
  let template := { template with address := captured.outbound }
  let wanted ← add (← multiply ip.headerWords.toNat 4) 8
  let available ← slice raw 0 (min raw.length (min wanted ip.totalLength.toNat))
  let (buffer, quotedLength) ← writeQuote quoteOffset available template.buffer
  let length ← add quoteOffset quotedLength
  let template := { template with buffer, length }
  let header ← slice template.buffer 0 Ipv4.minimumHeaderLength
  if header.length < Ipv4.minimumHeaderLength then return .error .templateSize template
  else do
    let header ← write 2 (ofWord (← narrow length)) header
    let header ← writeAddresses 12 ip.destination.octets ip.source.octets header
    let behind := template.buffer.drop Ipv4.minimumHeaderLength
    refreshFront length { template with buffer := header ++ behind }

def patchUnreachableV6 (captured : Diversion.Address) (ip : Ipv6.Header) (raw : Bytes)
    (template : Template) : Checked Patched := do
  let template := { template with address := captured.outbound }
  let announced ← add Ipv6.headerLength ip.payloadLength.toNat
  let available ← slice raw 0 (min raw.length announced)
  let (buffer, _) ← writeQuote quoteOffsetV6 available template.buffer
  let template := { template with buffer }
  let header ← slice template.buffer 0 Ipv6.headerLength
  if header.length < Ipv6.headerLength then return .error .templateSize template
  else do
    let header ← writeAddresses 8 ip.destination.octets ip.source.octets header
    let behind := template.buffer.drop Ipv6.headerLength
    let template := { template with buffer := header ++ behind }
    refreshFront template.buffer.length template

/-- Fills in the template of the patch's kind. -/
def patch : Patch → Template → Checked Patched
  | .tcpReset captured ip tcp payloadLength =>
    patchReset Ipv4.minimumHeaderLength 12 ip.destination.octets ip.source.octets captured tcp
      payloadLength
  | .tcpResetV6 captured ip tcp payloadLength =>
    patchReset Ipv6.headerLength 8 ip.destination.octets ip.source.octets captured tcp
      payloadLength
  | .icmpUnreachable captured ip raw => patchUnreachable captured ip raw
  | .icmpv6Unreachable captured ip raw => patchUnreachableV6 captured ip raw

/-- A reset is filled in if its addresses lie in the network header and its buffer has room for
both headers. -/
theorem patchReset_eq {headerLength offset : ℕ} {source destination : Bytes}
    (haddresses : offset + source.length + destination.length ≤ headerLength)
    (hbuffer : template.buffer.length = headerLength + Tcp.minimumHeaderLength)
    (hwhole : template.length = template.buffer.length) (captured : Diversion.Address)
    (tcp : Tcp.Header) (payloadLength : ℕ) :
    patchReset headerLength offset source destination captured tcp payloadLength template =
      .ok (Template.refresh.run ⟨captured.reversed,
        overwrite headerLength (resetFields tcp payloadLength)
          (overwrite offset (source ++ destination) template.buffer), template.length⟩) := by
  have hheader : (template.buffer.take headerLength).length = headerLength :=
    List.length_take_of_le (by omega)
  have hsegment : (template.buffer.drop headerLength).length = Tcp.minimumHeaderLength := by
    rw [List.length_drop, hbuffer, Nat.add_sub_cancel_left]
  have hwritten : overwrite headerLength (resetFields tcp payloadLength)
      (overwrite offset (source ++ destination) template.buffer) =
        overwrite offset (source ++ destination) (template.buffer.take headerLength) ++
          overwrite 0 (resetFields tcp payloadLength) (template.buffer.drop headerLength) := by
    have hfront : overwrite offset (source ++ destination) template.buffer =
        overwrite offset (source ++ destination) (template.buffer.take headerLength) ++
          template.buffer.drop headerLength :=
      overwrite_eq_take_append (by rw [List.length_append]; omega) (by omega)
    rw [hfront, overwrite_eq_append_drop (by rw [List.length_append, length_overwrite]; omega),
      List.take_left' (by rw [length_overwrite, hheader]),
      List.drop_left' (by rw [length_overwrite, hheader])]
  have hsplit : split template.buffer headerLength =
      .ok (template.buffer.take headerLength, template.buffer.drop headerLength) :=
    split_eq (by omega)
  rw [patchReset]
  dsimp only
  rw [hsplit, ok_bind]
  dsimp only
  rw [if_neg (by omega), writeAddresses_eq (by omega), ok_bind, if_neg (by omega),
    writeReset_eq _ _ (by rw [hsegment]; decide), ok_bind, ← hwritten]
  refine refreshFront_eq (Nat.le_refl _) ?_
  simp only [length_overwrite, hwhole]

/-- The quote of an unreachable message over IPv4 fills the buffer from its offset on. -/
theorem writeQuote_icmpUnreachable (captured : Diversion.Address) (ip : Ipv4.Header) (raw : Bytes)
    {buffer : Bytes} (hbuffer : buffer.length = unreachableCapacity) :
    let quoted := (Patch.icmpUnreachable captured ip raw).quotation
    writeQuote quoteOffset (quotedOctets ip raw) buffer =
      .ok (overwrite 28 (fit quoteCapacity quoted) buffer, quoted.length) := by
  intro quoted
  have hroom : buffer.length - quoteOffset = quoteCapacity := by
    rw [hbuffer, unreachableCapacity, Nat.add_sub_cancel_left]
  have hquoted : (quotedOctets ip raw).take quoteCapacity = quoted := rfl
  rw [writeQuote_eq (by rw [hbuffer]; decide), hroom, ← fit_take, hquoted]
  rfl

/-- The quote of an unreachable message over IPv6 fills the buffer from its offset on. -/
theorem writeQuote_icmpv6Unreachable (captured : Diversion.Address) (ip : Ipv6.Header)
    (raw : Bytes) {buffer : Bytes} (hbuffer : buffer.length = unreachableLengthV6) :
    let quoted := (Patch.icmpv6Unreachable captured ip raw).quotation
    ∃ length, writeQuote quoteOffsetV6 (quotedOctetsV6 ip raw) buffer =
      .ok (overwrite 48 quoted buffer, length) := by
  intro quoted
  have hroom : buffer.length - quoteOffsetV6 = quoteLengthV6 := by
    rw [hbuffer, unreachableLengthV6, Nat.add_sub_cancel_left]
  have hquoted : fit quoteLengthV6 (quotedOctetsV6 ip raw) = quoted := rfl
  rw [writeQuote_eq (by rw [hbuffer]; decide), hroom, hquoted]
  exact ⟨_, rfl⟩

/-- A header that is cut out of a buffer, gets its length and its addresses and is put back. -/
theorem overwrite_header {size addresses buffer : Bytes} {headerLength : ℕ}
    (hsize : 2 + size.length ≤ headerLength) (haddresses : 12 + addresses.length ≤ headerLength)
    (hbuffer : headerLength ≤ buffer.length) :
    overwrite 12 addresses (overwrite 2 size (buffer.take headerLength)) ++
        buffer.drop headerLength =
      overwrite 12 addresses (overwrite 2 size buffer) := by
  rw [overwrite_eq_take_append hsize hbuffer, overwrite_append_left]
  rwa [length_overwrite, List.length_take_of_le hbuffer]

/-- An unreachable message over IPv4 is filled in, and its length fits its field. -/
theorem patchUnreachable_eq (hbuffer : template.buffer.length = unreachableCapacity)
    (captured : Diversion.Address) (ip : Ipv4.Header) (raw : Bytes) :
    patchUnreachable captured ip raw template =
      .ok (Template.refresh.run ⟨captured.outbound,
        (Patch.icmpUnreachable captured ip raw).write template.buffer,
        quoteOffset + (Patch.icmpUnreachable captured ip raw).quotation.length⟩) := by
  have hwords := ip.headerWords.toNat_lt
  have hwanted : ip.headerWords.toNat * 4 + 8 = ip.length + 8 := by
    rw [Ipv4.Header.length, Nat.mul_comm]
  have hquote := writeQuote_icmpUnreachable captured ip raw hbuffer
  have hquoted : (Patch.icmpUnreachable captured ip raw).quotation.length ≤ 68 :=
    List.length_take_le _ _
  rw [patchUnreachable, Patch.write]
  generalize (Patch.icmpUnreachable captured ip raw).quotation = quoted at *
  have hfilled : (overwrite 28 (fit quoteCapacity quoted) template.buffer).length = 96 :=
    (length_overwrite _ _ _).trans hbuffer
  dsimp only at hquote ⊢
  generalize overwrite 28 (fit quoteCapacity quoted) template.buffer = filled at *
  have hsize : quoteOffset + quoted.length < 97 :=
    Nat.add_lt_add_left (Nat.lt_succ_of_le hquoted) 28
  have hindex : Ipv4.minimumHeaderLength ≤ filled.length := by
    rw [hfilled]
    decide
  have hheader : (filled.take Ipv4.minimumHeaderLength).length = 20 :=
    List.length_take_of_le hindex
  have haddresses : 12 + ip.destination.octets.length + ip.source.octets.length = 20 := by
    rw [ip.destination.length_octets, ip.source.length_octets]
  rw [multiply_eq (by rw [sizeLimit]; omega), ok_bind, add_eq (by rw [sizeLimit]; omega), ok_bind,
    hwanted, slice_min, ok_bind, ← quotedOctets, hquote, ok_bind]
  dsimp only
  rw [add_eq (by rw [sizeLimit]; omega), ok_bind, slice_zero hindex, ok_bind,
    if_neg (by rw [hheader]; decide), narrow_eq (by rw [UInt16.size]; omega), ok_bind,
    write_eq (by rw [hheader, length_ofWord]; decide), ok_bind,
    writeAddresses_eq (by rw [length_overwrite, haddresses, hheader]), ok_bind]
  have hexchanged : ip.destination.octets ++ ip.source.octets = ip.exchanged := rfl
  rw [hexchanged, overwrite_header (by rw [length_ofWord]; decide)
    (by rw [Ipv4.Header.length_exchanged]; decide) hindex]
  refine refreshFront_eq ?_ rfl
  rw [length_overwrite, length_overwrite, hfilled]
  exact Nat.le_of_lt_succ hsize

/-- An unreachable message over IPv6 is filled in. -/
theorem patchUnreachableV6_eq (hbuffer : template.buffer.length = unreachableLengthV6)
    (hwhole : template.length = template.buffer.length) (captured : Diversion.Address)
    (ip : Ipv6.Header) (raw : Bytes) :
    patchUnreachableV6 captured ip raw template =
      .ok (Template.refresh.run ⟨captured.outbound,
        (Patch.icmpv6Unreachable captured ip raw).write template.buffer, template.length⟩) := by
  have hpayload := ip.payloadLength.toNat_lt
  obtain ⟨quotedLength, hquote⟩ := writeQuote_icmpv6Unreachable captured ip raw hbuffer
  rw [patchUnreachableV6, Patch.write]
  generalize (Patch.icmpv6Unreachable captured ip raw).quotation = quoted at *
  have hfilled : (overwrite 48 quoted template.buffer).length = template.buffer.length :=
    length_overwrite _ _ _
  generalize overwrite 48 quoted template.buffer = filled at *
  have hindex : Ipv6.headerLength ≤ filled.length := by
    rw [hfilled, hbuffer]
    decide
  have hheader : (filled.take Ipv6.headerLength).length = 40 := List.length_take_of_le hindex
  have haddresses : 8 + ip.destination.octets.length + ip.source.octets.length = 40 := by
    rw [ip.destination.length_octets, ip.source.length_octets]
  have hwritten : overwrite 8 ip.exchanged (filled.take Ipv6.headerLength) ++
      filled.drop Ipv6.headerLength = overwrite 8 ip.exchanged filled :=
    (overwrite_eq_take_append (by rw [Ipv6.Header.length_exchanged]; decide) hindex).symm
  have hexchanged : ip.destination.octets ++ ip.source.octets = ip.exchanged := rfl
  dsimp only
  rw [add_eq (by rw [sizeLimit, Ipv6.headerLength]; omega), ok_bind, slice_min, ok_bind,
    ← Ipv6.Header.announcedLength, ← quotedOctetsV6, hquote, ok_bind]
  dsimp only
  rw [slice_zero hindex, ok_bind, if_neg (by rw [hheader]; decide),
    writeAddresses_eq (by rw [haddresses, hheader]), ok_bind, hexchanged, hwritten]
  refine refreshFront_eq (Nat.le_refl _) ?_
  rw [length_overwrite, hfilled, hwhole]

/-- No patch goes wrong on a template whose buffer has the size of its kind. -/
theorem patch_eq (patch : Patch) (hsized : template.Sized patch.reply) :
    Checked.patch patch template = .ok (patch.onTemplate.run template) := by
  rw [patch.run_onTemplate_eq hsized]
  have hbuffer := hsized.buffer
  have hwhole (hfixed : patch.reply ≠ .icmpUnreachable) :
      template.length = template.buffer.length := by
    rw [hsized.length hfixed, hbuffer]
    revert hfixed
    cases patch.reply <;> decide
  have hlength (hfixed : patch.reply ≠ .icmpUnreachable) : template.length = patch.length :=
    (hsized.length hfixed).trans (Patch.length_eq_initialLength hfixed).symm
  cases patch with
  | tcpReset captured ip tcp payloadLength =>
    rw [← hlength nofun]
    refine patchReset_eq ?_ hbuffer (hwhole nofun) captured tcp payloadLength
    rw [ip.destination.length_octets, ip.source.length_octets]
  | tcpResetV6 captured ip tcp payloadLength =>
    rw [← hlength nofun]
    refine patchReset_eq ?_ hbuffer (hwhole nofun) captured tcp payloadLength
    rw [ip.destination.length_octets, ip.source.length_octets]
  | icmpUnreachable captured ip raw =>
    rw [Patch.length_icmpUnreachable]
    exact patchUnreachable_eq hbuffer captured ip raw
  | icmpv6Unreachable captured ip raw =>
    rw [← hlength nofun]
    exact patchUnreachableV6_eq hbuffer (hwhole nofun) captured ip raw

end PacketRefusal.Checked
