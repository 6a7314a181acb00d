import PacketRefusal.Proofs.Checksum.Refreshing
import PacketRefusal.Proofs.Faults.Access

/-!
# Computing checksums does not go wrong

The computation of the checksums once more, with every access and every sum checked. What the length
fields of a buffer announce is compared with the buffer before it is cut out, so no bound is crossed
(`refresh_eq`), whatever the buffer holds.

The accumulator of a checksum has thirty-two bits. Since a length field has sixteen, it never covers
more than 65535 octets, and with the pseudo-header their words leave room in the accumulator
(`transportSum_eq`). From there on, `fold_eq` keeps it small.
-/

set_option autoImplicit false
set_option relaxedAutoImplicit false

namespace PacketRefusal.Checked

open Bytes Checksum

/-! ### The accumulator -/

def addWords : ℕ → Bytes → Checked ℕ
  | sum, [] => return sum
  | sum, [high] => accumulate sum (256 * high.toNat)
  | sum, high :: low :: rest => do
    addWords (← accumulate sum (256 * high.toNat + low.toNat)) rest

/-- Adds the words of a byte string without the word that has the index `skipped`. -/
def addWordsSkipping (sum skipped : ℕ) (bytes : Bytes) : Checked ℕ := do
  addWords (← addWords sum (bytes.take (2 * skipped))) (bytes.drop (2 * skipped + 2))

theorem eq_add_of_accumulate {sum amount total : ℕ} (hsum : accumulate sum amount = .ok total) :
    total = sum + amount := by
  rw [accumulate] at hsum
  split_ifs at hsum
  cases hsum
  rfl

/-- Adds what exceeds sixteen bits to the low sixteen bits until nothing does. -/
def fold (sum : ℕ) : Checked ℕ :=
  if sum < 65536 then return sum
  else
    match _hfolded : accumulate (sum / 65536) (sum % 65536) with
    | .error fault => .error fault
    | .ok folded => fold folded
termination_by sum
decreasing_by
  have htotal := eq_add_of_accumulate _hfolded
  omega

/-- The complement of a sum, as it is stored. -/
def complement (sum : ℕ) : Checked UInt16 := do
  narrow (65535 - (← fold sum))

/-- Words are added as long as all of them have room. -/
theorem addWords_eq {sum : ℕ} {bytes : Bytes} (hroom : sum + wordSum bytes < accumulatorLimit) :
    addWords sum bytes = .ok (sum + wordSum bytes) := by
  induction bytes using wordSum.induct generalizing sum with
  | case1 => rfl
  | case2 high =>
    rw [wordSum] at hroom ⊢
    rw [addWords, accumulate_eq hroom]
  | case3 high low rest ih =>
    rw [wordSum, ← Nat.add_assoc] at hroom ⊢
    rw [addWords, accumulate_eq (Nat.lt_of_le_of_lt (Nat.le_add_right _ _) hroom), ok_bind,
      ih hroom]

theorem addWordsSkipping_eq {sum skipped : ℕ} {bytes : Bytes}
    (hroom : sum + wordSumSkipping skipped bytes < accumulatorLimit) :
    addWordsSkipping sum skipped bytes = .ok (sum + wordSumSkipping skipped bytes) := by
  rw [wordSumSkipping_eq, ← Nat.add_assoc] at hroom ⊢
  rw [addWordsSkipping, addWords_eq (Nat.lt_of_le_of_lt (Nat.le_add_right _ _) hroom), ok_bind,
    addWords_eq hroom]

/-- An accumulator that did not overflow does not do so while its carries are folded. -/
theorem fold_eq {sum : ℕ} (hsum : sum < accumulatorLimit) : fold sum = .ok (foldCarries sum) := by
  induction sum using foldCarries.induct with
  | case1 sum hsmall =>
    rw [fold, if_pos hsmall, foldCarries, if_pos hsmall]
    rfl
  | case2 sum hlarge ih =>
    have hless : sum / 65536 + sum % 65536 < sum := by omega
    have hroom := Nat.lt_trans hless hsum
    rw [fold, if_neg hlarge, foldCarries, if_neg hlarge, ← ih hroom]
    split
    · next hfolded =>
      rw [accumulate_eq hroom] at hfolded
      cases hfolded
    · next hfolded =>
      rw [accumulate_eq hroom] at hfolded
      cases hfolded
      rfl

/-- The complement of a folded sum fits the field that it is stored in. -/
theorem complement_eq {sum : ℕ} (hsum : sum < accumulatorLimit) :
    complement sum = .ok (.ofNat (65535 - foldCarries sum)) := by
  have hsmall : 65535 - foldCarries sum < UInt16.size :=
    Nat.lt_of_le_of_lt (Nat.sub_le _ _) (by decide)
  rw [complement, fold_eq hsum, ok_bind, narrow_eq hsmall]

/-! ### Room -/

/-- The words of a byte string are half as many as its octets, rounded up. -/
theorem wordSum_le (bytes : Bytes) : wordSum bytes ≤ 65535 * ((bytes.length + 1) / 2) := by
  induction bytes using wordSum.induct with
  | case1 => simp [wordSum]
  | case2 high =>
    have hhigh := high.toNat_lt
    simp only [wordSum, List.length_singleton]
    omega
  | case3 high low rest ih =>
    have hhigh := high.toNat_lt
    have hlow := low.toNat_lt
    simp only [wordSum, List.length_cons]
    omega

theorem wordSumSkipping_le (skipped : ℕ) (bytes : Bytes) :
    wordSumSkipping skipped bytes ≤ 65535 * ((bytes.length + 1) / 2) := by
  have hfront := wordSum_le (bytes.take (2 * skipped))
  have hback := wordSum_le (bytes.drop (2 * skipped + 2))
  rw [List.length_take] at hfront
  rw [List.length_drop] at hback
  rw [wordSumSkipping_eq]
  omega

/-! ### Transport checksums -/

def transportSum (field : Field) (addresses : Bytes) (protocol : UInt8) (transport : Bytes) :
    Checked ℕ :=
  if field.coversPseudoHeader then do
    let sum ← addWords 0 addresses
    let sum ← accumulate sum protocol.toNat
    let sum ← accumulate sum transport.length
    addWordsSkipping sum field.word transport
  else addWordsSkipping 0 field.word transport

/-- Stores the checksum of transport octets, if their protocol has one. -/
def sealTransport (field? : Option Field) (addresses : Bytes) (protocol : UInt8)
    (transport : Bytes) : Checked (Except BuildError Bytes) :=
  match field? with
  | none => return .ok transport
  | some field =>
    if transport.length < field.minimumLength then return .error field.short
    else do
      let stored ← complement (← transportSum field addresses protocol transport)
      return .ok (← write (2 * field.word) (ofWord stored) transport)

variable {addresses transport : Bytes}

/-- Addresses, protocol number, length and transport octets have room in the accumulator. -/
theorem transportSum_eq (field : Field) (haddresses : addresses.length ≤ 32) (protocol : UInt8)
    (hlength : transport.length ≤ 65535) :
    transportSum field addresses protocol transport =
        .ok (field.added addresses protocol transport.length +
          wordSumSkipping field.word transport) ∧
      field.added addresses protocol transport.length + wordSumSkipping field.word transport <
        accumulatorLimit := by
  have hwords := wordSumSkipping_le field.word transport
  have haddressWords := wordSum_le addresses
  have hprotocol := protocol.toNat_lt
  have hlimit : accumulatorLimit = 4294967296 := rfl
  rw [transportSum, Field.added]
  split_ifs
  · rw [pseudoHeaderSum]
    refine ⟨?_, by omega⟩
    rw [addWords_eq (by omega), ok_bind, Nat.zero_add, accumulate_eq (by omega), ok_bind,
      accumulate_eq (by omega), ok_bind, addWordsSkipping_eq (by omega)]
  · exact ⟨addWordsSkipping_eq (by omega), by omega⟩

/-- The checksum of transport octets is stored within them, or they are too few for it and are left
alone. -/
theorem sealTransport_cases {field? : Option Field}
    (hword : ∀ field ∈ field?, 2 * field.word + 2 ≤ field.minimumLength)
    (haddresses : addresses.length ≤ 32) (protocol : UInt8) (hlength : transport.length ≤ 65535)
    (header rest : Bytes) :
    let outcome := (refreshTransport field? addresses protocol header.length
      (header.length + transport.length)).run (header ++ transport ++ rest)
    (∃ error, sealTransport field? addresses protocol transport = .ok (.error error) ∧
        outcome = .error error (header ++ transport ++ rest)) ∨
      ∃ stored, sealTransport field? addresses protocol transport = .ok (.ok stored) ∧
        stored.length = transport.length ∧ outcome = .ok () (header ++ stored ++ rest) := by
  intro outcome
  by_cases hcovers : Covers field? transport
  · refine Or.inr ⟨_, ?_, length_sealTransport field? addresses protocol transport,
      run_refreshTransport_append hcovers addresses protocol header rest⟩
    cases field? with
    | none => rfl
    | some field =>
      obtain ⟨hsum, hroom⟩ := transportSum_eq field haddresses protocol hlength
      obtain ⟨hword, hminimum⟩ := hcovers field rfl
      rw [sealTransport, if_neg (Nat.not_lt.mpr hminimum), hsum, ok_bind, complement_eq hroom,
        ok_bind, write_eq (Nat.le_trans hword hminimum)]
      rfl
  · cases field? with
    | none => exact (hcovers nofun).elim
    | some field =>
      have hshort : transport.length < field.minimumLength := by
        by_contra hlong
        refine hcovers fun other hother ↦ ?_
        cases hother
        exact ⟨hword field rfl, Nat.le_of_not_lt hlong⟩
      refine Or.inl ⟨field.short, if_pos hshort, ?_⟩
      have htransport : ((header ++ transport ++ rest).take
          (header.length + transport.length)).drop header.length = transport := by
        simp [List.take_append]
      simp only [outcome, run_refreshTransport, htransport, if_pos hshort]

/-! ### Packets -/

/-- What computing the checksums of a packet leads to. -/
abbrev Refreshed := EStateM.Result BuildError Bytes Unit

/-- Recomputes the checksums of an IPv4 packet whose lengths have been compared. -/
def refreshIpv4Parts (field? : Option Field) (addresses : Bytes) (protocol : UInt8)
    (headerLength totalLength : ℕ) (packet : Bytes) : Checked Refreshed := do
  let (header, transport) ← split (← slice packet 0 totalLength) headerLength
  match ← sealTransport field? addresses protocol transport with
  | .error error => return .error error packet
  | .ok transport =>
    let packet ← write 0 (header ++ transport) packet
    if header.length < Ipv4.minimumHeaderLength then return .error .shortIpv4 packet
    else do
      let stored ← complement (← addWordsSkipping 0 5 header)
      return .ok () (← write 0 (← write 10 (ofWord stored) header) packet)

def refreshIpv4 (packet : Bytes) : Checked Refreshed :=
  if packet.length < Ipv4.minimumHeaderLength then return .error .shortIpv4 packet
  else do
    let headerLength ← multiply (lowNibble (← octet packet 0)) 4
    let totalLength := (← word packet 2).toNat
    let protocol ← octet packet 9
    let addresses ← slice packet 12 20
    if headerLength < Ipv4.minimumHeaderLength ∨ totalLength < headerLength ∨
        packet.length < totalLength then return .error .ipv4Lengths packet
    else
      refreshIpv4Parts (fieldOverIpv4? protocol) addresses protocol headerLength totalLength packet

def refreshIpv6 (packet : Bytes) : Checked Refreshed :=
  if packet.length < Ipv6.headerLength then return .error .shortIpv6 packet
  else do
    let announced ← add Ipv6.headerLength (← word packet 4).toNat
    let protocol ← octet packet 6
    let addresses ← slice packet 8 40
    if packet.length < announced then return .error .ipv6Lengths packet
    else do
      let transport ← slice packet Ipv6.headerLength announced
      match ← sealTransport (fieldOverIpv6? protocol) addresses protocol transport with
      | .error error => return .error error packet
      | .ok transport => return .ok () (← write Ipv6.headerLength transport packet)

def refresh (packet : Bytes) : Checked Refreshed :=
  match packet.head?.map highNibble with
  | some 4 => refreshIpv4 packet
  | some 6 => refreshIpv6 packet
  | _ => return .error .unknownVersion packet

variable {packet header rest : Bytes}

/-- Replacing the octets between a front part and a rest by as many. -/
theorem write_middle {front old new : Bytes} {offset : ℕ} (hoffset : front.length = offset)
    (hlength : old.length = new.length) (rest : Bytes) :
    write offset new (front ++ old ++ rest) = .ok (front ++ new ++ rest) := by
  rw [write_eq (by simp only [List.length_append]; omega), overwrite_append_middle hoffset hlength]

/-- Replacing the octets in front of a rest by as many. -/
theorem write_front {old new : Bytes} (hlength : old.length = new.length) (rest : Bytes) :
    write 0 new (old ++ rest) = .ok (new ++ rest) := by
  have hfit : 0 + new.length ≤ (old ++ rest).length := by
    rw [List.length_append]
    omega
  rw [write_eq hfit, overwrite_eq _ _ _ hfit, Nat.zero_add, List.take_zero, List.nil_append,
    List.drop_left' hlength]

/-- A header and the octets behind it are cut apart, get their checksums and are put back. -/
theorem refreshIpv4Parts_eq {field? : Option Field}
    (hword : ∀ field ∈ field?, 2 * field.word + 2 ≤ field.minimumLength)
    (haddresses : addresses.length ≤ 32) (protocol : UInt8)
    (hheader : Ipv4.minimumHeaderLength ≤ header.length)
    (htotal : header.length + transport.length ≤ 65535) (rest : Bytes) :
    refreshIpv4Parts field? addresses protocol header.length (header.length + transport.length)
        (header ++ transport ++ rest) = .ok
      (match (refreshTransport field? addresses protocol header.length
          (header.length + transport.length)).run (header ++ transport ++ rest) with
      | .ok _ refreshed => (Checksum.refreshIpv4Header header.length).run refreshed
      | .error error refreshed => .error error refreshed) := by
  have hfront : (header ++ transport ++ rest).take (header.length + transport.length) =
      header ++ transport := List.take_left' List.length_append
  have hminimum : 20 ≤ header.length := hheader
  have htransport : transport.length ≤ 65535 := by omega
  rw [refreshIpv4Parts, slice_zero (by simp), ok_bind, hfront, split_eq (by simp), ok_bind,
    List.take_left, List.drop_left]
  dsimp only
  rcases sealTransport_cases hword haddresses protocol htransport header rest with
    ⟨error, hsealed, houtcome⟩ | ⟨stored, hsealed, hlength, houtcome⟩
  · rw [hsealed, houtcome]
    rfl
  · have hwords := wordSumSkipping_le 5 header
    have hsum : 0 + wordSumSkipping 5 header < accumulatorLimit := by
      rw [accumulatorLimit]
      omega
    have hfit : 10 + 2 ≤ header.length := by omega
    rw [hsealed, houtcome, ok_bind]
    dsimp only
    rw [write_front (by simp [hlength]), ok_bind, if_neg (Nat.not_lt.mpr hheader),
      addWordsSkipping_eq hsum, ok_bind, complement_eq hsum, ok_bind, write_eq hfit, ok_bind,
      List.append_assoc, write_front (by simp), run_refreshIpv4Header_append hheader]
    rfl

/-- Computing the checksums of an IPv4 packet stays within the lengths that were compared. -/
theorem refreshIpv4_eq (packet : Bytes) :
    refreshIpv4 packet = .ok (Checksum.refreshIpv4.run packet) := by
  have hwords : lowNibble (octetAt packet 0) < 16 := Nat.mod_lt _ (by decide)
  rw [refreshIpv4, run_refreshIpv4]
  by_cases hshort : packet.length < Ipv4.minimumHeaderLength
  · rw [if_pos hshort, if_pos hshort]
    rfl
  have hminimum : 20 ≤ packet.length := Nat.le_of_not_lt hshort
  have haddresses : (packet.take 20).drop 12 = (packet.drop 12).take 8 := List.drop_take
  rw [if_neg hshort, if_neg hshort, octet_eq (by omega), ok_bind,
    multiply_eq (by rw [sizeLimit]; omega), ok_bind, word_eq (by omega), ok_bind,
    octet_eq (by omega), ok_bind, slice_eq (by decide) hminimum, ok_bind, haddresses, Nat.mul_comm]
  by_cases hlengths : 4 * lowNibble (octetAt packet 0) < Ipv4.minimumHeaderLength ∨
      (wordAt packet 2).toNat < 4 * lowNibble (octetAt packet 0) ∨
      packet.length < (wordAt packet 2).toNat
  · rw [if_pos hlengths, if_pos hlengths]
    rfl
  rw [if_neg hlengths, if_neg hlengths]
  rw [not_or, not_or, Nat.not_lt, Nat.not_lt, Nat.not_lt] at hlengths
  obtain ⟨hheader, horder, hstop⟩ := hlengths
  have htotal := (wordAt packet 2).toNat_lt
  obtain ⟨header, transport, rest, hpacket, -, hstart, hend⟩ := exists_parts horder hstop
  have hannounced : header.length + transport.length ≤ 65535 := by omega
  have haddressLength : ((packet.drop 12).take 8).length ≤ 32 := by
    rw [List.length_take]
    omega
  have hword : ∀ field ∈ fieldOverIpv4? (octetAt packet 9),
      2 * field.word + 2 ≤ field.minimumLength := fun _ ↦ word_le_of_mem_fieldOverIpv4?
  have hparts := refreshIpv4Parts_eq hword haddressLength (octetAt packet 9)
    (hstart.symm ▸ hheader) hannounced rest
  rw [← hpacket, hend, hstart] at hparts
  exact hparts

/-- Computing the checksum behind an IPv6 header stays within the announced length. -/
theorem refreshIpv6_eq (packet : Bytes) :
    refreshIpv6 packet = .ok (Checksum.refreshIpv6.run packet) := by
  have hpayload := (wordAt packet 4).toNat_lt
  rw [refreshIpv6, run_refreshIpv6]
  by_cases hshort : packet.length < Ipv6.headerLength
  · rw [if_pos hshort, if_pos hshort]
    rfl
  have hminimum : 40 ≤ packet.length := Nat.le_of_not_lt hshort
  have haddresses : (packet.take 40).drop 8 = (packet.drop 8).take 32 := List.drop_take
  rw [if_neg hshort, if_neg hshort, word_eq (by omega), ok_bind,
    add_eq (by rw [sizeLimit, Ipv6.headerLength]; omega), ok_bind, octet_eq (by omega), ok_bind,
    slice_eq (by decide) hminimum, ok_bind, haddresses]
  by_cases hlengths : packet.length < Ipv6.headerLength + (wordAt packet 4).toNat
  · rw [if_pos hlengths, if_pos hlengths]
    rfl
  have horder : Ipv6.headerLength ≤ Ipv6.headerLength + (wordAt packet 4).toNat :=
    Nat.le_add_right _ _
  rw [if_neg hlengths, if_neg hlengths]
  rw [Nat.not_lt] at hlengths
  obtain ⟨header, transport, rest, hpacket, hcut, hstart, hend⟩ := exists_parts horder hlengths
  have haddressLength : ((packet.drop 8).take 32).length ≤ 32 := List.length_take_le _ _
  have htransport : transport.length ≤ 65535 := by omega
  have hword : ∀ field ∈ fieldOverIpv6? (octetAt packet 6),
      2 * field.word + 2 ≤ field.minimumLength := fun _ ↦ word_le_of_mem_fieldOverIpv6?
  have hcases := sealTransport_cases hword haddressLength (octetAt packet 6) htransport header rest
  rw [hend, hstart, ← hpacket] at hcases
  rw [slice_eq horder hlengths, hcut, ok_bind]
  rcases hcases with ⟨error, hsealed, houtcome⟩ | ⟨stored, hsealed, hlength, houtcome⟩
  · rw [hsealed, houtcome]
    rfl
  · have hwrite := write_middle hstart hlength.symm rest
    rw [← hpacket] at hwrite
    rw [hsealed, houtcome, ok_bind]
    dsimp only
    rw [hwrite]
    rfl

/-- Computing checksums does not go wrong on any buffer. -/
theorem refresh_eq (packet : Bytes) : refresh packet = .ok (Checksum.refresh.run packet) := by
  rw [refresh, run_refresh, refreshIpv4_eq, refreshIpv6_eq]
  generalize packet.head?.map highNibble = version
  by_cases hfour : version = some 4
  · subst hfour
    rfl
  by_cases hsix : version = some 6
  · subst hsix
    rfl
  simp only
  rfl

end PacketRefusal.Checked
