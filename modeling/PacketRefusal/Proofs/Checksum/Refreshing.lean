import PacketRefusal.Checksum.Refresh
import PacketRefusal.Proofs.Checksum.Verification

/-!
# What computing the checksums makes of a packet

A packet whose checksums can be computed is a header and the transport octets that it announces,
with further octets behind them that belong to no packet. `Ipv4Layout` and `Ipv6Layout` say what
must hold of the header and of the transport octets, and `sealIpv4` and `sealIpv6` what becomes of
them: a checksum is stored in the header of IPv4 and in the transport octets, and nothing else
changes.

`run_refresh_ipv4` and `run_refresh_ipv6` say that `refresh` does this in place, for every buffer
that agrees with the layout except in the words where checksums are stored: what stands there before
has no part in the result. They rest on `run_refreshTransport_append` for the transport octets.
-/

set_option autoImplicit false
set_option relaxedAutoImplicit false

namespace PacketRefusal.Checksum

open Bytes

variable {header transport rest packet : Bytes}

/-! ### Transport octets -/

/-- What is added to the sum of the transport octets. -/
def Field.added (field : Field) (addresses : Bytes) (protocol : UInt8) (length : ℕ) : ℕ :=
  if field.coversPseudoHeader then pseudoHeaderSum addresses protocol length else 0

/-- The transport octets with their checksum stored, if their protocol has one. -/
def sealTransport (field? : Option Field) (addresses : Bytes) (protocol : UInt8)
    (transport : Bytes) : Bytes :=
  field?.elim transport fun field ↦
    store (field.added addresses protocol transport.length) field.word transport

@[simp] theorem length_sealTransport (field? : Option Field) (addresses : Bytes)
    (protocol : UInt8) (transport : Bytes) :
    (sealTransport field? addresses protocol transport).length = transport.length := by
  cases field? <;> simp [sealTransport]

/-- The octets behind a header reach to the end of the checksum that their protocol keeps. -/
def Covers (field? : Option Field) (transport : Bytes) : Prop :=
  ∀ field ∈ field?, 2 * field.word + 2 ≤ field.minimumLength ∧
    field.minimumLength ≤ transport.length

def transportPositions (field? : Option Field) (start : ℕ) : Set ℕ :=
  {index | ∃ field ∈ field?, index ∈ Set.Ico (start + 2 * field.word) (start + 2 * field.word + 2)}

theorem image_transportPositions_subset (field? : Option Field) (start : ℕ) :
    (start + ·) '' transportPositions field? 0 ⊆ transportPositions field? start := by
  rintro _ ⟨index, ⟨field, hfield, hindex⟩, rfl⟩
  refine ⟨field, hfield, ?_⟩
  simp only [Set.mem_Ico] at hindex ⊢
  omega

/-- Storing the transport checksum changes no other octet. -/
theorem agreeExcept_sealTransport (field? : Option Field) (addresses : Bytes) (protocol : UInt8)
    (transport : Bytes) :
    AgreeExcept (transportPositions field? 0) (sealTransport field? addresses protocol transport)
      transport := by
  cases field? with
  | none => exact .refl _ transport
  | some field =>
    refine (agreeExcept_store _ field.word transport).mono fun index hindex ↦ ⟨field, rfl, ?_⟩
    simpa [wordPositions] using hindex

/-- What stood in the word of the transport checksum is forgotten. -/
theorem sealTransport_congr {field? : Option Field} {first second : Bytes}
    (hagree : AgreeExcept (transportPositions field? 0) first second) (addresses : Bytes)
    (protocol : UInt8) :
    sealTransport field? addresses protocol first =
      sealTransport field? addresses protocol second := by
  cases field? with
  | none => exact hagree.eq_of_subset_empty fun index ⟨field, hfield, _⟩ ↦ by simp at hfield
  | some field =>
    have hword : AgreeExcept (wordPositions field.word) first second := by
      refine hagree.mono fun index ⟨other, hother, hindex⟩ ↦ ?_
      obtain rfl : field = other := by simpa using hother
      simpa [wordPositions] using hindex
    simp only [sealTransport, Option.elim_some, hagree.length_eq]
    exact store_congr hword _

/-- Storing the transport checksum changes the transport octets and nothing around them. -/
theorem run_refreshTransport_append {field? : Option Field}
    (hcovers : Covers field? transport) (addresses : Bytes) (protocol : UInt8)
    (header rest : Bytes) :
    (refreshTransport field? addresses protocol header.length
        (header.length + transport.length)).run (header ++ transport ++ rest) =
      .ok () (header ++ sealTransport field? addresses protocol transport ++ rest) := by
  have htransport : ((header ++ transport ++ rest).take (header.length + transport.length)).drop
      header.length = transport := by
    simp [List.take_append]
  rw [run_refreshTransport]
  cases field? with
  | none => rfl
  | some field =>
    obtain ⟨hword, hlength⟩ := hcovers field rfl
    have hwrite (word : UInt16) :
        overwrite (header.length + 2 * field.word) (ofWord word) (header ++ transport ++ rest) =
          header ++ overwrite (2 * field.word) (ofWord word) transport ++ rest := by
      rw [List.append_assoc, overwrite_append_right,
        overwrite_append_left (by simp only [length_ofWord]; omega), List.append_assoc]
    simp only [htransport, if_neg (Nat.not_lt.mpr hlength), hwrite]
    rfl

/-- A buffer that agrees with a header, transport octets and a rest except in checksums has three
such parts itself, and the same rest. -/
theorem split_packet {own : Set ℕ} {field? : Option Field}
    (hagree : AgreeExcept (own ∪ transportPositions field? header.length) packet
      (header ++ transport ++ rest))
    (hown : own ⊆ Set.Iio header.length) (hcovers : Covers field? transport) :
    ∃ header' transport', packet = header' ++ transport' ++ rest ∧
      AgreeExcept own header' header ∧
      AgreeExcept (transportPositions field? 0) transport' transport := by
  rw [List.append_assoc] at hagree
  obtain ⟨header', behind, rfl, hheader, hbehind⟩ := hagree.split
  obtain ⟨transport', rest', rfl, htransport, hrest⟩ := hbehind.split
  refine ⟨header', transport', ?_, hheader.mono ?_, htransport.mono ?_⟩
  · rw [List.append_assoc, hrest.eq_of_subset_empty]
    rintro index (hindex | ⟨field, hfield, hindex⟩)
    · have hlength := hown hindex
      simp only [Set.mem_Iio] at hlength
      omega
    · have hlength := hcovers field hfield
      simp only [Set.mem_Ico] at hindex
      omega
  · rintro index ⟨hindex | ⟨field, hfield, hindex⟩, hlength⟩
    · exact hindex
    · simp only [Set.mem_Ico, Set.mem_Iio] at hindex hlength
      omega
  · rintro index ⟨hindex | ⟨field, hfield, hindex⟩, -⟩
    · have hlength := hown hindex
      simp only [Set.mem_Iio] at hlength
      omega
    · exact ⟨field, hfield, by simp only [Set.mem_Ico] at hindex ⊢; omega⟩

theorem run_refresh (packet : Bytes) :
    refresh.run packet =
      match packet.head?.map highNibble with
      | some 4 => refreshIpv4.run packet
      | some 6 => refreshIpv6.run packet
      | _ => .error .unknownVersion packet := by
  unfold refresh
  simp only [EStateM.run_bind, EStateM.run_get]
  cases packet.head?.map highNibble with
  | none => rfl
  | some version =>
    by_cases hfour : version = 4
    · subst hfour
      rfl
    · by_cases hsix : version = 6
      · subst hsix
        rfl
      · simp [hfour, hsix]

/-! ### IPv4 -/

/-- Every transport checksum over IPv4 lies within the octets that its protocol requires. -/
theorem word_le_of_mem_fieldOverIpv4? {protocol : UInt8} {field : Field}
    (hfield : field ∈ fieldOverIpv4? protocol) : 2 * field.word + 2 ≤ field.minimumLength := by
  simp only [fieldOverIpv4?, Option.mem_def] at hfield
  split_ifs at hfield <;> cases hfield <;> decide

/-- A header and transport octets that form a packet over IPv4 whose checksums can be computed. -/
structure Ipv4Layout (header transport : Bytes) : Prop where
  version : highNibble (octetAt header 0) = 4
  headerLength : 4 * lowNibble (octetAt header 0) = header.length
  minimumLength : Ipv4.minimumHeaderLength ≤ header.length
  totalLength : (wordAt header 2).toNat = header.length + transport.length
  transportLength : ∀ field ∈ fieldOverIpv4? (octetAt header 9),
    field.minimumLength ≤ transport.length

/-- A header and transport octets with the checksums of a packet over IPv4. -/
def sealIpv4 (header transport : Bytes) : Bytes :=
  store 0 5 header ++
    sealTransport (fieldOverIpv4? (octetAt header 9)) ((header.drop 12).take 8) (octetAt header 9)
      transport

def ipv4Positions (header : Bytes) : Set ℕ :=
  wordPositions 5 ∪ transportPositions (fieldOverIpv4? (octetAt header 9)) header.length

namespace Ipv4Layout

theorem covers (hlayout : Ipv4Layout header transport) :
    Covers (fieldOverIpv4? (octetAt header 9)) transport := fun field hfield ↦
  ⟨word_le_of_mem_fieldOverIpv4? hfield, hlayout.transportLength field hfield⟩

/-- The fixed part of the header is read at the start of a packet. -/
theorem octetAt_eq (hlayout : Ipv4Layout header transport) (rest : Bytes) {index : ℕ}
    (hindex : index < Ipv4.minimumHeaderLength) :
    octetAt (header ++ transport ++ rest) index = octetAt header index :=
  octetAt_append_append transport rest (Nat.lt_of_lt_of_le hindex hlayout.minimumLength)

/-- The octets of a header that say how the packet is laid out are no checksum. -/
theorem congr {other otherTransport : Bytes} (hlayout : Ipv4Layout header transport)
    (hheader : AgreeExcept (wordPositions 5) other header)
    (hlength : otherTransport.length = transport.length) : Ipv4Layout other otherTransport where
  version := by rw [hheader.octetAt_eq (by simp [wordPositions]), hlayout.version]
  headerLength := by
    rw [hheader.octetAt_eq (by simp [wordPositions]), hlayout.headerLength, hheader.length_eq]
  minimumLength := by rw [hheader.length_eq]; exact hlayout.minimumLength
  totalLength := by
    rw [hheader.wordAt_eq (by simp [wordPositions]) (by simp [wordPositions]),
      hlayout.totalLength, hheader.length_eq, hlength]
  transportLength := by
    rw [hheader.octetAt_eq (by simp [wordPositions]), hlength]
    exact hlayout.transportLength

end Ipv4Layout

/-- What stood in the words of the checksums is forgotten. -/
theorem sealIpv4_congr {other otherTransport : Bytes}
    (hheader : AgreeExcept (wordPositions 5) other header)
    (htransport : AgreeExcept (transportPositions (fieldOverIpv4? (octetAt header 9)) 0)
      otherTransport transport) :
    sealIpv4 other otherTransport = sealIpv4 header transport := by
  have haddresses : (other.drop 12).take 8 = (header.drop 12).take 8 := by
    refine congrArg (List.take 8) ((hheader.drop 12).eq_of_subset_empty fun index hindex ↦ ?_)
    simp only [wordPositions, Set.mem_ofPred_eq, Set.mem_Ico] at hindex
    omega
  rw [sealIpv4, sealIpv4, hheader.octetAt_eq (by simp [wordPositions]), haddresses,
    store_congr hheader, sealTransport_congr htransport]

/-- Sealing a packet over IPv4 changes its checksums and nothing else. -/
theorem agreeExcept_sealIpv4 (header transport : Bytes) :
    AgreeExcept (ipv4Positions header) (sealIpv4 header transport) (header ++ transport) :=
  ((agreeExcept_store 0 5 header).append (agreeExcept_sealTransport _ _ _ transport)).mono
    (Set.union_subset_union_right _ (image_transportPositions_subset _ _))

/-- Storing the header checksum changes the header and nothing behind it. -/
theorem run_refreshIpv4Header_append (hminimum : Ipv4.minimumHeaderLength ≤ header.length)
    (octets : Bytes) :
    (refreshIpv4Header header.length).run (header ++ octets) =
      .ok () (store 0 5 header ++ octets) := by
  have hfit : 10 + 2 ≤ header.length := Nat.le_trans (by decide) hminimum
  rw [run_refreshIpv4Header, List.take_left, if_neg (Nat.not_lt.mpr hminimum),
    overwrite_append_left hfit]
  rfl

theorem run_refreshIpv4_append (hlayout : Ipv4Layout header transport) (rest : Bytes) :
    refreshIpv4.run (header ++ transport ++ rest) = .ok () (sealIpv4 header transport ++ rest) := by
  have hminimum : 20 ≤ header.length := hlayout.minimumLength
  have hlength : header.length + transport.length = (wordAt header 2).toNat :=
    hlayout.totalLength.symm
  have htotal : wordAt (header ++ transport ++ rest) 2 = wordAt header 2 := by
    rw [List.append_assoc, wordAt_append_left (by omega)]
  have haddresses : ((header ++ transport ++ rest).drop 12).take 8 = (header.drop 12).take 8 := by
    rw [List.append_assoc, List.drop_append_of_le_length (by omega),
      List.take_append_of_le_length (by simp; omega)]
  rw [run_refreshIpv4, hlayout.octetAt_eq rest (by decide), hlayout.octetAt_eq rest (by decide),
    htotal, haddresses, hlayout.headerLength, ← hlength,
    if_neg (by simp [Ipv4.minimumHeaderLength]; omega),
    if_neg (by simp [Ipv4.minimumHeaderLength]; omega),
    run_refreshTransport_append hlayout.covers]
  dsimp only
  rw [List.append_assoc, run_refreshIpv4Header_append hlayout.minimumLength, sealIpv4,
    List.append_assoc]

/-- Computing the checksums of a packet over IPv4 anew stores them in the header and in the
transport octets. What stood there before and what stands behind the packet have no part in it. -/
theorem run_refresh_ipv4 (hlayout : Ipv4Layout header transport)
    (hagree : AgreeExcept (ipv4Positions header) packet (header ++ transport ++ rest)) :
    refresh.run packet = .ok () (sealIpv4 header transport ++ rest) := by
  have hminimum : 20 ≤ header.length := hlayout.minimumLength
  obtain ⟨header', transport', rfl, hheader, htransport⟩ :=
    split_packet hagree (fun index hindex ↦ by
      simp only [wordPositions, Set.mem_Ico, Set.mem_Iio] at hindex ⊢
      omega) hlayout.covers
  have hlayout' := hlayout.congr hheader htransport.length_eq
  have hversion : (header' ++ transport' ++ rest).head?.map highNibble = some 4 := by
    rw [List.append_assoc, head?_eq_octetAt (by simp [hheader.length_eq]; omega),
      octetAt_append_left (by rw [hheader.length_eq]; omega), Option.map_some, hlayout'.version]
  simp only [run_refresh, hversion]
  rw [run_refreshIpv4_append hlayout', sealIpv4_congr hheader htransport]

/-! ### IPv6 -/

/-- Every transport checksum over IPv6 lies within the octets that its protocol requires. -/
theorem word_le_of_mem_fieldOverIpv6? {protocol : UInt8} {field : Field}
    (hfield : field ∈ fieldOverIpv6? protocol) : 2 * field.word + 2 ≤ field.minimumLength := by
  simp only [fieldOverIpv6?, Option.mem_def] at hfield
  split_ifs at hfield <;> cases hfield <;> decide

/-- A header and transport octets that form a packet over IPv6 whose checksum can be computed. -/
structure Ipv6Layout (header transport : Bytes) : Prop where
  version : highNibble (octetAt header 0) = 6
  headerLength : header.length = Ipv6.headerLength
  payloadLength : (wordAt header 4).toNat = transport.length
  transportLength : ∀ field ∈ fieldOverIpv6? (octetAt header 6),
    field.minimumLength ≤ transport.length

/-- A header and transport octets with the checksum of a packet over IPv6. -/
def sealIpv6 (header transport : Bytes) : Bytes :=
  header ++
    sealTransport (fieldOverIpv6? (octetAt header 6)) ((header.drop 8).take 32) (octetAt header 6)
      transport

def ipv6Positions (header : Bytes) : Set ℕ :=
  transportPositions (fieldOverIpv6? (octetAt header 6)) header.length

/-- The header is read at the start of a packet. -/
theorem Ipv6Layout.octetAt_eq (hlayout : Ipv6Layout header transport) (rest : Bytes) {index : ℕ}
    (hindex : index < Ipv6.headerLength) :
    octetAt (header ++ transport ++ rest) index = octetAt header index :=
  octetAt_append_append transport rest (Nat.lt_of_lt_of_eq hindex hlayout.headerLength.symm)

theorem Ipv6Layout.covers (hlayout : Ipv6Layout header transport) :
    Covers (fieldOverIpv6? (octetAt header 6)) transport := fun field hfield ↦
  ⟨word_le_of_mem_fieldOverIpv6? hfield, hlayout.transportLength field hfield⟩

/-- Sealing a packet over IPv6 changes its checksum and nothing else. -/
theorem agreeExcept_sealIpv6 (header transport : Bytes) :
    AgreeExcept (ipv6Positions header) (sealIpv6 header transport) (header ++ transport) :=
  ((agreeExcept_sealTransport _ _ _ transport).append_front header).mono
    (image_transportPositions_subset _ _)

theorem run_refreshIpv6_append (hlayout : Ipv6Layout header transport) (rest : Bytes) :
    refreshIpv6.run (header ++ transport ++ rest) = .ok () (sealIpv6 header transport ++ rest) := by
  have hheader : header.length = 40 := hlayout.headerLength
  have hpayload : (wordAt (header ++ transport ++ rest) 4).toNat = transport.length := by
    rw [List.append_assoc, wordAt_append_left (by omega), hlayout.payloadLength]
  have haddresses : ((header ++ transport ++ rest).drop 8).take 32 = (header.drop 8).take 32 := by
    rw [List.append_assoc, List.drop_append_of_le_length (by omega),
      List.take_append_of_le_length (by simp; omega)]
  rw [run_refreshIpv6, hlayout.octetAt_eq rest (by decide), hpayload, haddresses,
    if_neg (by simp [Ipv6.headerLength]; omega),
    if_neg (by simp [Ipv6.headerLength]; omega), ← hlayout.headerLength,
    run_refreshTransport_append hlayout.covers, sealIpv6]

/-- Computing the checksum of a packet over IPv6 anew stores it in the transport octets. What stood
there before and what stands behind the packet have no part in it. -/
theorem run_refresh_ipv6 (hlayout : Ipv6Layout header transport)
    (hagree : AgreeExcept (ipv6Positions header) packet (header ++ transport ++ rest)) :
    refresh.run packet = .ok () (sealIpv6 header transport ++ rest) := by
  have hlength : header.length = 40 := hlayout.headerLength
  obtain ⟨header', transport', rfl, hheader, htransport⟩ :=
    split_packet (Set.empty_union (ipv6Positions header) ▸ hagree) (Set.empty_subset _)
      hlayout.covers
  obtain rfl : header' = header := hheader.eq_of_subset_empty subset_rfl
  have hlayout' : Ipv6Layout header' transport' :=
    ⟨hlayout.version, hlayout.headerLength, htransport.length_eq ▸ hlayout.payloadLength,
      htransport.length_eq ▸ hlayout.transportLength⟩
  have hversion : (header' ++ transport' ++ rest).head?.map highNibble = some 6 := by
    rw [List.append_assoc, head?_eq_octetAt (by simp; omega), octetAt_append_left (by omega),
      Option.map_some, hlayout.version]
  simp only [run_refresh, hversion]
  rw [run_refreshIpv6_append hlayout', sealIpv6, sealIpv6, sealTransport_congr htransport]

end PacketRefusal.Checksum
