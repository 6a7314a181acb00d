import PacketRefusal.Proofs.Bytes.Agreement
import PacketRefusal.Proofs.Packet.Parsing

/-!
# Headers of packets that agree

A header is read from few positions. Two byte strings that agree in these have the same header
(`Ipv4.Header.read_eq`, `Ipv6.Header.read_eq`, `Tcp.Header.read_eq`, `Udp.Header.read_eq`), and
either both start with one or neither does. In particular no header depends on a checksum.

The octets behind a transport header are only counted. `Packet.addTransport_congr` says that octets
which agree where their transport header is read lead to the same packet.
-/

set_option autoImplicit false
set_option relaxedAutoImplicit false

namespace PacketRefusal

open Bytes

variable {stale : Set ℕ} {first second : Bytes}

namespace Ipv4

theorem Address.read_eq (hagree : AgreeExcept stale first second) {offset : ℕ}
    (hother : ∀ index ∈ Set.Ico offset (offset + 4), index ∉ stale) :
    read first offset = read second offset := by
  simp only [read, hagree.fit_drop_eq hother]

namespace Header

/-- An IPv4 header does not depend on its checksum, nor on its options. -/
theorem read_eq (hagree : AgreeExcept stale first second)
    (hstale : ∀ index ∈ stale, index = 10 ∨ index = 11 ∨ 20 ≤ index) :
    read first = read second := by
  have hother (index : ℕ) (hindex : index < 10 ∨ 12 ≤ index ∧ index < 20) : index ∉ stale :=
    fun hmem ↦ by have hposition := hstale index hmem; omega
  have hoctet (index : ℕ) (hindex : index < 10) : octetAt first index = octetAt second index :=
    hagree.octetAt_eq (hother index (Or.inl hindex))
  have hword (index : ℕ) (hindex : index < 9) : wordAt first index = wordAt second index :=
    hagree.wordAt_eq (hother index (by omega)) (hother (index + 1) (by omega))
  have haddress (offset : ℕ) (hoffset : 12 ≤ offset ∧ offset + 4 ≤ 20) :
      Address.read first offset = Address.read second offset :=
    Address.read_eq hagree fun index hindex ↦ hother index (by
      rw [Set.mem_Ico] at hindex
      omega)
  rw [read, read, hoctet 0 (by decide), hoctet 9 (by decide), hword 2 (by decide),
    hword 6 (by decide), haddress 12 (by decide), haddress 16 (by decide)]

theorem starts_iff (hagree : AgreeExcept stale first second)
    (hstale : ∀ index ∈ stale, index = 10 ∨ index = 11 ∨ 20 ≤ index) :
    Starts first ↔ Starts second := by
  have hother (index : ℕ) (hindex : index < 10) : index ∉ stale :=
    fun hmem ↦ by have hposition := hstale index hmem; omega
  rw [Starts, Starts, hagree.length_eq, hagree.octetAt_eq (hother 0 (by decide)),
    hagree.wordAt_eq (hother 2 (by decide)) (hother 3 (by decide))]

/-- The octets behind two IPv4 headers agree where the packets do. -/
theorem agreeExcept_behind (hagree : AgreeExcept stale first second)
    (hstale : ∀ index ∈ stale, index = 10 ∨ index = 11 ∨ 20 ≤ index) :
    AgreeExcept {index | 4 * lowNibble (octetAt second 0) + index ∈ stale}
      (behind first) (behind second) := by
  have hother (index : ℕ) (hindex : index < 10) : index ∉ stale :=
    fun hmem ↦ by have hposition := hstale index hmem; omega
  rw [behind, behind, hagree.octetAt_eq (hother 0 (by decide)),
    hagree.wordAt_eq (hother 2 (by decide)) (hother 3 (by decide))]
  exact ((hagree.take _).drop _).mono fun index hindex ↦ hindex.1

end Header

end Ipv4

namespace Ipv6

theorem Address.read_eq (hagree : AgreeExcept stale first second) {offset : ℕ}
    (hother : ∀ index ∈ Set.Ico offset (offset + 16), index ∉ stale) :
    read first offset = read second offset := by
  simp only [read, hagree.fit_drop_eq hother]

namespace Header

/-- An IPv6 header does not depend on what stands behind it. -/
theorem read_eq (hagree : AgreeExcept stale first second)
    (hstale : ∀ index ∈ stale, headerLength ≤ index) : read first = read second := by
  have hother (index : ℕ) (hindex : index < headerLength) : index ∉ stale :=
    fun hmem ↦ Nat.not_le_of_lt hindex (hstale index hmem)
  have haddress (offset : ℕ) (hoffset : offset + 16 ≤ headerLength) :
      Address.read first offset = Address.read second offset :=
    Address.read_eq hagree fun index hindex ↦ hother index (by
      rw [Set.mem_Ico] at hindex
      omega)
  rw [read, read, hagree.wordAt_eq (hother 4 (by decide)) (hother 5 (by decide)),
    hagree.octetAt_eq (hother 6 (by decide)), haddress 8 (by decide), haddress 24 (by decide)]

theorem starts_iff (hagree : AgreeExcept stale first second)
    (hstale : ∀ index ∈ stale, headerLength ≤ index) : Starts first ↔ Starts second := by
  have hfirst : 0 ∉ stale := fun hmem ↦ absurd (hstale 0 hmem) (by decide)
  rw [Starts, Starts, hagree.length_eq, hagree.octetAt_eq hfirst]

/-- The octets behind two IPv6 headers agree where the packets do. -/
theorem agreeExcept_behind (hagree : AgreeExcept stale first second)
    (hstale : ∀ index ∈ stale, headerLength ≤ index) :
    AgreeExcept {index | headerLength + index ∈ stale} (behind first) (behind second) := by
  have hother (index : ℕ) (hindex : index < headerLength) : index ∉ stale :=
    fun hmem ↦ Nat.not_le_of_lt hindex (hstale index hmem)
  rw [behind, behind, hagree.wordAt_eq (hother 4 (by decide)) (hother 5 (by decide))]
  exact ((hagree.take _).drop _).mono fun index hindex ↦ hindex.1

end Header

end Ipv6

namespace Tcp.Header

/-- A TCP header does not depend on its window, its checksum and its urgent pointer, nor on its
options. -/
theorem read_eq (hagree : AgreeExcept stale first second) (hstale : ∀ index ∈ stale, 14 ≤ index) :
    read first = read second := by
  have hother (index : ℕ) (hindex : index < 14) : index ∉ stale :=
    fun hmem ↦ Nat.not_le_of_lt hindex (hstale index hmem)
  have hword (index : ℕ) (hindex : index < 13) : wordAt first index = wordAt second index :=
    hagree.wordAt_eq (hother index (by omega)) (hother (index + 1) (by omega))
  have hlong (index : ℕ) (hindex : index < 11) : longAt first index = longAt second index :=
    hagree.longAt_eq fun octet hoctet ↦ hother octet (by
      rw [Set.mem_Ico] at hoctet
      omega)
  rw [read, read, hword 0 (by decide), hword 2 (by decide), hlong 4 (by decide),
    hlong 8 (by decide), hagree.octetAt_eq (hother 13 (by decide))]

theorem announcedLength_eq (hagree : AgreeExcept stale first second)
    (hstale : ∀ index ∈ stale, 14 ≤ index) : announcedLength first = announcedLength second := by
  have hoffset : 12 ∉ stale := fun hmem ↦ absurd (hstale 12 hmem) (by decide)
  rw [announcedLength, announcedLength, hagree.octetAt_eq hoffset]

theorem starts_iff (hagree : AgreeExcept stale first second)
    (hstale : ∀ index ∈ stale, 14 ≤ index) : Starts first ↔ Starts second := by
  rw [Starts, Starts, hagree.length_eq, announcedLength_eq hagree hstale]

/-- Segments that agree in the fields of their header have as much payload. -/
theorem parse?_agree (hagree : AgreeExcept stale first second)
    (hstale : ∀ index ∈ stale, 14 ≤ index) :
    (parse? first).map (Prod.map id List.length) =
      (parse? second).map (Prod.map id List.length) := by
  simp only [parse?, starts_iff hagree hstale, read_eq hagree hstale,
    announcedLength_eq hagree hstale]
  split_ifs
  · simp [hagree.length_eq]
  · rfl

end Tcp.Header

namespace Udp.Header

/-- A UDP header does not depend on its checksum. -/
theorem read_eq (hagree : AgreeExcept stale first second) (hstale : ∀ index ∈ stale, 6 ≤ index) :
    read first = read second := by
  have hword (index : ℕ) (hindex : index < 5) : wordAt first index = wordAt second index :=
    hagree.wordAt_eq (fun hmem ↦ by have hposition := hstale _ hmem; omega)
      fun hmem ↦ by have hposition := hstale _ hmem; omega
  rw [read, read, hword 0 (by decide), hword 2 (by decide)]

theorem announcedLength_eq (hagree : AgreeExcept stale first second)
    (hstale : ∀ index ∈ stale, 6 ≤ index) : announcedLength first = announcedLength second := by
  have hother (index : ℕ) (hindex : index < 6) : index ∉ stale :=
    fun hmem ↦ Nat.not_le_of_lt hindex (hstale index hmem)
  rw [announcedLength, announcedLength,
    hagree.wordAt_eq (hother 4 (by decide)) (hother 5 (by decide))]

theorem starts_iff (hagree : AgreeExcept stale first second)
    (hstale : ∀ index ∈ stale, 6 ≤ index) : Starts first ↔ Starts second := by
  rw [Starts, Starts, hagree.length_eq, announcedLength_eq hagree hstale]

/-- Datagrams that agree in the fields of their header have as much payload. -/
theorem parse?_agree (hagree : AgreeExcept stale first second)
    (hstale : ∀ index ∈ stale, 6 ≤ index) :
    (parse? first).map (Prod.map id List.length) =
      (parse? second).map (Prod.map id List.length) := by
  simp only [parse?, starts_iff hagree hstale, read_eq hagree hstale,
    announcedLength_eq hagree hstale]
  split_ifs
  · simp [hagree.length_eq]
  · rfl

end Udp.Header

/-- Messages that agree in their type and code have as much payload. -/
theorem Icmp.Header.parse?_agree (hagree : AgreeExcept stale first second)
    (hstale : ∀ index ∈ stale, 2 ≤ index) :
    (parse? first).map (Prod.map id List.length) =
      (parse? second).map (Prod.map id List.length) := by
  have hother (index : ℕ) (hindex : index < 2) : index ∉ stale :=
    fun hmem ↦ Nat.not_le_of_lt hindex (hstale index hmem)
  simp only [parse?, hagree.octetAt_eq (hother 0 (by decide)),
    hagree.octetAt_eq (hother 1 (by decide)), hagree.length_eq]
  split_ifs
  · simp [hagree.length_eq]
  · rfl

namespace Packet

/-- Of the octets behind a transport header only the number matters. -/
theorem withTransport_congr {header : Type} (packet : Packet) (add : Headers → header → Headers)
    {found found' : Option (header × Bytes)}
    (hfound : found.map (Prod.map id List.length) = found'.map (Prod.map id List.length)) :
    packet.withTransport add found = packet.withTransport add found' := by
  cases found with
  | none =>
    cases found' with
    | none => rfl
    | some => cases hfound
  | some pair =>
    cases found' with
    | none => cases hfound
    | some pair' =>
      obtain ⟨hheader, hlength⟩ := Prod.mk.inj (Option.some.inj hfound)
      dsimp only [id_eq] at hheader
      simp only [withTransport, hheader, hlength]

/-- Octets that agree where their transport header is read lead to the same packet. -/
theorem addTransport_congr (network : Packet) {protocol : UInt8}
    (hagree : AgreeExcept stale first second)
    (htcp : protocol = Tcp.protocol → ∀ index ∈ stale, 14 ≤ index)
    (hudp : protocol = Udp.protocol → ∀ index ∈ stale, 6 ≤ index)
    (hicmp : ∀ index ∈ stale, 2 ≤ index) :
    network.addTransport protocol first = network.addTransport protocol second := by
  rw [addTransport, addTransport]
  split_ifs with hprotocol hprotocol hprotocol hprotocol
  · exact withTransport_congr network _ (Tcp.Header.parse?_agree hagree (htcp hprotocol))
  · exact withTransport_congr network _ (Udp.Header.parse?_agree hagree (hudp hprotocol))
  · exact withTransport_congr network _ (Icmp.Header.parse?_agree hagree hicmp)
  · exact withTransport_congr network _ (Icmp.Header.parse?_agree hagree hicmp)
  · rw [hagree.length_eq]

end Packet

end PacketRefusal
