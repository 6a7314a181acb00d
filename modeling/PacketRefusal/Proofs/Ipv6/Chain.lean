import PacketRefusal.Ipv6.ExtensionChain
import PacketRefusal.Proofs.Bytes.Append

/-!
# Chains of extension headers

`Ipv6.upperLayer` walks over extension headers octet by octet. `Chain` says what it walks over: a
sequence of complete extension headers, each of which announces the kind of the next one, and the
last of which announces what follows. `upperLayer_append_header` is one step of the walk and
`upperLayer_append_chain` all of its steps over a chain.

`Stop` says where the walk finds something, and `Cut` where it finds that the captured octets do not
go on. `exists_chain_end` takes all octets apart into a chain and the place where the walk ends.
Hence there is a chain in front of everything that the walk reaches (`exists_stop_of_upperLayer`),
and in particular in front of an upper layer (`exists_chain_of_upperLayer`).

Where the captured octets end does not matter once the walk is through: `upperLayer_append` says
that octets behind those of the upper layer are handed on with them.
-/

set_option autoImplicit false
set_option relaxedAutoImplicit false

namespace PacketRefusal.Ipv6

open Bytes

/-- A complete extension header of a kind behind which the walk goes on: one that has the length it
carries, or a fragment header of a first fragment. -/
inductive ExtensionHeader : UInt8 → Bytes → Prop
  | carried {kind : UInt8} {header : Bytes} (hkind : CarriesLength kind)
      (hlength : header.length = carriedLength header) : ExtensionHeader kind header
  | firstFragment {header : Bytes} (hlength : header.length = fragmentLength)
      (hoffset : fragmentOffset header = 0) : ExtensionHeader fragment header

/-- A chain of extension headers, from the kind of its first header to the kind that its last header
announces. -/
inductive Chain : UInt8 → Bytes → UInt8 → Prop
  | done (kind : UInt8) : Chain kind [] kind
  | cons {kind last : UInt8} {header rest : Bytes} (hheader : ExtensionHeader kind header)
      (hrest : Chain (octetAt header 0) rest last) : Chain kind (header ++ rest) last

/-! ### Lengths -/

/-- A complete extension header of a kind that carries its length has at least eight octets. -/
theorem eight_le_carriedLength (header : Bytes) : 8 ≤ carriedLength header := by
  rw [carriedLength]
  omega

theorem ExtensionHeader.eight_le_length {kind : UInt8} {header : Bytes}
    (hheader : ExtensionHeader kind header) : 8 ≤ header.length := by
  cases hheader with
  | carried hkind hlength => exact hlength ▸ eight_le_carriedLength header
  | firstFragment hlength hoffset => exact Nat.le_of_eq hlength.symm

theorem ExtensionHeader.eight_dvd_length {kind : UInt8} {header : Bytes}
    (hheader : ExtensionHeader kind header) : 8 ∣ header.length := by
  cases hheader with
  | carried hkind hlength => exact hlength ▸ Nat.dvd_mul_right 8 _
  | firstFragment hlength hoffset => exact hlength ▸ Nat.dvd_refl 8

theorem Chain.eight_dvd_length {kind last : UInt8} {chain : Bytes}
    (hchain : Chain kind chain last) : 8 ∣ chain.length := by
  induction hchain with
  | done kind => exact Nat.dvd_zero 8
  | cons hheader hrest ih =>
    rw [List.length_append]
    exact Nat.dvd_add hheader.eight_dvd_length ih

theorem carriedLength_append {front : Bytes} (hlength : 2 ≤ front.length) (back : Bytes) :
    carriedLength (front ++ back) = carriedLength front := by
  rw [carriedLength, octetAt_append_left (by omega), carriedLength]

theorem fragmentOffset_append {front : Bytes} (hlength : fragmentLength ≤ front.length)
    (back : Bytes) : fragmentOffset (front ++ back) = fragmentOffset front := by
  simp only [fragmentLength] at hlength
  rw [fragmentOffset, wordAt_append_left (by omega), fragmentOffset]

/-- Captured octets begin with a complete header when they reach as far as it says. -/
theorem extensionHeader_take_carriedLength {kind : UInt8} {octets : Bytes}
    (hkind : CarriesLength kind) (hcaptured : carriedLength octets ≤ octets.length) :
    ExtensionHeader kind (octets.take (carriedLength octets)) := by
  have hlong := eight_le_carriedLength octets
  refine .carried hkind ?_
  rw [List.length_take_of_le hcaptured, carriedLength, carriedLength, octetAt_take]
  rw [← carriedLength]
  omega

/-- Captured octets begin with a complete fragment header when there are eight of them. -/
theorem extensionHeader_take_fragmentLength {octets : Bytes}
    (hcaptured : fragmentLength ≤ octets.length) (hoffset : fragmentOffset octets = 0) :
    ExtensionHeader fragment (octets.take fragmentLength) := by
  refine .firstFragment (List.length_take_of_le hcaptured) ?_
  rw [fragmentOffset, wordAt_take (by decide), ← hoffset, fragmentOffset]

/-! ### The walk over a chain -/

/-- The walk goes on behind a complete extension header. -/
theorem upperLayer_append_header {kind : UInt8} {header : Bytes}
    (hheader : ExtensionHeader kind header) (rest : Bytes) :
    upperLayer kind (header ++ rest) = upperLayer (octetAt header 0) rest := by
  have hlong := hheader.eight_le_length
  have hfirst : octetAt (header ++ rest) 0 = octetAt header 0 := octetAt_append_left (by omega)
  cases hheader with
  | carried hkind hlength =>
    have hcarried : carriedLength (header ++ rest) = header.length := by
      rw [carriedLength_append (by omega), hlength]
    have hcaptured : 2 ≤ (header ++ rest).length ∧
        carriedLength (header ++ rest) ≤ (header ++ rest).length := by
      rw [hcarried, List.length_append]
      omega
    rw [upperLayer, if_pos hkind, dif_pos hcaptured, hcarried, hfirst, List.drop_left]
  | firstFragment hlength hoffset =>
    have hcaptured : fragmentLength ≤ (header ++ rest).length := by
      rw [List.length_append, hlength]
      exact Nat.le_add_right _ _
    rw [upperLayer, if_neg (by decide), if_pos rfl, dif_pos hcaptured,
      if_pos (by rw [fragmentOffset_append (Nat.le_of_eq hlength.symm), hoffset]), hfirst,
      List.drop_left' hlength]

/-- The walk goes over a whole chain, and on from the kind that its last header announces. -/
theorem upperLayer_append_chain {kind last : UInt8} {chain : Bytes}
    (hchain : Chain kind chain last) (rest : Bytes) :
    upperLayer kind (chain ++ rest) = upperLayer last rest := by
  induction hchain with
  | done kind => rfl
  | cons hheader hrest ih => rw [List.append_assoc, upperLayer_append_header hheader, ih]

/-! ### The end of the walk -/

/-- The number of no extension header is that of the upper layer. -/
theorem upperLayer_of_upper {protocol : UInt8} (hcarries : ¬CarriesLength protocol)
    (hfragment : protocol ≠ fragment) (octets : Bytes) :
    upperLayer protocol octets = some (protocol, octets) := by
  rw [upperLayer, if_neg hcarries, if_neg hfragment]

/-- The fragment header of a later fragment stops the walk, which hands on what follows it. -/
theorem upperLayer_of_laterFragment {octets : Bytes} (hcaptured : fragmentLength ≤ octets.length)
    (hoffset : fragmentOffset octets ≠ 0) :
    upperLayer fragment octets = some (fragment, octets.drop fragmentLength) := by
  rw [upperLayer, if_neg (by decide), if_pos rfl, dif_pos hcaptured, if_neg hoffset]

/-- Where the walk stops: at the number of no extension header, or at the fragment header of a
later fragment. -/
inductive Stop : UInt8 → Bytes → UInt8 → Bytes → Prop
  | upper {protocol : UInt8} {octets : Bytes} (hcarries : ¬CarriesLength protocol)
      (hfragment : protocol ≠ fragment) : Stop protocol octets protocol octets
  | laterFragment {octets : Bytes} (hcaptured : fragmentLength ≤ octets.length)
      (hoffset : fragmentOffset octets ≠ 0) :
    Stop fragment octets fragment (octets.drop fragmentLength)

/-- The captured octets end within the header that was announced. -/
inductive Cut : UInt8 → Bytes → Prop
  | carried {kind : UInt8} {octets : Bytes} (hkind : CarriesLength kind)
      (hshort : octets.length < 2 ∨ octets.length < carriedLength octets) : Cut kind octets
  | fragment {octets : Bytes} (hshort : octets.length < fragmentLength) : Cut fragment octets

theorem Stop.upperLayer_eq {kind protocol : UInt8} {octets data : Bytes}
    (hstop : Stop kind octets protocol data) : upperLayer kind octets = some (protocol, data) := by
  cases hstop with
  | upper hcarries hfragment => exact upperLayer_of_upper hcarries hfragment octets
  | laterFragment hcaptured hoffset => exact upperLayer_of_laterFragment hcaptured hoffset

theorem Cut.upperLayer_eq {kind : UInt8} {octets : Bytes} (hcut : Cut kind octets) :
    upperLayer kind octets = none := by
  cases hcut with
  | carried hkind hshort =>
    rw [upperLayer, if_pos hkind, dif_neg]
    omega
  | fragment hshort =>
    rw [upperLayer, if_neg (by decide), if_pos rfl, dif_neg (Nat.not_le.mpr hshort)]

/-- The walk ends where it stops, or where the captured octets are cut off. -/
def Ends (kind : UInt8) (octets : Bytes) : Prop :=
  (∃ protocol data, Stop kind octets protocol data) ∨ Cut kind octets

/-- All octets are a chain and a place where the walk ends. -/
theorem exists_chain_end (kind : UInt8) (octets : Bytes) :
    ∃ chain last rest, Chain kind chain last ∧ Ends last rest ∧ octets = chain ++ rest := by
  -- The recursion of the walk: it is at a header with a length, at a fragment header, or through.
  induction kind, octets using upperLayer.induct with
  | case1 kind octets hkind hcaptured ih =>
    have hlong := eight_le_carriedLength octets
    have hheader := extensionHeader_take_carriedLength hkind hcaptured.2
    obtain ⟨chain, last, rest, hchain, hends, hoctets⟩ := ih
    rw [← octetAt_take (by omega : 0 < carriedLength octets)] at hchain
    refine ⟨_, last, rest, .cons hheader hchain, hends, ?_⟩
    rw [List.append_assoc, ← hoctets, List.take_append_drop]
  | case2 kind octets hkind hcaptured =>
    exact ⟨[], kind, octets, .done kind, Or.inr (.carried hkind (by omega)), rfl⟩
  | case3 octets hcaptured hoffset hkind ih =>
    have hheader := extensionHeader_take_fragmentLength hcaptured hoffset
    obtain ⟨chain, last, rest, hchain, hends, hoctets⟩ := ih
    rw [← octetAt_take (by decide : 0 < fragmentLength)] at hchain
    refine ⟨_, last, rest, .cons hheader hchain, hends, ?_⟩
    rw [List.append_assoc, ← hoctets, List.take_append_drop]
  | case4 octets hcaptured hoffset hkind =>
    exact ⟨[], _, octets, .done _, Or.inl ⟨_, _, .laterFragment hcaptured hoffset⟩, rfl⟩
  | case5 octets hcaptured hkind =>
    exact ⟨[], _, octets, .done _, Or.inr (.fragment (Nat.lt_of_not_le hcaptured)), rfl⟩
  | case6 kind octets hkind hfragment =>
    exact ⟨[], kind, octets, .done kind, Or.inl ⟨_, _, .upper hkind hfragment⟩, rfl⟩

/-- The walk goes over a chain to where it stops. -/
theorem exists_stop_of_upperLayer {kind protocol : UInt8} {octets data : Bytes}
    (hupper : upperLayer kind octets = some (protocol, data)) :
    ∃ chain last rest, Chain kind chain last ∧ Stop last rest protocol data ∧
      octets = chain ++ rest := by
  obtain ⟨chain, last, rest, hchain, hends, rfl⟩ := exists_chain_end kind octets
  rw [upperLayer_append_chain hchain] at hupper
  rcases hends with ⟨protocol', data', hstop⟩ | hcut
  · obtain ⟨rfl, rfl⟩ := Prod.mk.inj (Option.some.inj (hstop.upperLayer_eq.symm.trans hupper))
    exact ⟨chain, last, rest, hchain, hstop, rfl⟩
  · rw [hcut.upperLayer_eq] at hupper
    cases hupper

/-- The walk finds the upper layer behind a chain. -/
theorem exists_chain_of_upperLayer {kind protocol : UInt8} {octets data : Bytes}
    (hupper : upperLayer kind octets = some (protocol, data)) (hprotocol : protocol ≠ fragment) :
    ∃ chain, Chain kind chain protocol ∧ octets = chain ++ data := by
  obtain ⟨chain, last, rest, hchain, hstop, hoctets⟩ := exists_stop_of_upperLayer hupper
  cases hstop with
  | upper => exact ⟨chain, hchain, hoctets⟩
  | laterFragment => exact (hprotocol rfl).elim

/-- Whatever the walk hands on stands behind a number of units of eight octets. -/
theorem exists_append_of_upperLayer {kind protocol : UInt8} {octets data : Bytes}
    (hupper : upperLayer kind octets = some (protocol, data)) :
    ∃ front, octets = front ++ data ∧ 8 ∣ front.length := by
  obtain ⟨chain, last, rest, hchain, hstop, rfl⟩ := exists_stop_of_upperLayer hupper
  cases hstop with
  | upper => exact ⟨chain, rfl, hchain.eight_dvd_length⟩
  | laterFragment hcaptured hoffset =>
    refine ⟨chain ++ rest.take fragmentLength, ?_, ?_⟩
    · rw [List.append_assoc, List.take_append_drop]
    · rw [List.length_append, List.length_take_of_le hcaptured]
      exact Nat.dvd_add hchain.eight_dvd_length (Nat.dvd_refl 8)

/-- Octets behind those where the walk stops are handed on with them. -/
theorem Stop.append {kind protocol : UInt8} {octets data : Bytes}
    (hstop : Stop kind octets protocol data) (more : Bytes) :
    Stop kind (octets ++ more) protocol (data ++ more) := by
  cases hstop with
  | upper hcarries hfragment => exact .upper hcarries hfragment
  | laterFragment hcaptured hoffset =>
    have hlonger : fragmentLength ≤ (octets ++ more).length := by
      rw [List.length_append]
      exact Nat.le_add_right_of_le hcaptured
    rw [← fragmentOffset_append hcaptured more] at hoffset
    rw [← List.drop_append_of_le_length hcaptured]
    exact .laterFragment hlonger hoffset

/-- What is found behind a chain does not depend on how many octets follow. -/
theorem upperLayer_append {kind protocol : UInt8} {octets data : Bytes}
    (hupper : upperLayer kind octets = some (protocol, data)) (more : Bytes) :
    upperLayer kind (octets ++ more) = some (protocol, data ++ more) := by
  obtain ⟨chain, last, rest, hchain, hstop, rfl⟩ := exists_stop_of_upperLayer hupper
  rw [List.append_assoc, upperLayer_append_chain hchain]
  exact (hstop.append more).upperLayer_eq

end PacketRefusal.Ipv6
