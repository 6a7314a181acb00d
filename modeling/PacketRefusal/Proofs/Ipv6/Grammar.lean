import Mathlib.Logic.ExistsUnique
import PacketRefusal.Ipv6.Header
import PacketRefusal.Proofs.Ipv6.Chain

/-!
# The grammar of extension headers

What stands behind an IPv6 header is a sequence of complete extension headers, `Units`, and then one
of three things: the octets of an upper layer, the fragment header of a later fragment with its
data, or too few octets for the header that was announced. `upperLayer_grammar` says that the walk
tells just these apart, whatever the octets are.

There is only one way to read octets as such a sequence. A header of the announced kind says how
long it is (`ExtensionHeader.length_eq`), so that two headers in front of the same octets are the
same (`ExtensionHeader.eq_of_append_eq`), and the walk does not end where a complete header stands
(`ExtensionHeader.not_ends`). `Units.unique` follows by induction on one of the sequences.
-/

set_option autoImplicit false
set_option relaxedAutoImplicit false

namespace PacketRefusal.Ipv6

open Bytes

/-- A list of complete extension headers, from the kind of the first one to the kind that the last
one announces. -/
inductive Units : UInt8 → List Bytes → UInt8 → Prop
  | nil (kind : UInt8) : Units kind [] kind
  | cons {kind last : UInt8} {header : Bytes} {units : List Bytes}
      (hheader : ExtensionHeader kind header) (hunits : Units (octetAt header 0) units last) :
    Units kind (header :: units) last

variable {kind last last' : UInt8} {header header' rest rest' : Bytes} {units units' : List Bytes}

/-! ### Lists of headers and chains -/

/-- Laid end to end, the headers of a list are a chain. -/
theorem Units.chain (hunits : Units kind units last) : Chain kind units.flatten last := by
  induction hunits with
  | nil kind => exact .done kind
  | cons hheader hunits ih => exact .cons hheader ih

/-- A chain is made of the headers of a list. -/
theorem Chain.exists_units {chain : Bytes} (hchain : Chain kind chain last) :
    ∃ units, Units kind units last ∧ chain = units.flatten := by
  induction hchain with
  | done kind => exact ⟨[], .nil kind, rfl⟩
  | @cons kind last header rest hheader hrest ih =>
    obtain ⟨units, hunits, rfl⟩ := ih
    exact ⟨header :: units, .cons hheader hunits, rfl⟩

/-- Every header takes eight octets at least. -/
theorem Units.length_le (hunits : Units kind units last) :
    8 * units.length ≤ units.flatten.length := by
  induction hunits with
  | nil => exact Nat.zero_le _
  | @cons kind last header units hheader hunits ih =>
    have hlong := hheader.eight_le_length
    rw [List.flatten_cons, List.length_append, List.length_cons]
    omega

/-! ### One way to read octets -/

/-- A complete header says itself how long it is, whatever follows it. -/
theorem ExtensionHeader.length_eq (hheader : ExtensionHeader kind header) (rest : Bytes) :
    header.length =
      if CarriesLength kind then carriedLength (header ++ rest) else fragmentLength := by
  have hlong := hheader.eight_le_length
  cases hheader with
  | carried hkind hlength => rw [if_pos hkind, carriedLength_append (by omega), hlength]
  | firstFragment hlength hoffset => rw [if_neg (by decide), hlength]

/-- Two complete headers of one kind in front of the same octets are the same. -/
theorem ExtensionHeader.eq_of_append_eq (hheader : ExtensionHeader kind header)
    (hheader' : ExtensionHeader kind header') (hoctets : header ++ rest = header' ++ rest') :
    header = header' ∧ rest = rest' := by
  have hlength : header.length = header'.length := by
    rw [hheader.length_eq rest, hoctets, hheader'.length_eq rest']
  exact List.append_inj hoctets hlength

/-- The walk does not end in front of a complete header. -/
theorem ExtensionHeader.not_ends (hheader : ExtensionHeader kind header) (rest : Bytes) :
    ¬Ends kind (header ++ rest) := by
  have hlong := hheader.eight_le_length
  have hcaptured : header.length ≤ (header ++ rest).length := by
    rw [List.length_append]
    exact Nat.le_add_right _ _
  cases hheader with
  | carried hkind hlength =>
    rw [← carriedLength_append (by omega) rest] at hlength
    rintro (⟨_, _, hcarries | _⟩ | ⟨_, hshort⟩ | _)
    · contradiction
    · exact absurd hkind (by decide)
    · omega
    · exact absurd hkind (by decide)
  | firstFragment hlength hoffset =>
    rw [← fragmentOffset_append (Nat.le_of_eq hlength.symm) rest] at hoffset
    rintro (⟨_, _, _ | ⟨_, hlater⟩⟩ | ⟨hcarries, _⟩ | hshort)
    · contradiction
    · exact hlater hoffset
    · exact absurd hcarries (by decide)
    · omega

/-- Octets are read as a list of headers and an end of the walk in one way only. -/
theorem Units.unique (hunits : Units kind units last) (hends : Ends last rest)
    (hunits' : Units kind units' last') (hends' : Ends last' rest')
    (hoctets : units.flatten ++ rest = units'.flatten ++ rest') :
    units = units' ∧ last = last' ∧ rest = rest' := by
  -- Either both lists begin with the same header, or one of them ends where the other has a header.
  induction hunits generalizing units' with
  | nil kind =>
    cases hunits' with
    | nil => exact ⟨rfl, rfl, hoctets⟩
    | cons hheader' hunits' =>
      rw [List.flatten_cons, List.append_assoc] at hoctets
      change rest = _ at hoctets
      rw [hoctets] at hends
      exact (hheader'.not_ends _ hends).elim
  | cons hheader hunits ih =>
    rw [List.flatten_cons, List.append_assoc] at hoctets
    cases hunits' with
    | nil =>
      change _ = rest' at hoctets
      rw [← hoctets] at hends'
      exact (hheader.not_ends _ hends').elim
    | cons hheader' hunits' =>
      rw [List.flatten_cons, List.append_assoc] at hoctets
      obtain ⟨rfl, hbehind⟩ := hheader.eq_of_append_eq hheader' hoctets
      obtain ⟨rfl, hend⟩ := ih hends hunits' hbehind
      exact ⟨rfl, hend⟩

/-- All octets are read as a list of headers and an end of the walk. -/
theorem exists_units_end (kind : UInt8) (octets : Bytes) :
    ∃ units last rest, Units kind units last ∧ Ends last rest ∧ octets = units.flatten ++ rest := by
  obtain ⟨chain, last, rest, hchain, hends, rfl⟩ := exists_chain_end kind octets
  obtain ⟨units, hunits, rfl⟩ := hchain.exists_units
  exact ⟨units, last, rest, hunits, hends, rfl⟩

/-! ### What the walk tells apart -/

/-- The walk finds an upper layer just behind the headers that announce it. -/
theorem upperLayer_eq_upper_iff (kind protocol : UInt8) (octets data : Bytes) :
    upperLayer kind octets = some (protocol, data) ∧ protocol ≠ fragment ↔
      (¬CarriesLength protocol ∧ protocol ≠ fragment) ∧
        ∃ units, Units kind units protocol ∧ octets = units.flatten ++ data := by
  constructor
  · rintro ⟨hupper, hprotocol⟩
    obtain ⟨chain, last, rest, hchain, hstop, rfl⟩ := exists_stop_of_upperLayer hupper
    obtain ⟨units, hunits, rfl⟩ := hchain.exists_units
    cases hstop with
    | upper hcarries hfragment => exact ⟨⟨hcarries, hfragment⟩, units, hunits, rfl⟩
    | laterFragment => exact (hprotocol rfl).elim
  · rintro ⟨⟨hcarries, hfragment⟩, units, hunits, rfl⟩
    refine ⟨?_, hfragment⟩
    rw [upperLayer_append_chain hunits.chain, upperLayer_of_upper hcarries hfragment]

/-- The walk reports a fragment header just where that of a later fragment stands behind the
headers that announce it. -/
theorem upperLayer_eq_fragment_iff (kind : UInt8) (octets data : Bytes) :
    upperLayer kind octets = some (fragment, data) ↔
      ∃ units header, Units kind units fragment ∧ header.length = fragmentLength ∧
        fragmentOffset header ≠ 0 ∧ octets = units.flatten ++ (header ++ data) := by
  constructor
  · intro hupper
    obtain ⟨chain, last, rest, hchain, hstop, rfl⟩ := exists_stop_of_upperLayer hupper
    obtain ⟨units, hunits, rfl⟩ := hchain.exists_units
    cases hstop with
    | upper hcarries hfragment => exact (hfragment rfl).elim
    | laterFragment hcaptured hoffset =>
      refine ⟨units, rest.take fragmentLength, hunits, List.length_take_of_le hcaptured, ?_, ?_⟩
      · rwa [fragmentOffset, wordAt_take (by decide)]
      · rw [List.take_append_drop]
  · rintro ⟨units, header, hunits, hlength, hoffset, rfl⟩
    have hcaptured : fragmentLength ≤ (header ++ data).length := by
      rw [List.length_append, hlength]
      exact Nat.le_add_right _ _
    rw [← fragmentOffset_append (Nat.le_of_eq hlength.symm) data] at hoffset
    rw [upperLayer_append_chain hunits.chain, upperLayer_of_laterFragment hcaptured hoffset,
      List.drop_left' hlength]

/-- The walk finds nothing just where the octets are cut off behind the headers that announce
another one. -/
theorem upperLayer_eq_none_iff (kind : UInt8) (octets : Bytes) :
    upperLayer kind octets = none ↔
      ∃ units last rest, Units kind units last ∧ Cut last rest ∧
        octets = units.flatten ++ rest := by
  constructor
  · intro hnone
    obtain ⟨units, last, rest, hunits, hends, rfl⟩ := exists_units_end kind octets
    rw [upperLayer_append_chain hunits.chain] at hnone
    rcases hends with ⟨protocol, data, hstop⟩ | hcut
    · rw [hstop.upperLayer_eq] at hnone
      cases hnone
    · exact ⟨units, last, rest, hunits, hcut, rfl⟩
  · rintro ⟨units, last, rest, hunits, hcut, rfl⟩
    rw [upperLayer_append_chain hunits.chain, hcut.upperLayer_eq]

/-- The walk behind an IPv6 header, whatever follows the header.

It finds an upper layer exactly when complete extension headers announce one. It reports a fragment
header exactly when they are followed by that of a later fragment. It finds nothing exactly when
they announce a header that was cut off. These are all cases: the octets are read as complete
headers and an end of the walk in exactly one way, and there are no more headers than the octets
have room for. What is found is always a last part of the octets, behind a number of units of eight
octets. -/
theorem upperLayer_grammar (ip : Header) (payload : Bytes) :
    (∀ protocol data,
      upperLayer ip.nextHeader payload = some (protocol, data) ∧ protocol ≠ fragment ↔
        (¬CarriesLength protocol ∧ protocol ≠ fragment) ∧
          ∃ units, Units ip.nextHeader units protocol ∧ payload = units.flatten ++ data) ∧
    (∀ data, upperLayer ip.nextHeader payload = some (fragment, data) ↔
      ∃ units header, Units ip.nextHeader units fragment ∧ header.length = fragmentLength ∧
        fragmentOffset header ≠ 0 ∧ payload = units.flatten ++ (header ++ data)) ∧
    (upperLayer ip.nextHeader payload = none ↔
      ∃ units last rest, Units ip.nextHeader units last ∧ Cut last rest ∧
        payload = units.flatten ++ rest) ∧
    (∃! reading : List Bytes × UInt8 × Bytes,
      Units ip.nextHeader reading.1 reading.2.1 ∧ Ends reading.2.1 reading.2.2 ∧
        payload = reading.1.flatten ++ reading.2.2 ∧ 8 * reading.1.length ≤ payload.length) ∧
    ∀ protocol data, upperLayer ip.nextHeader payload = some (protocol, data) →
      ∃ count, 8 * count ≤ payload.length ∧ data = payload.drop (8 * count) := by
  refine ⟨fun protocol data ↦ upperLayer_eq_upper_iff _ _ _ _,
    fun data ↦ upperLayer_eq_fragment_iff _ _ _, upperLayer_eq_none_iff _ _, ?_, ?_⟩
  · obtain ⟨units, last, rest, hunits, hends, hpayload⟩ := exists_units_end ip.nextHeader payload
    refine ⟨(units, last, rest), ⟨hunits, hends, hpayload, ?_⟩, ?_⟩
    · rw [hpayload, List.length_append]
      exact Nat.le_add_right_of_le hunits.length_le
    · rintro ⟨units', last', rest'⟩ ⟨hunits', hends', hpayload', -⟩
      obtain ⟨rfl, rfl, rfl⟩ := hunits'.unique hends' hunits hends (hpayload'.symm.trans hpayload)
      rfl
  · intro protocol data hupper
    obtain ⟨front, rfl, count, hcount⟩ := exists_append_of_upperLayer hupper
    refine ⟨count, ?_, ?_⟩
    · rw [List.length_append, ← hcount]
      exact Nat.le_add_right _ _
    · rw [← hcount, List.drop_left]

/-- The octets of an upper layer behind options and the fragment header of a first fragment. -/
def fragmentedOctets : Bytes :=
  [44, 0, 1, 4, 0, 0, 0, 0] ++ [6, 0, 0, 1, 0, 0, 0, 7] ++ [0x30, 0x39]

theorem upperLayer_grammar_of_fragmentedOctets :
    upperLayer hopByHop fragmentedOctets = some (6, [0x30, 0x39]) ∧
      (∃ units, Units hopByHop units 6 ∧ fragmentedOctets = units.flatten ++ [0x30, 0x39]) ∧
      ∃ count, 8 * count ≤ fragmentedOctets.length ∧
        [0x30, 0x39] = fragmentedOctets.drop (8 * count) := by
  have hwalk : upperLayer hopByHop fragmentedOctets = some (6, [0x30, 0x39]) := by cbv
  obtain ⟨hupper, -, -, -, hsuffix⟩ :=
    upperLayer_grammar (.read (0x60 :: List.replicate 39 0)) fragmentedOctets
  exact ⟨hwalk, ((hupper _ _).mp ⟨hwalk, by decide⟩).2, hsuffix _ _ hwalk⟩

end PacketRefusal.Ipv6
