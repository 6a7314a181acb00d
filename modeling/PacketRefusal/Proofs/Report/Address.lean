import PacketRefusal.Proofs.Bytes.Append
import PacketRefusal.Proofs.Ipv6.ZeroRun
import PacketRefusal.Proofs.Text.Digits

/-!
# Addresses in text

Two addresses with the same text are the same address. In dotted decimal notation the octets are
numerals with points between them (`Ipv4.Address.text_injective`). An address of the other version
has one of three forms. Only the form that embeds an address of the older version contains a point
(`Ipv6.Address.point_mem_text_iff`). Of the other two, the shortened one contains two colons side
by side where the text in front of the run of zeros ends, while in the full one every colon stands
alone; so the groups in front of the run and behind it are read off the text, and there are eight
groups in all (`Ipv6.Address.groups_eq_of_shown_eq`). All characters of an address are visible.
-/

set_option autoImplicit false
set_option relaxedAutoImplicit false

namespace PacketRefusal

theorem point_not_mem_hexadecimalDigits : '.' ∉ hexadecimalDigits := by decide

theorem colon_not_mem_hexadecimalDigits : ':' ∉ hexadecimalDigits := by decide

/-! ### Dotted decimal notation -/

namespace Ipv4.Address

theorem toList_dotted (octets : Bytes) :
    (dotted octets).toList =
      ['.'].intercalate ((octets.map UInt8.toNat).map (Nat.toDigits 10)) := by
  have hpoint : ".".toList = ['.'] := rfl
  rw [dotted, String.toList_intercalate, hpoint, List.map_map, List.map_map]
  congr 1
  exact List.map_congr_left fun octet _ ↦ Nat.toList_repr

theorem dotted_injective {first second : Bytes} (htext : dotted first = dotted second) :
    first = second := by
  have hlists := congrArg String.toList htext
  rw [toList_dotted, toList_dotted] at hlists
  have hnumbers : first.map UInt8.toNat = second.map UInt8.toNat :=
    numerals_injective (by decide) (by decide) point_not_mem_hexadecimalDigits hlists
  exact List.map_injective_iff.mpr (fun _ _ ↦ UInt8.toNat_inj.mp) hnumbers

/-- Two octets in a row have a point between them. -/
theorem point_mem_dotted {octets : Bytes} (hlength : 2 ≤ octets.length) :
    '.' ∈ (dotted octets).toList := by
  obtain ⟨first, second, rest, rfl⟩ : ∃ first second rest, octets = first :: second :: rest := by
    match octets, hlength with
    | first :: second :: rest, _ => exact ⟨first, second, rest, rfl⟩
  rw [toList_dotted, List.map_cons, List.map_cons, intercalate_cons (by simp)]
  simp

theorem text_injective {first second : Address} (htext : first.text = second.text) :
    first = second := by
  cases first
  cases second
  congr
  exact dotted_injective htext

@[simp] theorem text_inj {first second : Address} : first.text = second.text ↔ first = second :=
  ⟨text_injective, congrArg text⟩

theorem visible_text (address : Address) : Visible address.text.toList := by
  intro char hchar
  rw [text, toList_dotted] at hchar
  rcases mem_intercalate hchar with rfl | ⟨numeral, hnumeral, hchar⟩
  · decide
  · obtain ⟨number, -, rfl⟩ := List.mem_map.mp hnumeral
    exact visible_toDigits (by decide) (by decide) number char hchar

end Ipv4.Address

/-! ### Groups with colons between them -/

namespace Ipv6.Address

variable {address first second : Address}

theorem eq_of_octets_eq (hoctets : first.octets = second.octets) : first = second := by
  cases first
  cases second
  congr

theorem toList_colonSeparated (groups : List Nat) :
    (colonSeparated groups).toList = [':'].intercalate (groups.map (Nat.toDigits 16)) := by
  have hcolon : ":".toList = [':'] := rfl
  rw [colonSeparated, String.toList_intercalate, hcolon, List.map_map]
  congr 1
  exact List.map_congr_left fun group _ ↦ String.toList_ofList

theorem colonSeparated_injective {first second : List Nat}
    (htext : (colonSeparated first).toList = (colonSeparated second).toList) : first = second := by
  rw [toList_colonSeparated, toList_colonSeparated] at htext
  exact numerals_injective (by decide) (by decide) colon_not_mem_hexadecimalDigits htext

/-- No colons stand side by side between groups, and none at the ends. -/
theorem tight_colonSeparated (groups : List Nat) :
    Tight ':' (colonSeparated groups).toList := by
  rw [toList_colonSeparated]
  exact (separable_numerals (by decide) (by decide) colon_not_mem_hexadecimalDigits groups).tight

theorem mem_colonSeparated {groups : List Nat} {char : Char}
    (hchar : char ∈ (colonSeparated groups).toList) : char = ':' ∨ char ∈ hexadecimalDigits := by
  rw [toList_colonSeparated] at hchar
  refine (mem_intercalate hchar).imp_right ?_
  rintro ⟨numeral, hnumeral, hchar⟩
  obtain ⟨group, -, rfl⟩ := List.mem_map.mp hnumeral
  exact mem_hexadecimalDigits (by decide) (by decide) hchar

/-- What shows groups when no address is embedded: the full or the shortened form. -/
def shown (groups : List Nat) : List Char :=
  let run := longestZeroRun groups
  if 2 ≤ run.length then
    (colonSeparated (groups.take run.start)).toList ++
      ':' :: ':' :: (colonSeparated (groups.drop (run.start + run.length))).toList
  else (colonSeparated groups).toList

theorem toList_text (hembeds : ¬address.embedsIpv4) :
    address.text.toList = shown address.groups := by
  rw [text, if_neg hembeds, shown]
  dsimp only
  split
  · have hcolons : "::".toList = [':', ':'] := rfl
    rw [String.toList_append, String.toList_append, hcolons, List.append_assoc]
    rfl
  · rfl

theorem mem_shown {groups : List Nat} {char : Char} (hchar : char ∈ shown groups) :
    char = ':' ∨ char ∈ hexadecimalDigits := by
  rw [shown] at hchar
  split at hchar
  · rw [List.mem_append, List.mem_cons, List.mem_cons] at hchar
    rcases hchar with hfront | rfl | rfl | hback
    · exact mem_colonSeparated hfront
    · exact .inl rfl
    · exact .inl rfl
    · exact mem_colonSeparated hback
  · exact mem_colonSeparated hchar

/-- Lists of the same number of groups that are shown in the same way are equal. -/
theorem groups_eq_of_shown_eq {first second : List Nat} (hlength : first.length = second.length)
    (hshown : shown first = shown second) : first = second := by
  rw [shown, shown] at hshown
  split at hshown <;> split at hshown
  · -- The lengths of the runs are what is missing to eight groups in all.
    obtain ⟨hfront, hback⟩ :=
      (tight_colonSeparated _).eq_of_append_double (tight_colonSeparated _) hshown
    have hfront' := colonSeparated_injective hfront
    have hback' := colonSeparated_injective hback
    have hfirst := eq_around_longestZeroRun first
    have hsecond := eq_around_longestZeroRun second
    rw [← hfront', ← hback'] at hsecond
    have hruns : (longestZeroRun first).length = (longestZeroRun second).length := by
      have hfirstLength := congrArg List.length hfirst
      have hsecondLength := congrArg List.length hsecond
      simp only [List.length_append, List.length_replicate] at hfirstLength hsecondLength
      omega
    rw [← hruns] at hsecond
    exact hfirst.trans hsecond.symm
  · exact absurd hshown.symm (tight_colonSeparated _).ne_append_double
  · exact absurd hshown (tight_colonSeparated _).ne_append_double
  · exact colonSeparated_injective hshown

/-! ### From the groups to the address -/

theorem octets_eq_map (address : Address) :
    address.octets = (List.range 16).map (Bytes.octetAt address.octets) := by
  have hfit : Bytes.fit 16 address.octets = address.octets := by
    rw [Bytes.fit_of_le (by rw [address.length_octets]), List.take_of_length_le]
    rw [address.length_octets]
  rw [← Bytes.fit_eq_map, hfit]

theorem groups_injective (hgroups : first.groups = second.groups) : first = second := by
  have hwords : ∀ index < 8, Bytes.wordAt first.octets (2 * index) =
      Bytes.wordAt second.octets (2 * index) := by
    intro index hindex
    exact UInt16.toNat_inj.mp (List.map_inj_left.mp hgroups index (List.mem_range.mpr hindex))
  refine eq_of_octets_eq ?_
  rw [octets_eq_map first, octets_eq_map second]
  refine List.map_congr_left fun index hindex ↦ ?_
  have hgroup : index / 2 < 8 := Nat.div_lt_of_lt_mul (List.mem_range.mp hindex)
  obtain ⟨hhigh, hlow⟩ := Bytes.octetAt_eq_of_wordAt_eq (hwords (index / 2) hgroup)
  rcases Nat.mod_two_eq_zero_or_one index with heven | hodd
  · have hindex' : 2 * (index / 2) = index := by omega
    exact hindex' ▸ hhigh
  · have hindex' : 2 * (index / 2) + 1 = index := by omega
    exact hindex' ▸ hlow

/-! ### The three forms -/

theorem text_of_embedsIpv4 (hembeds : address.embedsIpv4) :
    address.text = "::ffff:" ++ Ipv4.Address.dotted (address.octets.drop 12) := by
  rw [text, if_pos hembeds]

theorem length_drop_octets (address : Address) : (address.octets.drop 12).length = 4 := by
  rw [List.length_drop, address.length_octets]

/-- Points show that an address of the older version is embedded. -/
theorem point_mem_text_iff : '.' ∈ address.text.toList ↔ address.embedsIpv4 := by
  by_cases hembeds : address.embedsIpv4
  · refine iff_of_true ?_ hembeds
    rw [text_of_embedsIpv4 hembeds, String.toList_append, List.mem_append]
    exact .inr (Ipv4.Address.point_mem_dotted (by rw [length_drop_octets]; decide))
  · refine iff_of_false (fun hpoint ↦ ?_) hembeds
    rw [toList_text hembeds] at hpoint
    rcases mem_shown hpoint with hcolon | hdigit
    · exact absurd hcolon (by decide)
    · exact point_not_mem_hexadecimalDigits hdigit

theorem octets_of_embedsIpv4 (hembeds : address.embedsIpv4) :
    address.octets = (List.replicate 10 0 ++ [0xff, 0xff]) ++ address.octets.drop 12 := by
  have hfront : address.octets.take 12 = List.replicate 10 0 ++ [0xff, 0xff] :=
    beq_iff_eq.mp hembeds
  rw [← hfront, List.take_append_drop]

theorem text_injective (htext : first.text = second.text) : first = second := by
  by_cases hfirst : first.embedsIpv4
  · have hsecond : second.embedsIpv4 :=
      point_mem_text_iff.mp (htext ▸ point_mem_text_iff.mpr hfirst)
    rw [text_of_embedsIpv4 hfirst, text_of_embedsIpv4 hsecond] at htext
    have hback : first.octets.drop 12 = second.octets.drop 12 :=
      Ipv4.Address.dotted_injective (String.append_right_inj _ |>.mp htext)
    refine eq_of_octets_eq ?_
    rw [octets_of_embedsIpv4 hfirst, octets_of_embedsIpv4 hsecond, hback]
  · have hsecond : ¬second.embedsIpv4 := fun hsecond ↦
      hfirst (point_mem_text_iff.mp (htext ▸ point_mem_text_iff.mpr hsecond))
    have hshown := congrArg String.toList htext
    rw [toList_text hfirst, toList_text hsecond] at hshown
    exact groups_injective (groups_eq_of_shown_eq (by simp [groups]) hshown)

@[simp] theorem text_inj : first.text = second.text ↔ first = second :=
  ⟨text_injective, congrArg text⟩

theorem visible_text (address : Address) : Visible address.text.toList := by
  intro char hchar
  by_cases hembeds : address.embedsIpv4
  · rw [text_of_embedsIpv4 hembeds, String.toList_append, List.mem_append] at hchar
    rcases hchar with hfront | hback
    · exact (by decide : Visible "::ffff:".toList) char hfront
    · exact Ipv4.Address.visible_text ⟨_, length_drop_octets address⟩ char hback
  · rw [toList_text hembeds] at hchar
    rcases mem_shown hchar with rfl | hdigit
    · decide
    · exact visible_hexadecimalDigits char hdigit

end Ipv6.Address

end PacketRefusal
