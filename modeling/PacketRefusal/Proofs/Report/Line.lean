import PacketRefusal.Proofs.Report.Address
import PacketRefusal.Report.Line
import Std.Data.String.ToNat

/-!
# What a report line shows

A report line shows the headers of a packet, and what it shows can be read off it again. Its tokens
consist of a key and a value (`Headers.reportTokens_eq`). No token is empty or contains a space and
no key contains an equals sign, so the line shows its fields
(`Headers.allFields_eq_of_reportLine_eq`). The keys of one kind of header belong to no other kind,
so the fields of a kind are those with its keys (`Headers.filter_allFields`). What is left is that
the values determine what is shown of a header: addresses, numbers and the names of control bits are
injective. Hence two lines are the same just if the headers are `Headers.ShownAlike`
(`Headers.reportLine_eq_iff`).

The line is made of printable characters (`Headers.printable_reportLine`), and every space in it
separates two tokens (`Headers.tight_reportLine`).
-/

set_option autoImplicit false
set_option relaxedAutoImplicit false

namespace PacketRefusal

/-! ### Control bits -/

namespace Tcp.Flags

/-- Which characters the names of the control bits contribute. -/
theorem mem_names {flags : Flags} {char : Char} :
    char ∈ flags.names.toList ↔
      flags.finish ∧ char ∈ "[FIN]".toList ∨ flags.reset ∧ char ∈ "[RST]".toList ∨
        flags.urgent ∧ char ∈ "[URG]".toList ∨ flags.synchronize ∧ char ∈ "[SYN]".toList ∨
        flags.push ∧ char ∈ "[PSH]".toList ∨ flags.acknowledgment ∧ char ∈ "[ACK]".toList := by
  simp only [names, String.toList_join, List.mem_flatMap, List.mem_map, List.mem_filter]
  simp [or_and_right, exists_or, and_assoc]

/-- Each control bit has a letter in its name that no other name contains. -/
theorem names_injective {first second : Flags} (hnames : first.names = second.names) :
    first = second := by
  have hletter (char : Char) : char ∈ first.names.toList ↔ char ∈ second.names.toList := by
    rw [hnames]
  have hfinish := hletter 'F'
  have hreset := hletter 'T'
  have hurgent := hletter 'U'
  have hsynchronize := hletter 'Y'
  have hpush := hletter 'P'
  have hacknowledgment := hletter 'A'
  simp [mem_names] at hfinish hreset hurgent hsynchronize hpush hacknowledgment
  cases first
  cases second
  congr

@[simp] theorem names_inj {first second : Flags} : first.names = second.names ↔ first = second :=
  ⟨names_injective, congrArg names⟩

theorem visible_names (flags : Flags) : Visible flags.names.toList := by
  intro char hchar
  have hname {name : String} (hvisible : Visible name.toList) (hmem : char ∈ name.toList) :
      '!' ≤ char ∧ char ≤ '~' :=
    hvisible char hmem
  rcases mem_names.mp hchar with ⟨-, h⟩ | ⟨-, h⟩ | ⟨-, h⟩ | ⟨-, h⟩ | ⟨-, h⟩ | ⟨-, h⟩ <;>
    exact hname (by decide) h

end Tcp.Flags

/-! ### Fields -/

namespace Report

/-- The kinds of header that a line shows. -/
inductive Kind
  | ipv4
  | ipv6
  | icmp
  | icmpv6
  | tcp
  | udp
  deriving DecidableEq

namespace Kind

/-- All kinds of header, in the order in which they are shown. -/
def all : List Kind := [ipv4, ipv6, icmp, icmpv6, tcp, udp]

/-- The keys under which the values of a kind of header are shown. -/
def keys : Kind → List String
  | ipv4 => ["ip.SrcAddr", "ip.DstAddr"]
  | ipv6 => ["ipv6.SrcAddr", "ipv6.DstAddr"]
  | icmp => ["icmp.Type", "icmp.Code"]
  | icmpv6 => ["icmpv6.Type", "icmpv6.Code"]
  | tcp => ["tcp.SrcPort", "tcp.DstPort", "tcp.Flags"]
  | udp => ["udp.SrcPort", "udp.DstPort"]

theorem mem_all (kind : Kind) : kind ∈ all := by cases kind <;> decide

/-- A key belongs to one kind of header. -/
theorem eq_of_mem_keys {kind other : Kind} {key : String} (hkey : key ∈ kind.keys)
    (hother : key ∈ other.keys) : kind = other := by
  have hall : ∀ kind ∈ all, ∀ other ∈ all, ∀ key ∈ kind.keys, key ∈ other.keys → kind = other := by
    decide
  exact hall kind (mem_all kind) other (mem_all other) key hkey hother

theorem keys_plain {kind : Kind} {key : String} (hkey : key ∈ kind.keys) :
    Visible key.toList ∧ '=' ∉ key.toList := by
  have hall : ∀ kind ∈ all, ∀ key ∈ kind.keys, Visible key.toList ∧ '=' ∉ key.toList := by
    decide
  exact hall kind (mem_all kind) key hkey

end Kind

/-- The characters of a token. -/
theorem toList_token (key value : String) :
    (token key value).toList = key.toList ++ '=' :: value.toList := by
  have hequals : "=".toList = ['='] := rfl
  rw [token, String.toList_append, String.toList_append, hequals, List.append_assoc]
  rfl

/-- Tokens show their keys and values if no key contains an equals sign. -/
theorem fields_eq_of_tokens_eq {first second : List (String × String)}
    (hfirst : ∀ field ∈ first, '=' ∉ field.1.toList)
    (hsecond : ∀ field ∈ second, '=' ∉ field.1.toList)
    (htokens : first.map (fun field ↦ token field.1 field.2) =
      second.map fun field ↦ token field.1 field.2) : first = second := by
  induction first generalizing second with
  | nil => exact (List.map_eq_nil_iff.mp htokens.symm).symm
  | cons field first ih =>
    cases second with
    | nil => cases htokens
    | cons other second =>
      rw [List.forall_mem_cons] at hfirst hsecond
      rw [List.map_cons, List.map_cons, List.cons.injEq] at htokens
      have htoken := congrArg String.toList htokens.1
      rw [toList_token, toList_token] at htoken
      obtain ⟨hkey, hvalue⟩ := eq_of_append_separator hfirst.1 hsecond.1 htoken
      rw [Prod.ext (String.toList_inj.mp hkey) (String.toList_inj.mp hvalue),
        ih hfirst.2 hsecond.2 htokens.2]

end Report

namespace Headers

open Report

/-- The values that are shown of a kind of header: none if there is no such header. -/
def values (headers : Headers) : Kind → List String
  | .ipv4 => headers.ipv4.elim [] fun header ↦ [header.source.text, header.destination.text]
  | .ipv6 => headers.ipv6.elim [] fun header ↦ [header.source.text, header.destination.text]
  | .icmp => headers.icmp.elim [] fun header ↦
    [toString header.kind.toNat, toString header.code.toNat]
  | .icmpv6 => headers.icmpv6.elim [] fun header ↦
    [toString header.kind.toNat, toString header.code.toNat]
  | .tcp => headers.tcp.elim [] fun header ↦
    [toString header.sourcePort.toNat, toString header.destinationPort.toNat, header.flags.names]
  | .udp => headers.udp.elim [] fun header ↦
    [toString header.sourcePort.toNat, toString header.destinationPort.toNat]

def fields (headers : Headers) (kind : Kind) : List (String × String) :=
  kind.keys.zip (headers.values kind)

def allFields (headers : Headers) : List (String × String) := Kind.all.flatMap headers.fields

/-- The tokens are the fields, each written as its key and its value. -/
theorem reportTokens_eq (headers : Headers) :
    headers.reportTokens = headers.allFields.map fun field ↦ token field.1 field.2 := by
  -- The tokens of one kind, found or not.
  have hkind {α : Type} {keys : List String} {shown tokens : α → List String} (header : Option α)
      (htokens : ∀ header, tokens header =
        (keys.zip (shown header)).map fun field ↦ token field.1 field.2) :
      header.elim [] tokens =
        (keys.zip (header.elim [] shown)).map fun field ↦ token field.1 field.2 := by
    cases header with
    | none => rw [Option.elim_none, Option.elim_none, List.zip_nil_right, List.map_nil]
    | some header => exact htokens header
  have htokens : ∀ kind, (headers.fields kind).map (fun field ↦ token field.1 field.2) =
      match kind with
      | .ipv4 => headers.ipv4.elim [] ipv4Tokens
      | .ipv6 => headers.ipv6.elim [] ipv6Tokens
      | .icmp => headers.icmp.elim [] (icmpTokens "icmp")
      | .icmpv6 => headers.icmpv6.elim [] (icmpTokens "icmpv6")
      | .tcp => headers.tcp.elim [] tcpTokens
      | .udp => headers.udp.elim [] udpTokens := by
    intro kind
    cases kind <;> exact (hkind _ fun _ ↦ rfl).symm
  rw [allFields, List.map_flatMap, List.flatMap_congr fun kind _ ↦ htokens kind]
  simp only [reportTokens, Kind.all, List.flatMap_cons, List.flatMap_nil, List.append_nil,
    List.append_assoc]

theorem key_mem_keys {headers : Headers} {kind : Kind} {field : String × String}
    (hfield : field ∈ headers.fields kind) : field.1 ∈ kind.keys :=
  (List.of_mem_zip hfield).1

/-- The fields of a kind of header are those with its keys. -/
theorem filter_allFields (headers : Headers) (kind : Kind) :
    headers.allFields.filter (·.1 ∈ kind.keys) = headers.fields kind := by
  have hfilter (other : Kind) : (headers.fields other).filter (·.1 ∈ kind.keys) =
      if other = kind then headers.fields kind else [] := by
    split
    · next hkind =>
      subst hkind
      exact List.filter_eq_self.mpr fun field hfield ↦ decide_eq_true (key_mem_keys hfield)
    · next hkind =>
      refine List.filter_eq_nil_iff.mpr fun field hfield hkey ↦ hkind ?_
      exact Kind.eq_of_mem_keys (key_mem_keys hfield) (of_decide_eq_true hkey)
  rw [allFields, List.filter_flatMap, List.flatMap_congr fun other _ ↦ hfilter other]
  cases kind <;> simp [Kind.all]

theorem length_values_le (headers : Headers) (kind : Kind) :
    (headers.values kind).length ≤ kind.keys.length := by
  have hlength {α : Type} {header : Option α} {shown : α → List String} {number : Nat}
      (hshown : ∀ header, (shown header).length = number) :
      (header.elim [] shown).length ≤ number := by
    cases header with
    | none => exact Nat.zero_le _
    | some header => exact (hshown header).le
  cases kind <;> exact hlength fun _ ↦ rfl

/-- Headers with the same fields are shown by the same values. -/
theorem values_eq_of_allFields_eq {first second : Headers}
    (hfields : first.allFields = second.allFields) (kind : Kind) :
    first.values kind = second.values kind := by
  have hkind : first.fields kind = second.fields kind := by
    rw [← filter_allFields, hfields, filter_allFields]
  have hvalues (headers : Headers) : (headers.fields kind).map Prod.snd = headers.values kind :=
    List.map_snd_zip (headers.length_values_le kind)
  rw [← hvalues, hkind, hvalues]

/-! ### Tokens -/

/-- Values are visible texts. -/
theorem visible_values {headers : Headers} {kind : Kind} {value : String}
    (hvalue : value ∈ headers.values kind) : Visible value.toList := by
  have hshown {α : Type} {header : Option α} {shown : α → List String}
      (hmem : value ∈ header.elim [] shown)
      (hvisible : ∀ header, ∀ value ∈ shown header, Visible value.toList) :
      Visible value.toList := by
    cases header with
    | none => cases hmem
    | some header => exact hvisible header value hmem
  cases kind with
  | ipv4 | ipv6 | icmp | icmpv6 | tcp | udp =>
    refine hshown hvalue fun header ↦ ?_
    simp only [List.forall_mem_cons, Nat.toString_eq_repr, visible_repr,
      Ipv4.Address.visible_text, Ipv6.Address.visible_text, Tcp.Flags.visible_names, true_and]
    exact fun _ hnil ↦ absurd hnil List.not_mem_nil

theorem exists_of_mem_allFields {headers : Headers} {field : String × String}
    (hfield : field ∈ headers.allFields) :
    ∃ kind : Kind, field.1 ∈ kind.keys ∧ field.2 ∈ headers.values kind := by
  obtain ⟨kind, -, hfield⟩ := List.mem_flatMap.mp hfield
  exact ⟨kind, List.of_mem_zip hfield⟩

/-- Tokens are visible texts and not empty. -/
theorem visible_reportTokens {headers : Headers} {token : String}
    (htoken : token ∈ headers.reportTokens) : token.toList ≠ [] ∧ Visible token.toList := by
  rw [reportTokens_eq] at htoken
  obtain ⟨field, hfield, rfl⟩ := List.mem_map.mp htoken
  obtain ⟨kind, hkey, hvalue⟩ := exists_of_mem_allFields hfield
  rw [toList_token]
  refine ⟨by simp, fun char hchar ↦ ?_⟩
  rw [List.mem_append, List.mem_cons] at hchar
  rcases hchar with hchar | rfl | hchar
  · exact (Kind.keys_plain hkey).1 char hchar
  · decide
  · exact visible_values hvalue char hchar

theorem toList_reportLine (headers : Headers) :
    headers.reportLine.toList = [' '].intercalate (headers.reportTokens.map String.toList) := by
  have hspace : " ".toList = [' '] := rfl
  rw [reportLine, String.toList_intercalate, hspace]

/-- A space can be put between tokens. -/
theorem separable_reportTokens (headers : Headers) :
    Separable ' ' (headers.reportTokens.map String.toList) := by
  intro text htext
  obtain ⟨token, htoken, rfl⟩ := List.mem_map.mp htext
  obtain ⟨hne, hvisible⟩ := visible_reportTokens htoken
  exact ⟨hne, fun hspace ↦ absurd (hvisible ' ' hspace) (by decide)⟩

/-- A line shows its fields. -/
theorem allFields_eq_of_reportLine_eq {first second : Headers}
    (hline : first.reportLine = second.reportLine) : first.allFields = second.allFields := by
  have htexts := congrArg String.toList hline
  rw [toList_reportLine, toList_reportLine] at htexts
  have htokens : first.reportTokens = second.reportTokens :=
    List.map_injective_iff.mpr (fun _ _ ↦ String.toList_inj.mp)
      (first.separable_reportTokens.eq_of_intercalate_eq second.separable_reportTokens htexts)
  have hkeys (headers : Headers) : ∀ field ∈ headers.allFields, '=' ∉ field.1.toList := by
    intro field hfield
    obtain ⟨kind, hkey, -⟩ := exists_of_mem_allFields hfield
    exact (Kind.keys_plain hkey).2
  rw [reportTokens_eq, reportTokens_eq] at htokens
  exact fields_eq_of_tokens_eq (hkeys first) (hkeys second) htokens

/-! ### What is shown -/

/-- Headers that are shown alike: the same kinds of header are present, and they agree in their
addresses, types, codes, ports and control bits. -/
structure ShownAlike (first second : Headers) : Prop where
  ipv4 : first.ipv4.map (fun header ↦ (header.source, header.destination)) =
    second.ipv4.map fun header ↦ (header.source, header.destination)
  ipv6 : first.ipv6.map (fun header ↦ (header.source, header.destination)) =
    second.ipv6.map fun header ↦ (header.source, header.destination)
  icmp : first.icmp = second.icmp
  icmpv6 : first.icmpv6 = second.icmpv6
  tcp : first.tcp.map (fun header ↦
      (header.sourcePort, header.destinationPort, header.flags)) =
    second.tcp.map fun header ↦ (header.sourcePort, header.destinationPort, header.flags)
  udp : first.udp = second.udp

section ShownAlike

variable {first second : Headers}

/-- Headers of one kind are shown by the same values just if what is shown of them is the same. -/
theorem elim_eq_elim_iff {α β : Type} {first second : Option α} {shown : α → List String}
    {view : α → β} (hne : ∀ header, shown header ≠ [])
    (hshown : ∀ one other, shown one = shown other ↔ view one = view other) :
    first.elim [] shown = second.elim [] shown ↔ first.map view = second.map view := by
  cases first with
  | none =>
    cases second with
    | none => exact iff_of_true rfl rfl
    | some other => exact iff_of_false (hne other).symm nofun
  | some one =>
    cases second with
    | none => exact iff_of_false (hne one) nofun
    | some other => simpa using hshown one other

/-- What is shown of headers is shown by their values. -/
theorem shownAlike_iff :
    first.ShownAlike second ↔ ∀ kind, first.values kind = second.values kind := by
  have hipv4 : first.values .ipv4 = second.values .ipv4 ↔
      first.ipv4.map (fun header ↦ (header.source, header.destination)) =
        second.ipv4.map fun header ↦ (header.source, header.destination) :=
    elim_eq_elim_iff (fun _ ↦ List.cons_ne_nil _ _) fun one other ↦ by simp
  have hipv6 : first.values .ipv6 = second.values .ipv6 ↔
      first.ipv6.map (fun header ↦ (header.source, header.destination)) =
        second.ipv6.map fun header ↦ (header.source, header.destination) :=
    elim_eq_elim_iff (fun _ ↦ List.cons_ne_nil _ _) fun one other ↦ by simp
  have hicmp : first.values .icmp = second.values .icmp ↔
      first.icmp.map id = second.icmp.map id :=
    elim_eq_elim_iff (fun _ ↦ List.cons_ne_nil _ _) fun one other ↦ by
      cases one; cases other; simp [UInt8.toNat_inj]
  have hicmpv6 : first.values .icmpv6 = second.values .icmpv6 ↔
      first.icmpv6.map id = second.icmpv6.map id :=
    elim_eq_elim_iff (fun _ ↦ List.cons_ne_nil _ _) fun one other ↦ by
      cases one; cases other; simp [UInt8.toNat_inj]
  have htcp : first.values .tcp = second.values .tcp ↔
      first.tcp.map (fun header ↦ (header.sourcePort, header.destinationPort, header.flags)) =
        second.tcp.map fun header ↦
          (header.sourcePort, header.destinationPort, header.flags) :=
    elim_eq_elim_iff (fun _ ↦ List.cons_ne_nil _ _) fun one other ↦ by
      simp [UInt16.toNat_inj]
  have hudp : first.values .udp = second.values .udp ↔
      first.udp.map id = second.udp.map id :=
    elim_eq_elim_iff (fun _ ↦ List.cons_ne_nil _ _) fun one other ↦ by
      cases one; cases other; simp [UInt16.toNat_inj]
  simp only [Option.map_id, id_eq] at hicmp hicmpv6 hudp
  constructor
  · intro halike kind
    cases kind with
    | ipv4 => exact hipv4.mpr halike.ipv4
    | ipv6 => exact hipv6.mpr halike.ipv6
    | icmp => exact hicmp.mpr halike.icmp
    | icmpv6 => exact hicmpv6.mpr halike.icmpv6
    | tcp => exact htcp.mpr halike.tcp
    | udp => exact hudp.mpr halike.udp
  · intro hvalues
    exact ⟨hipv4.mp (hvalues .ipv4), hipv6.mp (hvalues .ipv6), hicmp.mp (hvalues .icmp),
      hicmpv6.mp (hvalues .icmpv6), htcp.mp (hvalues .tcp), hudp.mp (hvalues .udp)⟩

/-- Two lines are the same just if they show the same. -/
theorem reportLine_eq_iff : first.reportLine = second.reportLine ↔ first.ShownAlike second := by
  rw [shownAlike_iff]
  refine ⟨fun hline ↦ values_eq_of_allFields_eq (allFields_eq_of_reportLine_eq hline),
    fun hvalues ↦ ?_⟩
  have hfields : first.fields = second.fields := by
    funext kind
    rw [fields, fields, hvalues]
  rw [reportLine, reportLine, reportTokens_eq, reportTokens_eq, allFields, allFields, hfields]

end ShownAlike

/-- All characters of a line are of ASCII and can be printed. -/
theorem printable_reportLine {headers : Headers} {char : Char}
    (hchar : char ∈ headers.reportLine.toList) : ' ' ≤ char ∧ char ≤ '~' := by
  rw [toList_reportLine] at hchar
  rcases mem_intercalate hchar with rfl | ⟨text, htext, hchar⟩
  · decide
  · obtain ⟨token, htoken, rfl⟩ := List.mem_map.mp htext
    obtain ⟨hlow, hhigh⟩ := (visible_reportTokens htoken).2 char hchar
    exact ⟨Char.le_trans (by decide) hlow, hhigh⟩

theorem control_not_mem_reportLine (headers : Headers) {char : Char} (hcontrol : char < ' ') :
    char ∉ headers.reportLine.toList :=
  fun hchar ↦ Char.not_le.mpr hcontrol (printable_reportLine hchar).1

/-- Spaces stand singly and only between other characters. -/
theorem tight_reportLine (headers : Headers) : Tight ' ' headers.reportLine.toList := by
  rw [toList_reportLine]
  exact headers.separable_reportTokens.tight

end Headers

end PacketRefusal
