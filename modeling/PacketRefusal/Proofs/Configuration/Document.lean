import Mathlib.Data.List.Forall2
import PacketRefusal.Configuration.Document
import PacketRefusal.Proofs.Json.Token
import PacketRefusal.Proofs.Json.Value

/-!
# The configuration in a JSON document

`Configuration.WrittenAs` says which values a configuration may be written as, however the members
of its objects are arranged and whatever else stands among them. A document is read as a
configuration just if it is cut into the tokens of such a value (`ofDocument?_eq_some_iff`). Every
text that spells these tokens will do (`ofDocument?_of_spells`), so the configurations that some
document describes are those whose numbers fit (`exists_document_iff`).

The reader looks every field of a record up by its name. That this finds the fields however the
members are permuted is `fields?_eq_some_iff`; the names have to differ.
-/

set_option autoImplicit false
set_option relaxedAutoImplicit false

namespace PacketRefusal

open Json

/-! ### Records -/

namespace Configuration

/-- The members that stand for the fields a record has. -/
def presentMembers (names : List String) (fields : List (Option Value)) :
    List (Option String × Value) :=
  (names.zip fields).flatMap fun (name, field) ↦ field.toList.map (some name, ·)

/-- A value is a record with some fields, where absent fields are `none`: an array of all fields, or
an object of those that are present and of others under other names, in any order. -/
inductive IsRecord (names : List String) : List (Option Value) → Value → Prop
  | array (items : List Value) (hlength : items.length = names.length) :
    IsRecord names (items.map some) (.array items)
  | object {fields : List (Option Value)} {members others : List (Option String × Value)}
      (hlength : names.length = fields.length)
      (hmembers : members.Perm (presentMembers names fields ++ others))
      (hothers : ∀ member ∈ others, ∃ key ∉ names, member.1 = some key) :
    IsRecord names fields (.object members)

/-- Under a name the members have just the field, or nothing if it is absent. -/
def Finds (members : List (Option String × Value)) (name : String) (field : Option Value) : Prop :=
  membersNamed name members = field.toList

section Records

variable {name : String} {names : List String} {field : Option Value}
  {fields : List (Option Value)} {members others : List (Option String × Value)}

theorem presentMembers_cons (name : String) (names : List String) (field : Option Value)
    (fields : List (Option Value)) : presentMembers (name :: names) (field :: fields) =
      field.toList.map (some name, ·) ++ presentMembers names fields :=
  rfl

theorem exists_name_of_mem_presentMembers {member : Option String × Value}
    (hmember : member ∈ presentMembers names fields) : ∃ name ∈ names, member.1 = some name := by
  obtain ⟨⟨name, field⟩, hzip, hmember⟩ := List.mem_flatMap.mp hmember
  obtain ⟨value, -, rfl⟩ := List.mem_map.mp hmember
  exact ⟨name, (List.of_mem_zip hzip).1, rfl⟩

theorem membersNamed_append (name : String) (front back : List (Option String × Value)) :
    membersNamed name (front ++ back) = membersNamed name front ++ membersNamed name back := by
  rw [membersNamed, List.filter_append, List.map_append]
  rfl

theorem membersNamed_perm (name : String) (hmembers : members.Perm others) :
    (membersNamed name members).Perm (membersNamed name others) :=
  (hmembers.filter _).map _

theorem membersNamed_eq_nil (hmembers : ∀ member ∈ members, member.1 ≠ some name) :
    membersNamed name members = [] := by
  rw [membersNamed, List.map_eq_nil_iff, List.filter_eq_nil_iff]
  exact fun member hmember heq ↦ hmembers member hmember (beq_iff_eq.mp heq)

theorem membersNamed_map_self (name : String) (values : List Value) :
    membersNamed name (values.map (some name, ·)) = values := by
  have hall : ∀ member ∈ values.map fun value ↦ (some name, value),
      (member.1 == some name) = true := by
    intro member hmember
    obtain ⟨value, -, rfl⟩ := List.mem_map.mp hmember
    exact beq_self_eq_true _
  rw [membersNamed, List.filter_eq_self.mpr hall, List.map_map]
  exact List.map_id values

theorem membersNamed_map_of_ne {other : String} (hother : name ≠ other) (values : List Value) :
    membersNamed other (values.map (some name, ·)) = [] := by
  refine membersNamed_eq_nil fun member hmember hkey ↦ ?_
  obtain ⟨value, -, rfl⟩ := List.mem_map.mp hmember
  exact hother (Option.some.inj hkey)

/-- The members with some name can be put in front of the others. -/
theorem exists_perm_membersNamed (name : String) (members : List (Option String × Value)) :
    ∃ rest, members.Perm ((membersNamed name members).map (some name, ·) ++ rest) ∧
      ∀ member ∈ rest, member.1 ≠ some name := by
  have hnamed : (members.filter fun member ↦ member.1 == some name) =
      (membersNamed name members).map (some name, ·) := by
    rw [membersNamed, List.map_map]
    refine (List.map_id _).symm.trans (List.map_congr_left fun member hmember ↦ ?_)
    exact Prod.ext (beq_iff_eq.mp (List.mem_filter.mp hmember).2) rfl
  refine ⟨members.filter fun member ↦ !(member.1 == some name), ?_, fun member hmember heq ↦ ?_⟩
  · rw [← hnamed]
    exact (List.filter_append_perm _ members).symm
  · rw [List.mem_filter, heq, beq_self_eq_true] at hmember
    exact Bool.false_ne_true hmember.2

/-- A list with at most one element is not permuted. -/
theorem eq_toList_of_perm {values : List Value} (hvalues : values.Perm field.toList) :
    values = field.toList := by
  cases field with
  | none => exact hvalues.eq_nil
  | some value => exact List.perm_singleton.mp hvalues

/-- Every field is found in any arrangement of the members. The members of the fields in front count
as others for those behind, since the names differ. -/
theorem forall₂_finds (hnames : names.Nodup) (hlength : names.length = fields.length)
    (hmembers : members.Perm (presentMembers names fields ++ others))
    (hothers : ∀ member ∈ others, ∃ key ∉ names, member.1 = some key) :
    List.Forall₂ (Finds members) names fields := by
  induction names generalizing fields others with
  | nil =>
    obtain rfl := List.length_eq_zero_iff.mp hlength.symm
    exact .nil
  | cons name names ih =>
    obtain ⟨field, fields, rfl⟩ := List.exists_cons_of_length_eq_add_one hlength.symm
    obtain ⟨hname, hnames⟩ := List.nodup_cons.mp hnames
    rw [presentMembers_cons, List.append_assoc] at hmembers
    refine .cons (eq_toList_of_perm ?_) (ih hnames (Nat.succ.inj hlength)
      (hmembers.trans (List.perm_append_comm_assoc _ _ _)) fun member hmember ↦ ?_)
    · have hpresent : membersNamed name (presentMembers names fields) = [] := by
        refine membersNamed_eq_nil fun member hmember hkey ↦ hname ?_
        obtain ⟨key, hmem, hkey'⟩ := exists_name_of_mem_presentMembers hmember
        exact Option.some.inj (hkey.symm.trans hkey') ▸ hmem
      have hnone : membersNamed name others = [] := by
        refine membersNamed_eq_nil fun member hmember hkey ↦ ?_
        obtain ⟨key, hnotin, hkey'⟩ := hothers member hmember
        exact hnotin (Option.some.inj (hkey.symm.trans hkey') ▸ List.mem_cons_self)
      have hperm := membersNamed_perm name hmembers
      rwa [membersNamed_append, membersNamed_append, membersNamed_map_self, hpresent, hnone,
        List.append_nil, List.append_nil] at hperm
    · rcases List.mem_append.mp hmember with hfield | hother
      · obtain ⟨value, -, rfl⟩ := List.mem_map.mp hfield
        exact ⟨name, hname, rfl⟩
      · obtain ⟨key, hnotin, hkey⟩ := hothers member hother
        exact ⟨key, fun hmem ↦ hnotin (List.mem_cons_of_mem name hmem), hkey⟩

/-- Members that are taken away do not matter under other names. -/
theorem forall₂_finds_of_perm {values : List Value} {rest : List (Option String × Value)}
    (hname : name ∉ names) (hsplit : members.Perm (values.map (some name, ·) ++ rest))
    (hfields : List.Forall₂ (Finds members) names fields) :
    List.Forall₂ (Finds rest) names fields := by
  rw [List.forall₂_iff_zip] at hfields ⊢
  refine ⟨hfields.1, fun {other field} hmem ↦ ?_⟩
  have hother : name ≠ other := fun heq ↦ hname (heq ▸ (List.of_mem_zip hmem).1)
  have hfield : membersNamed other members = field.toList := hfields.2 hmem
  have hperm := membersNamed_perm other hsplit
  rw [hfield, membersNamed_append, membersNamed_map_of_ne hother, List.nil_append] at hperm
  exact eq_toList_of_perm hperm.symm

/-- What is left of the members without those of the fields is named otherwise. The induction takes
the members of one field after the other away. -/
theorem exists_perm_presentMembers (hkeys : ∀ member ∈ members, member.1.isSome = true)
    (hfields : List.Forall₂ (Finds members) names fields) (hnames : names.Nodup) :
    ∃ others, members.Perm (presentMembers names fields ++ others) ∧
      ∀ member ∈ others, ∃ key ∉ names, member.1 = some key := by
  induction names generalizing fields members with
  | nil =>
    cases hfields
    refine ⟨members, List.Perm.refl members, fun member hmember ↦ ?_⟩
    obtain ⟨key, hkey⟩ := Option.isSome_iff_exists.mp (hkeys member hmember)
    exact ⟨key, List.not_mem_nil, hkey⟩
  | cons name names ih =>
    obtain ⟨hname, hnames⟩ := List.nodup_cons.mp hnames
    cases hfields with
    | @cons _ field _ fields hfield hfields =>
      obtain ⟨rest, hsplit, hrest⟩ := exists_perm_membersNamed name members
      rw [show membersNamed name members = field.toList from hfield] at hsplit
      have hfields' := forall₂_finds_of_perm hname hsplit hfields
      have hkeys' (member) (hmember : member ∈ rest) : member.1.isSome = true :=
        hkeys member (hsplit.mem_iff.mpr (List.mem_append_right _ hmember))
      obtain ⟨others, hperm, hothers⟩ := ih hkeys' hfields' hnames
      refine ⟨others, ?_, fun member hmember ↦ ?_⟩
      · rw [presentMembers_cons, List.append_assoc]
        exact hsplit.trans (hperm.append_left _)
      · obtain ⟨key, hnotin, hkey⟩ := hothers member hmember
        refine ⟨key, fun hmem ↦ ?_, hkey⟩
        rcases List.mem_cons.mp hmem with rfl | hmem
        · exact hrest member (hperm.mem_iff.mpr (List.mem_append_right _ hmember)) hkey
        · exact hnotin hmem

theorem mapM_eq_some_iff {α β : Type} (read : α → Option β) (inputs : List α) (outputs : List β) :
    inputs.mapM read = some outputs ↔
      List.Forall₂ (fun input output ↦ read input = some output) inputs outputs := by
  induction inputs generalizing outputs with
  | nil =>
    rw [List.mapM_nil, List.forall₂_nil_left_iff]
    exact ⟨fun heq ↦ (Option.some.inj heq).symm, fun heq ↦ heq ▸ rfl⟩
  | cons input inputs ih =>
    rw [List.mapM_cons, List.forall₂_cons_left_iff]
    constructor
    · intro hread
      obtain ⟨output, houtput, hread⟩ := Option.bind_eq_some_iff.mp hread
      obtain ⟨rest, hrest, hread⟩ := Option.bind_eq_some_iff.mp hread
      exact ⟨output, rest, houtput, (ih rest).mp hrest, (Option.some.inj hread).symm⟩
    · rintro ⟨output, rest, houtput, hrest, rfl⟩
      rw [houtput, (ih rest).mpr hrest]
      rfl

theorem fields?_object_eq_some_iff :
    fields? names (.object members) = some fields ↔
      (∀ member ∈ members, member.1.isSome = true) ∧
        List.Forall₂ (Finds members) names fields := by
  rw [fields?]
  split
  · next hkeys =>
    rw [mapM_eq_some_iff]
    constructor
    · intro hread
      refine ⟨List.all_eq_true.mp hkeys, hread.imp fun name field hfield ↦ ?_⟩
      split at hfield
      · next hnone => exact Option.some.inj hfield ▸ hnone
      · next value hone => exact Option.some.inj hfield ▸ hone
      · exact nomatch hfield
    · rintro ⟨-, hfields⟩
      refine hfields.imp fun name field hfield ↦ ?_
      rw [show membersNamed name members = field.toList from hfield]
      cases field <;> rfl
  · next hkeys =>
    exact iff_of_false nofun fun hmembers ↦ hkeys (List.all_eq_true.mpr hmembers.1)

theorem fields?_eq_some_iff (hnames : names.Nodup) (value : Value) :
    fields? names value = some fields ↔ IsRecord names fields value := by
  constructor
  · intro hfields
    cases value with
    | array items =>
      obtain ⟨hlength, hitems⟩ := Option.ite_none_right_eq_some.mp hfields
      exact Option.some.inj hitems ▸ .array items hlength
    | object members =>
      obtain ⟨hkeys, hfields⟩ := fields?_object_eq_some_iff.mp hfields
      obtain ⟨others, hperm, hothers⟩ := exists_perm_presentMembers hkeys hfields hnames
      exact .object hfields.length_eq hperm hothers
    | _ => exact nomatch hfields
  · intro hrecord
    cases hrecord with
    | array items hlength => exact if_pos hlength
    | @object fields members others hlength hmembers hothers =>
      refine fields?_object_eq_some_iff.mpr
        ⟨fun member hmember ↦ ?_, forall₂_finds hnames hlength hmembers hothers⟩
      rcases List.mem_append.mp (hmembers.mem_iff.mp hmember) with hpresent | hother
      · obtain ⟨name, -, hkey⟩ := exists_name_of_mem_presentMembers hpresent
        exact hkey ▸ rfl
      · obtain ⟨key, -, hkey⟩ := hothers member hother
        exact hkey ▸ rfl

end Records

end Configuration

/-! ### Fields -/

namespace Json

def Number.ofInt (value : Int) : Number := ⟨value < 0, value.natAbs, true⟩

theorem Number.integer?_ofInt (value : Int) : (ofInt value).integer? = some value := by
  rw [ofInt, integer?]
  dsimp only
  by_cases hsign : value < 0
  · have hmagnitude : (value.natAbs == 0) = false := beq_eq_false_iff_ne.mpr (by omega)
    have hvalue : -(value.natAbs : Int) = value := by omega
    rw [decide_eq_true hsign, hmagnitude]
    exact congrArg some hvalue
  · have hvalue : (value.natAbs : Int) = value := by omega
    rw [decide_eq_false hsign]
    exact congrArg some hvalue

theorem Number.integer?_eq_some_iff (number : Number) (value : Int) :
    number.integer? = some value ↔ number = .ofInt value := by
  refine ⟨fun hinteger ↦ ?_, fun hnumber ↦ hnumber ▸ integer?_ofInt value⟩
  obtain ⟨negative, magnitude, integral⟩ := number
  cases integral with
  | false => exact nomatch hinteger
  | true =>
    cases negative with
    | false =>
      obtain rfl : (magnitude : Int) = value := Option.some.inj hinteger
      have hsign : decide ((magnitude : Int) < 0) = false := decide_eq_false (by omega)
      rw [ofInt, hsign, Int.natAbs_natCast]
    | true =>
      obtain ⟨hnonzero, hinteger⟩ := Option.ite_none_left_eq_some.mp hinteger
      obtain rfl : -(magnitude : Int) = value := Option.some.inj hinteger
      have hmagnitude : magnitude ≠ 0 := fun hzero ↦ hnonzero (beq_iff_eq.mpr hzero)
      have hsign : decide (-(magnitude : Int) < 0) = true := decide_eq_true (by omega)
      rw [ofInt, hsign, Int.natAbs_neg, Int.natAbs_natCast]

end Json

namespace Configuration

def fileValue : Option String → Value
  | none => .null
  | some name => .text (some name)

theorem integer?_eq_some_iff (lower upper : Int) (value : Value) (number : Int) :
    integer? lower upper value = some number ↔
      value = .number (.ofInt number) ∧ lower ≤ number ∧ number ≤ upper := by
  constructor
  · intro hread
    cases value with
    | number written =>
      obtain ⟨read, hinteger, hread⟩ := Option.bind_eq_some_iff.mp hread
      obtain ⟨hbounds, hread⟩ := Option.ite_none_right_eq_some.mp hread
      cases hread
      have hwritten := (Number.integer?_eq_some_iff written number).mp hinteger
      exact ⟨congrArg Value.number hwritten, hbounds⟩
    | _ => exact nomatch hread
  · rintro ⟨rfl, hbounds⟩
    have hinteger := (Number.integer?_eq_some_iff (.ofInt number) number).mpr rfl
    exact Option.bind_eq_some_iff.mpr ⟨number, hinteger, if_pos hbounds⟩

theorem text?_eq_some_iff (value : Value) (text : String) :
    text? value = some text ↔ value = .text (some text) := by
  cases value with
  | text value =>
    rw [text?, Value.text.injEq]
  | _ => exact iff_of_false nofun nofun

theorem bool?_eq_some_iff (value : Value) (truth : Bool) :
    bool? value = some truth ↔ value = .bool truth := by
  cases value with
  | bool value =>
    rw [bool?, Value.bool.injEq, Option.some_inj]
  | _ => exact iff_of_false nofun nofun

theorem optionalText?_eq_some_iff (value : Value) (file : Option String) :
    optionalText? value = some file ↔ value = fileValue file := by
  cases value with
  | null => cases file <;> simp [optionalText?, fileValue]
  | text value => cases value <;> cases file <;> simp [optionalText?, text?, fileValue]
  | _ => cases file <;> simp [optionalText?, text?, fileValue]

end Configuration

/-! ### Configurations -/

/-- The numbers fit the types they are kept in. -/
structure DiversionSettings.Fits (settings : DiversionSettings) : Prop where
  priority_ge : -32768 ≤ settings.priority
  priority_le : settings.priority ≤ 32767
  bufferSize_le : settings.bufferSize ≤ 0xFFFFFFFFFFFFFFFF

/-- How the settings of the diversion may be written. -/
def DiversionSettings.WrittenAs (settings : DiversionSettings) (value : Value) : Prop :=
  Configuration.IsRecord ["priority", "buffer_size"]
    [some (.number (.ofInt settings.priority)), some (.number (.ofInt settings.bufferSize))] value

/-- How the settings of log and report may be written. Without a log file its field may be absent
or null. -/
def LoggingSettings.WrittenAs (settings : LoggingSettings) (value : Value) : Prop :=
  ∃ file : Option Value, file.getD .null = Configuration.fileValue settings.file ∧
    Configuration.IsRecord ["level", "log_file", "color"]
      [some (.text (some settings.level)), file, some (.bool settings.color)] value

namespace Configuration

/-- How a configuration may be written. -/
def WrittenAs (configuration : Configuration) (value : Value) : Prop :=
  ∃ diversion logging : Value,
    configuration.diversion.WrittenAs diversion ∧ configuration.logging.WrittenAs logging ∧
      IsRecord ["divert", "logging"] [some diversion, some logging] value

theorem diversion?_eq_some_iff (value : Value) (settings : DiversionSettings) :
    diversion? value = some settings ↔ settings.Fits ∧ settings.WrittenAs value := by
  have hnames : ["priority", "buffer_size"].Nodup := by decide
  constructor
  · intro hread
    obtain ⟨fields, hfields, hread⟩ := Option.bind_eq_some_iff.mp hread
    have hrecord := (fields?_eq_some_iff hnames value).mp hfields
    split at hread
    · obtain ⟨priority, hpriority, hread⟩ := Option.bind_eq_some_iff.mp hread
      obtain ⟨size, hsize, hread⟩ := Option.bind_eq_some_iff.mp hread
      cases hread
      obtain ⟨rfl, hge, hle⟩ := (integer?_eq_some_iff _ _ _ _).mp hpriority
      obtain ⟨rfl, hnonneg, hsmall⟩ := (integer?_eq_some_iff _ _ _ _).mp hsize
      refine ⟨⟨hge, hle, Int.toNat_le.mpr hsmall⟩, ?_⟩
      rw [DiversionSettings.WrittenAs, Int.toNat_of_nonneg hnonneg]
      exact hrecord
    · exact nomatch hread
  · rintro ⟨hfits, hrecord⟩
    obtain ⟨hge, hle, hsmall⟩ := hfits
    have hfields := (fields?_eq_some_iff hnames value).mpr hrecord
    have hpriority := (integer?_eq_some_iff (-32768) 32767 _ settings.priority).mpr ⟨rfl, hge, hle⟩
    have hsize := (integer?_eq_some_iff 0 0xFFFFFFFFFFFFFFFF _ settings.bufferSize).mpr
      ⟨rfl, Int.natCast_nonneg _, Int.ofNat_le.mpr hsmall⟩
    unfold diversion?
    rw [hfields, Option.bind_eq_bind, Option.bind_some]
    dsimp only
    rw [hpriority, hsize]
    rfl

theorem logging?_eq_some_iff (value : Value) (settings : LoggingSettings) :
    logging? value = some settings ↔ settings.WrittenAs value := by
  have hnames : ["level", "log_file", "color"].Nodup := by decide
  constructor
  · intro hread
    obtain ⟨fields, hfields, hread⟩ := Option.bind_eq_some_iff.mp hread
    have hrecord := (fields?_eq_some_iff hnames value).mp hfields
    split at hread
    · next file _ =>
      obtain ⟨level, hlevel, hread⟩ := Option.bind_eq_some_iff.mp hread
      obtain ⟨name, hname, hread⟩ := Option.bind_eq_some_iff.mp hread
      obtain ⟨color, hcolor, hread⟩ := Option.bind_eq_some_iff.mp hread
      cases hread
      obtain rfl := (text?_eq_some_iff _ _).mp hlevel
      obtain rfl := (bool?_eq_some_iff _ _).mp hcolor
      exact ⟨file, (optionalText?_eq_some_iff _ _).mp hname, hrecord⟩
    · exact nomatch hread
  · rintro ⟨file, hfile, hrecord⟩
    have hfields := (fields?_eq_some_iff hnames value).mpr hrecord
    have hlevel := (text?_eq_some_iff _ settings.level).mpr rfl
    have hname := (optionalText?_eq_some_iff _ settings.file).mpr hfile
    have hcolor := (bool?_eq_some_iff _ settings.color).mpr rfl
    unfold logging?
    rw [hfields, Option.bind_eq_bind, Option.bind_some]
    dsimp only
    rw [hlevel, hname, hcolor]
    rfl

/-- A document is read as a configuration just if it is one of the values that the configuration may
be written as, and its numbers fit. -/
theorem ofDocument?_eq_some_iff (document : String) (configuration : Configuration) :
    ofDocument? document = some configuration ↔ configuration.diversion.Fits ∧
      ∃ value : Value, scan? document.toList = some value.tokens ∧
        configuration.WrittenAs value := by
  have hnames : ["divert", "logging"].Nodup := by decide
  constructor
  · intro hread
    obtain ⟨value, hparse, hread⟩ := Option.bind_eq_some_iff.mp hread
    obtain ⟨fields, hfields, hread⟩ := Option.bind_eq_some_iff.mp hread
    have hscan := (Value.parse?_eq_some_iff document value).mp hparse
    have hrecord := (fields?_eq_some_iff hnames value).mp hfields
    split at hread
    · next divert log =>
      obtain ⟨diversion, hdiversion, hread⟩ := Option.bind_eq_some_iff.mp hread
      obtain ⟨logging, hlogging, hread⟩ := Option.bind_eq_some_iff.mp hread
      cases hread
      obtain ⟨hfits, hdiversion⟩ := (diversion?_eq_some_iff divert diversion).mp hdiversion
      have hlogging := (logging?_eq_some_iff log logging).mp hlogging
      exact ⟨hfits, value, hscan, divert, log, hdiversion, hlogging, hrecord⟩
    · exact nomatch hread
  · rintro ⟨hfits, value, hscan, divert, log, hdiversion, hlogging, hrecord⟩
    have hparse := (Value.parse?_eq_some_iff document value).mpr hscan
    have hfields := (fields?_eq_some_iff hnames value).mpr hrecord
    have hdiversion := (diversion?_eq_some_iff divert _).mpr ⟨hfits, hdiversion⟩
    have hlogging := (logging?_eq_some_iff log _).mpr hlogging
    unfold ofDocument?
    rw [hparse, Option.bind_eq_bind, Option.bind_some, hfields, Option.bind_eq_bind,
      Option.bind_some]
    dsimp only
    rw [hdiversion, hlogging]
    rfl

/-- Blanks, the order of the members and members that are not known do not matter. -/
theorem ofDocument?_of_spells {configuration : Configuration} {document : String} {value : Value}
    (hfits : configuration.diversion.Fits) (hwritten : configuration.WrittenAs value)
    (hspells : Spells document.toList value.tokens) :
    ofDocument? document = some configuration :=
  (ofDocument?_eq_some_iff document configuration).mpr
    ⟨hfits, value, scan?_of_spells hspells, hwritten⟩

theorem exists_writtenAs (configuration : Configuration) :
    ∃ value : Value, configuration.WrittenAs value :=
  ⟨_, _, _, .array [_, _] rfl, ⟨some (fileValue configuration.logging.file), rfl,
    .array [_, _, _] rfl⟩, .array [_, _] rfl⟩

/-- The configurations that some document describes. -/
theorem exists_document_iff (configuration : Configuration) :
    (∃ document, ofDocument? document = some configuration) ↔ configuration.diversion.Fits := by
  constructor
  · rintro ⟨document, hread⟩
    exact ((ofDocument?_eq_some_iff document configuration).mp hread).1
  · intro hfits
    obtain ⟨value, hwritten⟩ := configuration.exists_writtenAs
    refine ⟨String.ofList (value.tokens.flatMap (·.written ++ [' '])),
      ofDocument?_of_spells hfits hwritten ?_⟩
    rw [String.toList_ofList]
    exact spells_spaced value.tokens

end Configuration

end PacketRefusal
