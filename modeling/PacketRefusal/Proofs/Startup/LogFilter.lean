import PacketRefusal.Proofs.Pattern.Reading
import PacketRefusal.Startup.LogFilter

/-!
# What a specification of the log lets through

A specification gives directives one after the other (`Specification.directives`) and perhaps a
pattern (`Specification.required?`). For each selector the directive that is given last is in force
(`lastFor`), and about an origin decides the one in force whose selector covers most of its name
(`Decides`). There is exactly one such directive, because the level that the filter starts with is
for all origins.

The filter does not keep the directives in this way. It has one for each selector, replaces it where
it stands, and looks for the largest weight among those that fit, the last of several. The two come
to the same (`LogFilter.deciding?_eq_some_iff`) because the directive for all origins stays in front
(`Summarizes`). An entry is then written just if the directive that decides about its origin admits
it and the pattern matches somewhere in its message (`LogFilter.admits_refine_iff`). For the pattern
of a phrase this means that the message contains a word that the phrase describes
(`LogFilter.admits_refine_phrase`).
-/

set_option autoImplicit false
set_option relaxedAutoImplicit false

namespace PacketRefusal

open Text

/-! ### Pieces of a text -/

namespace Text

variable {separator : Char} {front : List Char}

theorem pieces_of_not_mem (hfront : separator ∉ front) : pieces separator front = [front] := by
  induction front with
  | nil => rfl
  | cons char rest ih =>
    rw [List.mem_cons, not_or] at hfront
    rw [pieces, if_neg (Ne.symm hfront.1), ih hfront.2]

theorem pieces_append_separator (hfront : separator ∉ front) (back : List Char) :
    pieces separator (front ++ separator :: back) = front :: pieces separator back := by
  induction front with
  | nil => rw [List.nil_append, pieces, if_pos rfl]
  | cons char rest ih =>
    rw [List.mem_cons, not_or] at hfront
    rw [List.cons_append, pieces, if_neg (Ne.symm hfront.1), ih hfront.2]

end Text

/-! ### What a specification says -/

namespace Specification

/-- The directive that a part of a specification gives, if it can be read and is not blank. -/
def directive? (part : List Char) : Option Directive :=
  if trim part = [] then none else (Directive.parse (trim part)).toOption

/-- The directives of a specification, without those that cannot be read. -/
def directives (specification : String) : List Directive :=
  match pieces '/' specification.toList with
  | [given] | [given, _] => (pieces ',' given).filterMap directive?
  | _ => []

/-- The pattern of a specification, unless it is refused. -/
def required? (specification : String) : Option Pattern :=
  match pieces '/' specification.toList with
  | [_, pattern] => (Pattern.ofText (String.ofList pattern)).toOption
  | _ => none

end Specification

/-- The last directive that was given for a selector. -/
def lastFor (given : List Directive) (selector : Option String) : Option Directive :=
  given.reverse.find? (·.selector == selector)

theorem lastFor_concat (given : List Directive) (directive : Directive)
    (selector : Option String) :
    lastFor (given ++ [directive]) selector =
      if directive.selector = selector then some directive else lastFor given selector := by
  rw [lastFor, List.reverse_append, List.reverse_singleton, List.singleton_append, List.find?_cons,
    lastFor]
  by_cases hselector : directive.selector = selector
  · rw [if_pos hselector, beq_iff_eq.mpr hselector]
  · rw [if_neg hselector, beq_false_of_ne hselector]

theorem selector_of_lastFor {given : List Directive} {selector : Option String}
    {directive : Directive} (hlast : lastFor given selector = some directive) :
    directive.selector = selector :=
  eq_of_beq (List.find?_some (p := fun known : Directive ↦ known.selector == selector) hlast)

/-- One selector is as special as another one for the names that fit both. -/
def AsSpecial : Option String → Option String → Prop
  | _, none => True
  | none, some _ => False
  | some selector, some other => other.toList <+: selector.toList

/-- Of the directives in force that fit an origin, one is as special as the others. -/
structure Decides (given : List Directive) (origin : String) (directive : Directive) : Prop where
  inForce : lastFor given directive.selector = some directive
  fits : directive.fits origin = true
  special : ∀ other ∈ given, other.fits origin = true → AsSpecial directive.selector other.selector

/-- A list holds the directives in force, one for each selector, with the one for all origins in
front. -/
structure Summarizes (given directives : List Directive) : Prop where
  front : ∃ level rest, directives = ⟨none, level⟩ :: rest ∧
    ∀ directive ∈ rest, directive.selector ≠ none
  distinct : directives.Pairwise fun first second ↦ first.selector ≠ second.selector
  mem_iff : ∀ directive, directive ∈ directives ↔
    lastFor given directive.selector = some directive

namespace Summarizes

variable {given directives : List Directive}

theorem ofLevel (level : Log.Level) :
    Summarizes [⟨none, level⟩] (LogFilter.ofLevel level).directives where
  front := ⟨level, [], rfl, by simp⟩
  distinct := List.pairwise_singleton _ _
  mem_iff directive := by
    have hlast := lastFor_concat [] ⟨none, level⟩ directive.selector
    rw [List.nil_append] at hlast
    rw [hlast, LogFilter.ofLevel, List.mem_singleton]
    split
    · rw [Option.some.injEq, eq_comm]
    · next hselector =>
      refine iff_of_false ?_ nofun
      rintro rfl
      exact hselector rfl

theorem selector_ne {directive : Directive}
    (hnew : directives.any (·.selector == directive.selector) = false) {known : Directive}
    (hknown : known ∈ directives) : known.selector ≠ directive.selector := by
  rw [List.any_eq_false] at hnew
  simpa using hnew known hknown

/-- A directive for a selector that is new. -/
theorem concat (hsummary : Summarizes given directives) {directive : Directive}
    (hnew : directives.any (·.selector == directive.selector) = false) :
    Summarizes (given ++ [directive]) (directives ++ [directive]) where
  front := by
    obtain ⟨level, rest, rfl, hrest⟩ := hsummary.front
    refine ⟨level, rest ++ [directive], rfl, ?_⟩
    simp only [List.mem_append, List.mem_singleton]
    rintro other (hother | rfl)
    · exact hrest other hother
    · exact (selector_ne hnew List.mem_cons_self).symm
  distinct := by
    rw [List.pairwise_append]
    refine ⟨hsummary.distinct, List.pairwise_singleton _ _, fun known hknown other hother ↦ ?_⟩
    rw [List.mem_singleton.mp hother]
    exact selector_ne hnew hknown
  mem_iff other := by
    rw [List.mem_append, List.mem_singleton, lastFor_concat]
    split
    · next hselector =>
      have habsent : other ∉ directives := fun hknown ↦
        selector_ne hnew hknown hselector.symm
      rw [or_iff_right habsent, Option.some.injEq, eq_comm]
    · next hselector =>
      have hne : other ≠ directive := fun hother ↦ hselector (hother ▸ rfl)
      rw [or_iff_left hne, hsummary.mem_iff]

/-- A directive for a selector that is known. -/
theorem replace (hsummary : Summarizes given directives) {directive : Directive}
    (hknown : directives.any (·.selector == directive.selector) = true) :
    Summarizes (given ++ [directive]) (directives.map fun known ↦
      if known.selector = directive.selector then directive else known) := by
  generalize hreplaced : (fun known : Directive ↦
    if known.selector = directive.selector then directive else known) = replaced
  have hsame {known : Directive} (hsame : known.selector = directive.selector) :
      replaced known = directive := hreplaced ▸ if_pos hsame
  have hother {known : Directive} (hother : known.selector ≠ directive.selector) :
      replaced known = known := hreplaced ▸ if_neg hother
  have hselector (known : Directive) : (replaced known).selector = known.selector := by
    by_cases hknown : known.selector = directive.selector
    · rw [hsame hknown, hknown]
    · rw [hother hknown]
  refine ⟨?_, ?_, fun other ↦ ?_⟩
  · obtain ⟨level, rest, rfl, hrest⟩ := hsummary.front
    have hfirst := hselector ⟨none, level⟩
    refine ⟨(replaced ⟨none, level⟩).level, rest.map replaced, ?_, fun other hmem ↦ ?_⟩
    · rw [List.map_cons]
      congr 1
      exact congrArg (Directive.mk · _) hfirst
    · obtain ⟨known, hknown, rfl⟩ := List.mem_map.mp hmem
      exact hselector known ▸ hrest known hknown
  · rw [List.pairwise_map]
    simpa only [hselector] using hsummary.distinct
  · rw [List.mem_map, lastFor_concat]
    constructor
    · rintro ⟨known, hmem, rfl⟩
      rw [hselector]
      split
      · next hknown => rw [hsame hknown.symm]
      · next hknown => rw [hother (Ne.symm hknown), (hsummary.mem_iff known).mp hmem]
    · split
      · next hknown' =>
        rintro hlast
        obtain ⟨known, hmem, hequal⟩ := List.any_eq_true.mp hknown
        exact ⟨known, hmem, (hsame (eq_of_beq hequal)).trans (Option.some.inj hlast)⟩
      · next hdiffers =>
        intro hlast
        exact ⟨other, (hsummary.mem_iff other).mpr hlast, hother (Ne.symm hdiffers)⟩

theorem insert {filter : LogFilter} (hsummary : Summarizes given filter.directives)
    (directive : Directive) :
    Summarizes (given ++ [directive]) (filter.insert directive).directives := by
  rw [LogFilter.insert]
  split
  · next hknown => exact hsummary.replace hknown
  · next hnew => exact hsummary.concat (Bool.eq_false_iff.mpr hnew)

end Summarizes

/-! ### Reading a specification -/

namespace LogFilter

/-- Parts that cannot be read are passed over. -/
theorem fst_refineEach (filter : LogFilter) (parts : List (List Char)) :
    (filter.refineEach parts).1 =
      (parts.filterMap Specification.directive?).foldl insert filter := by
  induction parts generalizing filter with
  | nil => rfl
  | cons part rest ih =>
    rw [refineEach, List.filterMap_cons, Specification.directive?]
    dsimp only
    split
    · exact ih filter
    · cases Directive.parse (trim part) with
      | ok directive => exact ih (filter.insert directive)
      | error fault => exact ih filter

theorem required_foldl_insert (filter : LogFilter) (directives : List Directive) :
    (directives.foldl insert filter).required = filter.required := by
  induction directives generalizing filter with
  | nil => rfl
  | cons directive rest ih =>
    have hinsert : (filter.insert directive).required = filter.required := by
      rw [insert]
      split <;> rfl
    rw [List.foldl_cons, ih, hinsert]

theorem summarizes_foldl_insert {filter : LogFilter} {given : List Directive}
    (hsummary : Summarizes given filter.directives) (directives : List Directive) :
    Summarizes (given ++ directives) (directives.foldl insert filter).directives := by
  induction directives generalizing filter given with
  | nil => rwa [List.append_nil]
  | cons directive rest ih =>
    rw [List.append_cons]
    exact ih (hsummary.insert directive)

/-- What a specification makes of a filter. A pattern that is refused leaves the one from before. -/
theorem fst_refine (filter : LogFilter) (specification : String) :
    (filter.refine specification).1 =
      { directives := ((Specification.directives specification).foldl insert filter).directives
        required := (Specification.required? specification).or filter.required } := by
  rw [refine, Specification.directives, Specification.required?]
  rcases pieces '/' specification.toList with _ | ⟨given, _ | ⟨pattern, _ | ⟨_, _⟩⟩⟩
  · rfl
  · dsimp only
    rw [fst_refineEach, Option.none_or, ← required_foldl_insert]
  · dsimp only
    rw [fst_refineEach, require]
    cases Pattern.ofText (String.ofList pattern) with
    | ok pattern => rfl
    | error refusal =>
      dsimp only
      rw [Except.toOption, Option.none_or, ← required_foldl_insert]
  · rfl

/-! ### The directive that decides -/

/-- The choice between the best directive so far and the next one. -/
theorem foldl_choose (rest : List Directive) (first : Directive) :
    ∃ best, rest.foldl
        (fun best directive ↦
          match best with
          | some known => if known.weight ≤ directive.weight then some directive else best
          | none => some directive)
        (some first) = some best ∧
      (best = first ∧ (∀ other ∈ rest, other.weight < first.weight) ∨
        best ∈ rest ∧ ∀ other ∈ first :: rest, other.weight ≤ best.weight) := by
  induction rest generalizing first with
  | nil => exact ⟨first, rfl, .inl ⟨rfl, by simp⟩⟩
  | cons next rest ih =>
    rw [List.foldl_cons]
    dsimp only
    split
    · next hle =>
      obtain ⟨best, hbest, hcases⟩ := ih next
      refine ⟨best, hbest, .inr ?_⟩
      rcases hcases with ⟨rfl, hlower⟩ | ⟨hmem, hupper⟩
      · refine ⟨List.mem_cons_self, ?_⟩
        rw [List.forall_mem_cons, List.forall_mem_cons]
        exact ⟨hle, Nat.le_refl _, fun other hother ↦ Nat.le_of_lt (hlower other hother)⟩
      · refine ⟨List.mem_cons_of_mem next hmem, ?_⟩
        rw [List.forall_mem_cons]
        exact ⟨Nat.le_trans hle (hupper next List.mem_cons_self), hupper⟩
    · next hlt =>
      obtain ⟨best, hbest, hcases⟩ := ih first
      refine ⟨best, hbest, ?_⟩
      rcases hcases with ⟨rfl, hlower⟩ | ⟨hmem, hupper⟩
      · exact .inl ⟨rfl, List.forall_mem_cons.mpr ⟨Nat.lt_of_not_le hlt, hlower⟩⟩
      · obtain ⟨hfirst, hothers⟩ := List.forall_mem_cons.mp hupper
        refine .inr ⟨List.mem_cons_of_mem next hmem, ?_⟩
        rw [List.forall_mem_cons, List.forall_mem_cons]
        exact ⟨hfirst, Nat.le_trans (Nat.le_of_not_le hlt) hfirst, hothers⟩

end LogFilter

/-- Of two texts that a name starts with, the one of the larger size starts with the other one. -/
theorem prefix_of_utf8ByteSize_le {origin first second : String}
    (hfirst : first.toList <+: origin.toList) (hsecond : second.toList <+: origin.toList)
    (hsize : first.utf8ByteSize ≤ second.utf8ByteSize) : first.toList <+: second.toList := by
  rcases List.prefix_or_prefix_of_prefix hfirst hsecond with hprefix | ⟨extra, hextra⟩
  · exact hprefix
  · have hfirst : first = second ++ String.ofList extra := by
      rw [← String.toList_inj, String.toList_append, String.toList_ofList, hextra]
    rw [hfirst, String.utf8ByteSize_append] at hsize
    have hempty : String.ofList extra = "" := String.utf8ByteSize_eq_zero_iff.mp (by omega)
    rw [hempty, String.append_empty] at hfirst
    exact hfirst ▸ List.prefix_refl _

theorem Directive.fits_iff (directive : Directive) (origin : String) :
    directive.fits origin = true ↔
      ∀ selector, directive.selector = some selector → selector.toList <+: origin.toList := by
  rw [fits, Option.all_eq_true]
  simp only [List.isPrefixOf_iff_prefix]

/-- The selector with the larger weight is as special as the other one. -/
theorem asSpecial_of_weight_le {origin : String} {best other : Directive}
    (hbest : best.fits origin = true) (hother : other.fits origin = true)
    (hweight : other.weight ≤ best.weight)
    (hspecial : best.selector = none → other.selector = none) :
    AsSpecial best.selector other.selector := by
  rw [Directive.fits_iff] at hbest hother
  rw [Directive.weight, Directive.weight] at hweight
  cases hown : best.selector with
  | none => rw [hspecial hown]; trivial
  | some own =>
    cases hselector : other.selector with
    | none => trivial
    | some selector =>
      rw [hown, hselector] at hweight
      exact prefix_of_utf8ByteSize_le (hother selector hselector) (hbest own hown) hweight

section Decides

variable {given : List Directive} {origin : String} {first second : Directive}

theorem mem_of_lastFor {selector : Option String} {directive : Directive}
    (hlast : lastFor given selector = some directive) : directive ∈ given :=
  List.mem_reverse.mp (List.mem_of_find?_eq_some hlast)

theorem exists_lastFor {other : Directive} (hgiven : other ∈ given) :
    ∃ directive, lastFor given other.selector = some directive := by
  rw [← Option.isSome_iff_exists, lastFor, List.find?_isSome]
  exact ⟨other, List.mem_reverse.mpr hgiven, beq_self_eq_true _⟩

theorem Decides.unique (hfirst : Decides given origin first)
    (hsecond : Decides given origin second) : first = second := by
  have hspecial := hfirst.special second (mem_of_lastFor hsecond.inForce) hsecond.fits
  have hspecial' := hsecond.special first (mem_of_lastFor hfirst.inForce) hfirst.fits
  have hselector : first.selector = second.selector := by
    cases hown : first.selector <;> cases hother : second.selector
    · rfl
    · rw [hown, hother] at hspecial
      exact hspecial.elim
    · rw [hown, hother] at hspecial'
      exact hspecial'.elim
    · rw [hown, hother] at hspecial hspecial'
      have hlist := hspecial.eq_of_length_le hspecial'.length_le
      rw [String.toList_inj.mp hlist]
  exact Option.some.inj (hfirst.inForce.symm.trans (hselector ▸ hsecond.inForce))

end Decides

namespace LogFilter

variable {given : List Directive} {filter : LogFilter}

theorem exists_decides (hsummary : Summarizes given filter.directives) (origin : String) :
    ∃ directive, filter.deciding? origin = some directive ∧ Decides given origin directive := by
  obtain ⟨level, rest, hdirectives, hrest⟩ := hsummary.front
  obtain ⟨best, hbest, hcases⟩ := foldl_choose (rest.filter (·.fits origin)) ⟨none, level⟩
  have hdeciding : filter.deciding? origin = some best := by
    rw [deciding?, hdirectives, List.filter_cons_of_pos rfl, List.foldl_cons]
    exact hbest
  have hmem : best ∈ filter.directives ∧ best.fits origin = true := by
    rw [hdirectives]
    rcases hcases with ⟨rfl, -⟩ | ⟨hmem, -⟩
    · exact ⟨List.mem_cons_self, rfl⟩
    · obtain ⟨hmem, hfits⟩ := List.mem_filter.mp hmem
      exact ⟨List.mem_cons_of_mem _ hmem, hfits⟩
  refine ⟨best, hdeciding, (hsummary.mem_iff best).mp hmem.1, hmem.2, fun other hgiven hfits ↦ ?_⟩
  -- In the place of another directive that fits there is the one in force for its selector.
  obtain ⟨known, hlast⟩ := exists_lastFor hgiven
  have hselector := selector_of_lastFor hlast
  have hknown : known ∈ filter.directives := (hsummary.mem_iff known).mpr (hselector ▸ hlast)
  have hfitting : known.fits origin = true := by
    rw [Directive.fits_iff, hselector, ← Directive.fits_iff]
    exact hfits
  rw [← hselector]
  have hcandidate : known = ⟨none, level⟩ ∨ known ∈ rest.filter (·.fits origin) := by
    rw [hdirectives, List.mem_cons] at hknown
    exact hknown.imp id fun hrest ↦ List.mem_filter.mpr ⟨hrest, hfitting⟩
  rcases hcases with ⟨rfl, hlower⟩ | ⟨hchosen, hupper⟩
  · have hnone (hother : known ∈ rest.filter (·.fits origin)) : False :=
      Nat.not_lt_zero _ (hlower known hother)
    rw [hcandidate.resolve_right hnone]
    trivial
  · have hsome := hrest best (List.mem_of_mem_filter hchosen)
    exact asSpecial_of_weight_le hmem.2 hfitting (hupper known (List.mem_cons.mpr hcandidate))
      fun hselector ↦ absurd hselector hsome

theorem deciding?_eq_some_iff (hsummary : Summarizes given filter.directives) (origin : String)
    (directive : Directive) :
    filter.deciding? origin = some directive ↔ Decides given origin directive := by
  obtain ⟨best, hbest, hdecides⟩ := exists_decides hsummary origin
  rw [hbest, Option.some.injEq]
  constructor
  · rintro rfl
    exact hdecides
  · exact hdecides.unique

/-- After a specification was applied to a filter with one level, an entry is written just if the
directive that decides about its origin admits it, and the pattern, if one was accepted, matches its
message between two places. -/
theorem admits_refine_iff (level : Log.Level) (specification : String) (entry : LogEntry) :
    ((ofLevel level).refine specification).1.admits entry = true ↔
      (∃ directive,
        Decides (⟨none, level⟩ :: Specification.directives specification) entry.origin directive ∧
        directive.level.admits entry.record.severity = true) ∧
      ∀ pattern, Specification.required? specification = some pattern →
        ∃ start stop, start ≤ entry.record.message.toList.length ∧
          pattern.expression.Matches entry.record.message.toList start stop := by
  have hsummary := summarizes_foldl_insert (.ofLevel level)
    (Specification.directives specification)
  have hdirectives : ((ofLevel level).refine specification).1.directives =
      ((Specification.directives specification).foldl insert (ofLevel level)).directives := by
    rw [fst_refine]
  have hrequired : ((ofLevel level).refine specification).1.required =
      Specification.required? specification := by
    rw [fst_refine, ofLevel, Option.or_none]
  rw [← hdirectives] at hsummary
  rw [admits, Bool.and_eq_true, Option.any_eq_true, hrequired, Option.all_eq_true]
  simp only [deciding?_eq_some_iff hsummary, Pattern.occursIn, Pattern.Expression.occursIn_iff]
  rfl

/-- With the pattern for a phrase behind the directives, the entries are written whose messages
contain a word that the phrase describes. -/
theorem admits_refine_phrase (level : Log.Level) {given : List Char} (hgiven : '/' ∉ given)
    (phrase : Pattern.Phrase) (hphrase : '/' ∉ phrase.written)
    (hdepth : phrase.depth ≤ Pattern.nestingLimit)
    (hsize : ∀ direction, phrase.expression.searchSize direction ≤ Pattern.sizeLimit)
    (entry : LogEntry) :
    ((ofLevel level).refine (String.ofList (given ++ '/' :: phrase.written))).1.admits entry =
        true ↔
      (∃ directive,
        Decides (⟨none, level⟩ :: (pieces ',' given).filterMap Specification.directive?)
          entry.origin directive ∧
        directive.level.admits entry.record.severity = true) ∧
      ∃ word, phrase.Describes word ∧ word <:+: entry.record.message.toList := by
  obtain ⟨pattern, hpattern, hoccurs⟩ := phrase.exists_pattern hdepth hsize
  have hpieces : pieces '/' (String.ofList (given ++ '/' :: phrase.written)).toList =
      [given, phrase.written] := by
    rw [String.toList_ofList, pieces_append_separator hgiven, pieces_of_not_mem hphrase]
  have hdirectives : Specification.directives (String.ofList (given ++ '/' :: phrase.written)) =
      (pieces ',' given).filterMap Specification.directive? := by
    rw [Specification.directives, hpieces]
  have hrequired : Specification.required? (String.ofList (given ++ '/' :: phrase.written)) =
      some pattern := by
    rw [Specification.required?, hpieces]
    dsimp only
    rw [hpattern]
    rfl
  rw [admits_refine_iff, hdirectives, ← hoccurs, Pattern.occursIn, Pattern.Expression.occursIn_iff]
  simp only [hrequired, Option.some.injEq, forall_eq']

end LogFilter

end PacketRefusal
