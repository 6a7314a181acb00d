import Mathlib.Data.List.Basic
import Mathlib.Logic.Function.Iterate
import Mathlib.Logic.Relation
import PacketRefusal.Pattern.Search

/-!
# Sets of places and relations between places

A step takes sets of places of a text to sets of places. It advances along a relation between places
if it leads from each set exactly to the places that the relation leads to (`Advances`). Steps one
after the other advance along the composed relation, and a step that is repeated advances along its
powers (`Times`).

An iteration stops as soon as a step changes nothing. Nothing would change later either, so that the
iteration is the plain one (`Places.iterate_eq`, `Places.reach_eq`). A step that only adds places
adds at least one each time until it changes nothing at all; after as many steps as there are places
it is at its end (`iterate_grow_fixed`). This is why a repetition without an upper bound can be
searched with a bounded number of steps (`Advances.reach_all`).
-/

set_option autoImplicit false
set_option relaxedAutoImplicit false

namespace PacketRefusal.Pattern

/-- A relation that leads through a number of places one after the other. -/
def Times (way : Nat → Nat → Prop) : Nat → Nat → Nat → Prop
  | 0 => Eq
  | count + 1 => Relation.Comp way (Times way count)

section Times

variable {way : Nat → Nat → Prop} {start middle stop : Nat}

theorem times_one : Times way 1 = way := Relation.comp_eq

theorem Times.trans {first second : Nat} (hfirst : Times way first start middle)
    (hsecond : Times way second middle stop) : Times way (first + second) start stop := by
  induction first generalizing start with
  | zero => exact hfirst ▸ (Nat.zero_add second).symm ▸ hsecond
  | succ first ih =>
    obtain ⟨next, hnext, hrest⟩ := hfirst
    rw [Nat.succ_add]
    exact ⟨next, hnext, ih hrest⟩

theorem Times.split {first second : Nat} (htimes : Times way (first + second) start stop) :
    ∃ middle, Times way first start middle ∧ Times way second middle stop := by
  induction first generalizing start with
  | zero => exact ⟨start, rfl, Nat.zero_add second ▸ htimes⟩
  | succ first ih =>
    rw [Nat.succ_add] at htimes
    obtain ⟨next, hnext, hrest⟩ := htimes
    obtain ⟨middle, hbefore, hbehind⟩ := ih hrest
    exact ⟨middle, ⟨next, hnext, hbefore⟩, hbehind⟩

/-- Steps that may also stay where they are. -/
theorem times_or_stay (count : Nat) :
    Times (fun start stop ↦ start = stop ∨ way start stop) count start stop ↔
      ∃ number ≤ count, Times way number start stop := by
  induction count generalizing start with
  | zero =>
    constructor
    · exact fun hstay ↦ ⟨0, Nat.le_refl 0, hstay⟩
    · rintro ⟨number, hle, htimes⟩
      obtain rfl := Nat.le_zero.mp hle
      exact htimes
  | succ count ih =>
    constructor
    · rintro ⟨next, hstep, hrest⟩
      obtain ⟨number, hle, htimes⟩ := ih.mp hrest
      rcases hstep with rfl | hstep
      · exact ⟨number, Nat.le_succ_of_le hle, htimes⟩
      · exact ⟨number + 1, Nat.succ_le_succ hle, next, hstep, htimes⟩
    · rintro ⟨number, hle, htimes⟩
      cases number with
      | zero => exact ⟨start, .inl rfl, ih.mpr ⟨0, Nat.zero_le _, htimes⟩⟩
      | succ number =>
        obtain ⟨next, hstep, hrest⟩ := htimes
        exact ⟨next, .inr hstep, ih.mpr ⟨number, Nat.le_of_succ_le_succ hle, hrest⟩⟩

/-! A relation that leads nowhere else. -/

theorem Times.eq_of_still (hstill : ∀ start stop, way start stop → start = stop) {count : Nat}
    (htimes : Times way count start stop) : start = stop := by
  induction count generalizing start with
  | zero => exact htimes
  | succ count ih =>
    obtain ⟨next, hnext, hrest⟩ := htimes
    exact (hstill _ _ hnext).trans (ih hrest)

theorem times_succ_of_still (hstill : ∀ start stop, way start stop → start = stop) (count : Nat) :
    Times way (count + 1) start stop ↔ way start stop := by
  constructor
  · rintro ⟨next, hnext, hrest⟩
    exact hrest.eq_of_still hstill ▸ hnext
  · intro hway
    obtain rfl := hstill _ _ hway
    induction count with
    | zero => exact ⟨start, hway, rfl⟩
    | succ count ih => exact ⟨start, hway, ih⟩

theorem times_congr_of_still (hstill : ∀ start stop, way start stop → start = stop)
    {count count' : Nat} (hzero : count = 0 ↔ count' = 0) :
    Times way count start stop ↔ Times way count' start stop := by
  cases count with
  | zero => rw [hzero.mp rfl]
  | succ count =>
    have hne : count' ≠ 0 := fun hcount ↦ Nat.succ_ne_zero count (hzero.mpr hcount)
    obtain ⟨number, rfl⟩ := Nat.exists_eq_succ_of_ne_zero hne
    rw [times_succ_of_still hstill, times_succ_of_still hstill]

end Times

namespace Places

def Has (places : Places) (place : Nat) : Prop := places[place]? = some true

theorem Has.lt_length {places : Places} {place : Nat} (hhas : places.Has place) :
    place < places.length :=
  (List.getElem?_eq_some_iff.mp hhas).1

theorem any_iff (places : Places) : places.any id = true ↔ ∃ place, places.Has place := by
  simp only [List.any_eq_true, List.mem_iff_getElem?, Has, id_eq, exists_eq_right]

theorem has_all (text : List Char) (place : Nat) : (all text).Has place ↔ place ≤ text.length := by
  have hall : all text = List.replicate (text.length + 1) true := by
    rw [all, List.map_const', List.replicate_succ]
  rw [Has, hall, List.getElem?_replicate]
  split <;> simp <;> omega

theorem length_all (text : List Char) : (all text).length = text.length + 1 := by
  rw [all, List.length_cons, List.length_map]

/-! ### Unions -/

section Union

variable {places other : Places}

theorem length_union (hlength : places.length = other.length) :
    (places.union other).length = places.length := by
  rw [union, List.length_zipWith, hlength, Nat.min_self]

theorem has_union (hlength : places.length = other.length) (place : Nat) :
    (places.union other).Has place ↔ places.Has place ∨ other.Has place := by
  rw [union, Has, Has, Has, List.getElem?_zipWith]
  rcases Nat.lt_or_ge place places.length with hlt | hge
  · rw [List.getElem?_eq_getElem hlt, List.getElem?_eq_getElem (hlength ▸ hlt)]
    simp
  · rw [List.getElem?_eq_none hge, List.getElem?_eq_none (hlength ▸ hge)]
    simp

/-- A union has more places than one of the two sets, if it is not that set. -/
theorem count_lt_count_union (hlength : places.length = other.length)
    (hchange : places.union other ≠ places) :
    places.count true < (places.union other).count true := by
  induction places generalizing other with
  | nil => exact absurd rfl hchange
  | cons first rest ih =>
    cases other with
    | nil => cases hlength
    | cons first' rest' =>
      rw [List.length_cons, List.length_cons, Nat.succ_inj] at hlength
      have hunion : Places.union (first :: rest) (first' :: rest') =
          (first || first') :: Places.union rest rest' := rfl
      rw [hunion] at hchange ⊢
      by_cases hrest : Places.union rest rest' = rest
      · rw [hrest] at hchange ⊢
        cases first <;> cases first' <;> simp at hchange ⊢
      · have hcount := ih hlength hrest
        cases first <;> cases first' <;> simp <;> omega

end Union

/-! ### Iterations -/

theorem iterate_eq (step : Places → Places) (count : Nat) (places : Places) :
    iterate step count places = step^[count] places := by
  induction count generalizing places with
  | zero => rfl
  | succ count ih =>
    rw [iterate]
    split
    · next hsame => exact (Function.iterate_fixed hsame (count + 1)).symm
    · rw [ih, Function.iterate_succ_apply]

/-- A step that keeps the places it starts from. -/
def grow (step : Places → Places) (places : Places) : Places := places.union (step places)

theorem reach_eq (step : Places → Places) (count : Nat) (places : Places) :
    reach step count places = (grow step)^[count] places := by
  induction count generalizing places with
  | zero => rfl
  | succ count ih =>
    rw [reach]
    split
    · next hsame => exact (Function.iterate_fixed hsame (count + 1)).symm
    · rw [ih, Function.iterate_succ_apply]
      rfl

end Places

/-- From every set of places of a text with `size` places, a step leads to the places that a
relation leads to, and to no others. -/
structure Advances (size : Nat) (step : Places → Places) (way : Nat → Nat → Prop) : Prop where
  length : ∀ places, places.length = size → (step places).length = size
  has_iff : ∀ places, places.length = size → ∀ stop,
    (step places).Has stop ↔ ∃ start, places.Has start ∧ way start stop

namespace Advances

open Places

variable {size : Nat} {step further : Places → Places} {way beyond : Nat → Nat → Prop}

theorem stay : Advances size id Eq where
  length _ hlength := hlength
  has_iff _ _ _ := ⟨fun hhas ↦ ⟨_, hhas, rfl⟩, fun ⟨_, hhas, hsame⟩ ↦ hsame ▸ hhas⟩

theorem nowhere : Advances size (fun places ↦ places.map fun _ ↦ false) fun _ _ ↦ False where
  length places hlength := (List.length_map _).trans hlength
  has_iff places _ stop := by
    simp only [Has, List.getElem?_map, and_false, exists_false, iff_false]
    cases places[stop]? <;> simp

theorem comp (hsecond : Advances size further beyond) (hfirst : Advances size step way) :
    Advances size (further ∘ step) (Relation.Comp way beyond) where
  length places hlength := hsecond.length _ (hfirst.length places hlength)
  has_iff places hlength stop := by
    rw [Function.comp_apply, hsecond.has_iff _ (hfirst.length places hlength)]
    constructor
    · rintro ⟨middle, hmiddle, hbeyond⟩
      obtain ⟨start, hstart, hway⟩ := (hfirst.has_iff places hlength middle).mp hmiddle
      exact ⟨start, hstart, middle, hway, hbeyond⟩
    · rintro ⟨start, hstart, middle, hway, hbeyond⟩
      exact ⟨middle, (hfirst.has_iff places hlength middle).mpr ⟨start, hstart, hway⟩, hbeyond⟩

theorem union (hfirst : Advances size step way) (hsecond : Advances size further beyond) :
    Advances size (fun places ↦ (step places).union (further places))
      fun start stop ↦ way start stop ∨ beyond start stop where
  length places hlength := by
    rw [length_union ((hfirst.length places hlength).trans (hsecond.length places hlength).symm),
      hfirst.length places hlength]
  has_iff places hlength stop := by
    rw [has_union ((hfirst.length places hlength).trans (hsecond.length places hlength).symm),
      hfirst.has_iff places hlength, hsecond.has_iff places hlength, ← exists_or]
    simp only [and_or_left]

theorem iterate (hstep : Advances size step way) (count : Nat) :
    Advances size step^[count] (Times way count) := by
  induction count with
  | zero => exact stay
  | succ count ih =>
    rw [Function.iterate_succ]
    exact ih.comp hstep

theorem grow (hstep : Advances size step way) :
    Advances size (Places.grow step) fun start stop ↦ start = stop ∨ way start stop :=
  stay.union hstep

theorem reach (hstep : Advances size step way) (count : Nat) :
    Advances size (Places.reach step count)
      fun start stop ↦ ∃ number ≤ count, Times way number start stop := by
  have hreach : Places.reach step count = (Places.grow step)^[count] := funext (reach_eq step count)
  have hways : Times (fun start stop ↦ start = stop ∨ way start stop) count =
      fun start stop ↦ ∃ number ≤ count, Times way number start stop :=
    funext₂ fun _ _ ↦ propext (times_or_stay count)
  rw [hreach, ← hways]
  exact hstep.grow.iterate count

/-! ### Repetition without an upper bound -/

/-- Up to the point where nothing changes, every step adds a place. -/
theorem fixed_or_le_count (hstep : Advances size step way) {places : Places}
    (hlength : places.length = size) (count : Nat) :
    Places.grow step ((Places.grow step)^[count] places) = (Places.grow step)^[count] places ∨
      count ≤ ((Places.grow step)^[count] places).count true := by
  induction count with
  | zero => exact .inr (Nat.zero_le _)
  | succ count ih =>
    have hreached := (hstep.grow.iterate count).length places hlength
    rw [Function.iterate_succ_apply']
    generalize (Places.grow step)^[count] places = reached at ih hreached
    by_cases hfixed : Places.grow step reached = reached
    · exact .inl (by rw [hfixed, hfixed])
    · have hmore := count_lt_count_union (hreached.trans (hstep.length _ hreached).symm) hfixed
      exact .inr (Nat.succ_le_of_lt (Nat.lt_of_le_of_lt (ih.resolve_left hfixed) hmore))

/-- After as many steps as there are places, nothing changes any more. -/
theorem iterate_grow_fixed (hstep : Advances size step way) {places : Places}
    (hlength : places.length = size) :
    Places.grow step ((Places.grow step)^[size] places) = (Places.grow step)^[size] places := by
  have hreached := (hstep.grow.iterate size).length places hlength
  have hcount := hstep.fixed_or_le_count hlength size
  generalize (Places.grow step)^[size] places = reached at hreached hcount
  refine hcount.elim id fun hfull ↦ by_contra fun hchange ↦ ?_
  -- All places belong to the set already, and a change would add one more.
  have hmore := count_lt_count_union (hreached.trans (hstep.length _ hreached).symm) hchange
  have hbound : (Places.grow step reached).count true ≤ size :=
    hstep.grow.length _ hreached ▸ List.count_le_length
  exact Nat.lt_irrefl _ (Nat.lt_of_lt_of_le (Nat.lt_of_le_of_lt hfull hmore) hbound)

theorem reach_all (hstep : Advances size step way) :
    Advances size (Places.reach step size)
      fun start stop ↦ ∃ number, Times way number start stop where
  length := (hstep.reach size).length
  has_iff places hlength stop := by
    have hfixed := hstep.iterate_grow_fixed hlength
    rw [← reach_eq] at hfixed
    have hreached := (hstep.reach size).length places hlength
    constructor
    · intro hhas
      obtain ⟨start, hstart, number, -, htimes⟩ :=
        ((hstep.reach size).has_iff places hlength stop).mp hhas
      exact ⟨start, hstart, number, htimes⟩
    · rintro ⟨start, hstart, number, htimes⟩
      have hclosed (place next : Nat) (hplace : (Places.reach step size places).Has place)
          (hnext : way place next) : (Places.reach step size places).Has next :=
        hfixed ▸ (hstep.grow.has_iff _ hreached next).mpr ⟨place, hplace, .inr hnext⟩
      have hfirst : (Places.reach step size places).Has start :=
        ((hstep.reach size).has_iff places hlength start).mpr ⟨start, hstart, 0, Nat.zero_le _, rfl⟩
      clear hstart
      induction number generalizing start with
      | zero => exact htimes ▸ hfirst
      | succ number ih =>
        obtain ⟨next, hnext, hrest⟩ := htimes
        exact ih next hrest (hclosed start next hfirst hnext)

end Advances

end PacketRefusal.Pattern
