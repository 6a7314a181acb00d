import PacketRefusal.Proofs.Pattern.Places

/-!
# What a search finds

`Expression.Matches` says what it means that an expression matches the text between two places,
without saying how this is found out: a sequence matches a text that is parted among its parts, a
choice what one of its branches matches, and a repetition what some number of occurrences cover one
after the other.

The search goes through the text with sets of places and never looks at a single way through it. It
advances along this relation all the same (`Expression.advances_behind`), so that an expression
occurs in a text just if it matches it between two of its places (`Expression.occursIn_iff`).
-/

set_option autoImplicit false
set_option relaxedAutoImplicit false

namespace PacketRefusal.Pattern

def charBefore? (text : List Char) : Nat → Option Char
  | 0 => none
  | place + 1 => text[place]?

/-- A condition holds at a place of a text. -/
def Condition.HoldsAt (condition : Condition) (text : List Char) (place : Nat) : Prop :=
  condition.holds (charBefore? text place) text[place]? = true

namespace Expression

mutual

/-- An expression matches a text from a place up to another one. Where the upper bound of a
repetition is below the lower one, the lower one counts. -/
def Matches (text : List Char) (expression : Expression) : Nat → Nat → Prop :=
  match expression with
  | empty => Eq
  | oneOf set => fun start stop ↦ stop = start + 1 ∧ ∃ char, text[start]? = some char ∧
      set.contains char
  | condition kind => fun start stop ↦ start = stop ∧ kind.HoldsAt text start
  | capture inner => inner.Matches text
  | sequence parts => MatchesAll text parts
  | choice branches => MatchesAny text branches
  | repeated least most inner => fun start stop ↦
    ∃ count, least ≤ count ∧ (∀ bound, most = some bound → count ≤ max least bound) ∧
      Times (inner.Matches text) count start stop

def MatchesAll (text : List Char) (parts : List Expression) : Nat → Nat → Prop :=
  match parts with
  | [] => Eq
  | first :: rest => Relation.Comp (first.Matches text) (MatchesAll text rest)

def MatchesAny (text : List Char) (branches : List Expression) : Nat → Nat → Prop :=
  match branches with
  | [] => fun _ _ ↦ False
  | first :: rest => fun start stop ↦
    first.Matches text start stop ∨ MatchesAny text rest start stop

end

end Expression

/-! ### The steps for characters and conditions -/

section Steps

variable (text : List Char)

theorem CharSet.advances_behind (set : CharSet) :
    Advances (text.length + 1) (set.behind text) fun start stop ↦
      stop = start + 1 ∧ ∃ char, text[start]? = some char ∧ set.contains char where
  length places hlength := by
    rw [behind, List.length_cons, List.length_zipWith, hlength,
      Nat.min_eq_right (Nat.le_succ _)]
  has_iff places hlength stop := by
    cases stop with
    | zero => simp [behind, Places.Has]
    | succ start =>
      have hstep : (set.behind text places).Has (start + 1) ↔
          places.Has start ∧ ∃ char, text[start]? = some char ∧ set.contains char := by
        rw [behind, Places.Has, List.getElem?_cons_succ, List.getElem?_zipWith, Places.Has]
        cases hplace : places[start]? <;> cases hchar : text[start]? <;> simp
      rw [hstep]
      constructor
      · rintro ⟨hstart, hchar⟩
        exact ⟨start, hstart, rfl, hchar⟩
      · rintro ⟨start', hstart, hstop, hchar⟩
        obtain rfl := Nat.succ_inj.mp hstop
        exact ⟨hstart, hchar⟩

theorem Condition.has_places (condition : Condition) (place : Nat) :
    (condition.places text).Has place ↔ place ≤ text.length ∧ condition.HoldsAt text place := by
  have hbefore : (none :: text.map some)[place]? =
      if place ≤ text.length then some (charBefore? text place) else none := by
    cases place with
    | zero => rfl
    | succ place =>
      rw [List.getElem?_cons_succ, List.getElem?_map, charBefore?]
      split
      · next hle => simp [List.getElem?_eq_getElem hle]
      · next hgt => simp [List.getElem?_eq_none (Nat.ge_of_not_lt hgt)]
  have hafter : (text.map some ++ [none])[place]? =
      if place ≤ text.length then some text[place]? else none := by
    rcases Nat.lt_trichotomy place text.length with hlt | rfl | hgt
    · rw [List.getElem?_append_left (by simpa using hlt), List.getElem?_map,
        if_pos (Nat.le_of_lt hlt)]
      simp [List.getElem?_eq_getElem hlt]
    · simp
    · rw [if_neg (Nat.not_le.mpr hgt), List.getElem?_eq_none]
      simpa using Nat.succ_le_of_lt hgt
  rw [places, Places.Has, List.getElem?_zipWith, hbefore, hafter, HoldsAt]
  by_cases hle : place ≤ text.length
  · simp [hle]
  · simp [hle]

theorem Condition.length_places (condition : Condition) :
    (condition.places text).length = text.length + 1 := by
  simp [places]

theorem Condition.advances_places (condition : Condition) :
    Advances (text.length + 1) (fun places ↦ List.zipWith (· && ·) places (condition.places text))
      fun start stop ↦ start = stop ∧ condition.HoldsAt text start where
  length places hlength := by
    rw [List.length_zipWith, hlength, condition.length_places, Nat.min_self]
  has_iff places hlength stop := by
    have hboth : Places.Has (List.zipWith (· && ·) places (condition.places text)) stop ↔
        places.Has stop ∧ (condition.places text).Has stop := by
      rw [Places.Has, List.getElem?_zipWith, Places.Has, Places.Has]
      cases places[stop]? <;> cases (condition.places text)[stop]? <;> simp
    rw [hboth, condition.has_places]
    constructor
    · rintro ⟨hhas, -, hholds⟩
      exact ⟨stop, hhas, rfl, hholds⟩
    · rintro ⟨start, hhas, rfl, hholds⟩
      have hlt := hhas.lt_length
      rw [hlength] at hlt
      exact ⟨hhas, Nat.le_of_lt_succ hlt, hholds⟩

end Steps

namespace Expression

/-! ### The search -/

/-- Where there is nowhere to start from, there is nowhere to get to. -/
theorem advances_behind_oneOf (text : List Char) (set : CharSet) :
    Advances (text.length + 1) ((oneOf set).behind text) ((oneOf set).Matches text) where
  length places hlength := by
    rw [behind]
    split
    · exact (set.advances_behind text).length places hlength
    · exact hlength
  has_iff places hlength stop := by
    rw [behind, Matches]
    split
    · exact (set.advances_behind text).has_iff places hlength stop
    · next hnone =>
      rw [Places.any_iff, not_exists] at hnone
      refine iff_of_false (hnone stop) ?_
      rintro ⟨start, hstart, -⟩
      exact hnone start hstart

/-- A repetition is made of the occurrences that have to be there and of further ones. -/
theorem matches_repeated (text : List Char) (least : Nat) (most : Option Nat)
    (inner : Expression) :
    (repeated least most inner).Matches text =
      Relation.Comp (Times (inner.Matches text) least) fun start stop ↦
        ∃ more, (∀ bound, most = some bound → more ≤ bound - least) ∧
          Times (inner.Matches text) more start stop := by
  funext start stop
  rw [Matches]
  refine propext ⟨?_, ?_⟩
  · rintro ⟨count, hleast, hmost, htimes⟩
    obtain ⟨more, rfl⟩ := Nat.exists_eq_add_of_le hleast
    obtain ⟨middle, hfirst, hmore⟩ := htimes.split
    refine ⟨middle, hfirst, more, fun bound hbound ↦ ?_, hmore⟩
    have hcount := hmost bound hbound
    omega
  · rintro ⟨middle, hfirst, more, hmost, hmore⟩
    refine ⟨least + more, Nat.le_add_right _ _, fun bound hbound ↦ ?_, hfirst.trans hmore⟩
    have hcount := hmost bound hbound
    omega

theorem advances_behind_repeated (text : List Char) (least : Nat) (most : Option Nat)
    {inner : Expression}
    (hinner : Advances (text.length + 1) (inner.behind text) (inner.Matches text)) :
    Advances (text.length + 1) ((repeated least most inner).behind text)
      ((repeated least most inner).Matches text) := by
  rw [matches_repeated]
  cases most with
  | none =>
    have hsearch : (repeated least none inner).behind text =
        Places.reach (inner.behind text) (text.length + 1) ∘ (inner.behind text)^[least] := by
      funext places
      rw [behind, Places.iterate_eq, Function.comp_apply]
    rw [hsearch]
    simp only [reduceCtorEq, false_imp_iff, implies_true, true_and]
    exact hinner.reach_all.comp (hinner.iterate least)
  | some most =>
    have hsearch : (repeated least (some most) inner).behind text =
        Places.reach (inner.behind text) (most - least) ∘ (inner.behind text)^[least] := by
      funext places
      rw [behind, Places.iterate_eq, Function.comp_apply]
    rw [hsearch]
    simp only [Option.some.injEq, forall_eq']
    exact (hinner.reach (most - least)).comp (hinner.iterate least)

mutual

theorem advances_behind (text : List Char) (expression : Expression) :
    Advances (text.length + 1) (expression.behind text) (expression.Matches text) := by
  match expression with
  | empty =>
    have hsearch : (empty : Expression).behind text = id := by
      funext places
      rw [behind, id]
    rw [hsearch, Matches]
    exact .stay
  | oneOf set => exact advances_behind_oneOf text set
  | condition kind =>
    have hsearch : (condition kind).behind text =
        fun places ↦ List.zipWith (· && ·) places (kind.places text) := by
      funext places
      rw [behind]
    rw [hsearch, Matches]
    exact kind.advances_places text
  | capture inner =>
    have hsearch : (capture inner).behind text = inner.behind text := by
      funext places
      rw [behind]
    rw [hsearch, Matches]
    exact advances_behind text inner
  | sequence parts =>
    have hsearch : (sequence parts).behind text = behindAll text parts := by
      funext places
      rw [behind]
    rw [hsearch, Matches]
    exact advances_behindAll text parts
  | choice branches =>
    have hsearch : (choice branches).behind text =
        fun places ↦ behindAny text branches places (places.map fun _ ↦ false) := by
      funext places
      rw [behind]
    have hmatches : (choice branches).Matches text =
        fun start stop ↦ False ∨ MatchesAny text branches start stop := by
      rw [Matches]
      simp only [false_or]
    rw [hsearch, hmatches]
    exact advances_behindAny text branches .nowhere
  | repeated least most inner =>
    exact advances_behind_repeated text least most (advances_behind text inner)

theorem advances_behindAll (text : List Char) (parts : List Expression) :
    Advances (text.length + 1) (behindAll text parts) (MatchesAll text parts) := by
  match parts with
  | [] =>
    have hsearch : behindAll text [] = id := by
      funext places
      rw [behindAll, id]
    rw [hsearch, MatchesAll]
    exact .stay
  | first :: rest =>
    have hsearch : behindAll text (first :: rest) = behindAll text rest ∘ first.behind text := by
      funext places
      rw [behindAll, Function.comp_apply]
    rw [hsearch, MatchesAll]
    exact (advances_behindAll text rest).comp (advances_behind text first)

/-- The places that are handed on are those of the branches that come first. -/
theorem advances_behindAny (text : List Char) (branches : List Expression)
    {further : Places → Places} {beyond : Nat → Nat → Prop}
    (hfurther : Advances (text.length + 1) further beyond) :
    Advances (text.length + 1) (fun places ↦ behindAny text branches places (further places))
      fun start stop ↦ beyond start stop ∨ MatchesAny text branches start stop := by
  match branches with
  | [] =>
    simp only [behindAny, MatchesAny, or_false]
    exact hfurther
  | first :: rest =>
    simp only [behindAny, MatchesAny, ← or_assoc]
    exact advances_behindAny text rest (hfurther.union (advances_behind text first))

end

/-- An expression occurs in a text just if it matches the text between two places. -/
theorem occursIn_iff (expression : Expression) (text : String) :
    expression.occursIn text = true ↔
      ∃ start stop, start ≤ text.toList.length ∧ expression.Matches text.toList start stop := by
  have hlength := Places.length_all text.toList
  rw [occursIn, Places.any_iff, exists_comm]
  refine exists_congr fun stop ↦ ?_
  rw [(advances_behind text.toList expression).has_iff _ hlength]
  simp only [Places.has_all]

end Expression

end PacketRefusal.Pattern
