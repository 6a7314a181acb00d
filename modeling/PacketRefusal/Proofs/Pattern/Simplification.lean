import PacketRefusal.Proofs.Pattern.Matching

/-!
# Expressions that are kept small

The functions that build expressions leave out what has no effect. Here it is shown that indeed they
change nothing: `Expression.inSequence` matches what its parts match one after the other
(`Expression.matches_inSequence`), `Expression.either` what one of its branches matches
(`Expression.matches_either`), and `Expression.repeating` what the repetition as it was written
matches (`Expression.matches_repeating`).

A choice among sets of characters becomes one set, for which overlapping ranges are joined. That
keeps the characters because ranges are joined in the order of their first code points
(`CharSet.contains_joined`).
-/

set_option autoImplicit false
set_option relaxedAutoImplicit false

namespace PacketRefusal.Pattern

open Text

/-! ### Sets of characters -/

namespace CharSet

theorem contains_cons (range : CodeRange) (ranges : List CodeRange) (char : Char) :
    CodeRange.contains (range :: ranges) char = true ↔
      (range.1 ≤ char.toNat ∧ char.toNat ≤ range.2) ∨ CodeRange.contains ranges char = true := by
  simp [CodeRange.contains]

theorem contains_append (front back : List CodeRange) (char : Char) :
    CodeRange.contains (front ++ back) char =
      (CodeRange.contains front char || CodeRange.contains back char) :=
  List.any_append

/-- What is joined starts where the first range starts. -/
theorem joined_cons_eq (range : CodeRange) (rest : List CodeRange) :
    ∃ last more, joined (range :: rest) = (range.1, last) :: more := by
  rw [joined]
  split
  · exact ⟨_, _, rfl⟩
  · split <;> exact ⟨_, _, rfl⟩

theorem contains_joined {ranges : List CodeRange}
    (hordered : ranges.Pairwise fun range other ↦ range.1 ≤ other.1) (char : Char) :
    CodeRange.contains (joined ranges) char = CodeRange.contains ranges char := by
  induction ranges with
  | nil => rfl
  | cons range rest ih =>
    obtain ⟨hfirst, hrest⟩ := List.pairwise_cons.mp hordered
    rw [Bool.eq_iff_iff, contains_cons, ← ih hrest, joined]
    cases rest with
    | nil => simp [joined, CodeRange.contains]
    | cons next others =>
      obtain ⟨last, more, hjoined⟩ := joined_cons_eq next others
      have hle := hfirst next List.mem_cons_self
      rw [hjoined]
      dsimp only
      split
      · rw [contains_cons, contains_cons, ← or_assoc]
        refine or_congr_left ?_
        dsimp only at hle ⊢
        omega
      · rw [contains_cons]

theorem contains_ordered (ranges : List CodeRange) (char : Char) :
    CodeRange.contains (ordered ranges) char = CodeRange.contains ranges char := by
  have hordered : (ranges.mergeSort fun range other ↦ range.1 ≤ other.1).Pairwise
      fun range other ↦ decide (range.1 ≤ other.1) = true := by
    refine List.pairwise_mergeSort (fun first second third hfirst hsecond ↦ ?_)
      (fun first second ↦ ?_) ranges
    · simp only [decide_eq_true_eq] at hfirst hsecond ⊢
      exact Nat.le_trans hfirst hsecond
    · simpa using Nat.le_total first.1 second.1
  rw [ordered, contains_joined (by simpa using hordered), CodeRange.contains, CodeRange.contains,
    Bool.eq_iff_iff, List.any_eq_true, List.any_eq_true]
  simp only [List.mem_mergeSort]

theorem contains_union (set other : CharSet) (char : Char) :
    (set.union other).contains char = (set.contains char || other.contains char) := by
  rw [union]
  split
  · next hsame =>
    rcases hsame with hempty | hranges
    · have hother : other.ranges = [] := List.isEmpty_iff.mp hempty
      rw [contains, contains, hother, CodeRange.contains, CodeRange.contains, List.any_nil,
        Bool.or_false]
    · rw [contains, contains, hranges, Bool.or_self]
  · rw [contains, contains_ordered, contains_append]
    rfl

theorem contains_foldl_union (sets : List CharSet) (set : CharSet) (char : Char) :
    (sets.foldl union set).contains char = true ↔
      set.contains char = true ∨ ∃ other ∈ sets, other.contains char = true := by
  induction sets generalizing set with
  | nil => simp
  | cons first rest ih =>
    rw [List.foldl_cons, ih, contains_union, Bool.or_eq_true, or_assoc]
    simp

end CharSet

namespace Expression

/-! ### Sequences -/

theorem matchesAll_nil (text : List Char) : MatchesAll text [] = Eq := by rw [MatchesAll]

theorem matchesAll_cons (text : List Char) (first : Expression) (rest : List Expression) :
    MatchesAll text (first :: rest) =
      Relation.Comp (first.Matches text) (MatchesAll text rest) := by
  rw [MatchesAll]

theorem matches_of_isEmpty (text : List Char) {expression : Expression}
    (hempty : expression.isEmpty = true) : expression.Matches text = Eq := by
  cases expression <;> simp [isEmpty, Matches] at hempty ⊢

theorem matchesAll_filter (text : List Char) (parts : List Expression) :
    MatchesAll text (parts.filter (!·.isEmpty)) = MatchesAll text parts := by
  induction parts with
  | nil => rfl
  | cons first rest ih =>
    rw [List.filter_cons, matchesAll_cons]
    split
    · rw [matchesAll_cons, ih]
    · next hempty =>
      rw [matches_of_isEmpty text (by simpa using hempty), Relation.eq_comp, ih]

theorem matches_inSequence (text : List Char) (parts : List Expression) :
    (inSequence parts).Matches text = MatchesAll text parts := by
  rw [← matchesAll_filter, inSequence]
  split
  · next hparts => rw [hparts, matchesAll_nil, Matches]
  · next hparts => rw [hparts, matchesAll_cons, matchesAll_nil, Relation.comp_eq]
  · rw [Matches]

/-! ### Choices -/

theorem matchesAny_iff (text : List Char) (branches : List Expression) (start stop : Nat) :
    MatchesAny text branches start stop ↔
      ∃ branch ∈ branches, branch.Matches text start stop := by
  induction branches with
  | nil => simp [MatchesAny]
  | cons first rest ih =>
    rw [List.exists_mem_cons_iff, ← ih, MatchesAny]

theorem exists_mem_branches (text : List Char) (expression : Expression) (start stop : Nat) :
    (∃ branch ∈ expression.branches, branch.Matches text start stop) ↔
      expression.Matches text start stop := by
  cases expression <;> simp [branches, Matches, matchesAny_iff]

theorem eq_map_oneOf {branches : List Expression} {sets : List CharSet}
    (hsets : branches.mapM set? = some sets) : branches = sets.map oneOf := by
  induction branches generalizing sets with
  | nil =>
    cases hsets
    rfl
  | cons first rest ih =>
    rw [List.mapM_cons] at hsets
    obtain ⟨set, hset, hsets⟩ := Option.bind_eq_some_iff.mp hsets
    obtain ⟨others, hothers, hsets⟩ := Option.bind_eq_some_iff.mp hsets
    cases hsets
    rw [List.map_cons, ← ih hothers]
    cases first <;> cases hset
    rfl

/-- A choice among sets is a set. -/
theorem matches_oneOf_foldl_union (text : List Char) (sets : List CharSet) (start stop : Nat) :
    (oneOf (sets.foldl CharSet.union .nothing)).Matches text start stop ↔
      ∃ branch ∈ sets.map oneOf, branch.Matches text start stop := by
  have hnothing (char : Char) : CharSet.nothing.contains char = false := rfl
  simp only [List.mem_map, exists_exists_and_eq_and, Matches, CharSet.contains_foldl_union,
    hnothing, Bool.false_eq_true, false_or]
  grind

theorem matches_either (text : List Char) (parts : List Expression) (start stop : Nat) :
    (either parts).Matches text start stop ↔ ∃ part ∈ parts, part.Matches text start stop := by
  have hbranches : (∃ branch ∈ parts.flatMap branches, branch.Matches text start stop) ↔
      ∃ part ∈ parts, part.Matches text start stop := by
    have hpart (part : Expression) := exists_mem_branches text part start stop
    simp only [List.mem_flatMap]
    grind
  rw [← hbranches, either]
  split
  · next hsingle => simp [hsingle]
  · split
    · next hsets => rw [matches_oneOf_foldl_union, ← eq_map_oneOf hsets]
    · rw [Matches, matchesAny_iff]

/-! ### Repetitions -/

mutual

theorem eq_of_isWidthless (text : List Char) (expression : Expression) {start stop : Nat}
    (hwidthless : expression.isWidthless = true) (hmatches : expression.Matches text start stop) :
    start = stop := by
  match expression with
  | empty => simpa [Matches] using hmatches
  | oneOf _ => simp [isWidthless] at hwidthless
  | condition _ =>
    rw [Matches] at hmatches
    exact hmatches.1
  | capture inner =>
    rw [isWidthless] at hwidthless
    rw [Matches] at hmatches
    exact eq_of_isWidthless text inner hwidthless hmatches
  | sequence parts =>
    rw [isWidthless] at hwidthless
    rw [Matches] at hmatches
    exact eq_of_areWidthless text parts hwidthless (.inl hmatches)
  | choice branches =>
    rw [isWidthless] at hwidthless
    rw [Matches] at hmatches
    exact eq_of_areWidthless text branches hwidthless (.inr hmatches)
  | repeated _ _ inner =>
    rw [isWidthless, Bool.and_eq_true] at hwidthless
    rw [Matches] at hmatches
    obtain ⟨count, -, -, htimes⟩ := hmatches
    exact htimes.eq_of_still fun _ _ ↦ eq_of_isWidthless text inner hwidthless.2

theorem eq_of_areWidthless (text : List Char) (expressions : List Expression) {start stop : Nat}
    (hwidthless : areWidthless expressions = true)
    (hmatches : MatchesAll text expressions start stop ∨ MatchesAny text expressions start stop) :
    start = stop := by
  match expressions with
  | [] => simpa [MatchesAll, MatchesAny] using hmatches
  | first :: rest =>
    rw [areWidthless, Bool.and_eq_true] at hwidthless
    rw [MatchesAll, MatchesAny] at hmatches
    obtain ⟨middle, hfirst, hrest⟩ | hfirst | hrest := hmatches
    · exact (eq_of_isWidthless text first hwidthless.1 hfirst).trans
        (eq_of_areWidthless text rest hwidthless.2 (.inl hrest))
    · exact eq_of_isWidthless text first hwidthless.1 hfirst
    · exact eq_of_areWidthless text rest hwidthless.2 (.inr hrest)

end

/-- What has no width may as well stand once at most. -/
theorem matches_repeated_of_isWidthless (text : List Char) {inner : Expression}
    (hwidthless : inner.isWidthless = true) (least : Nat) {most : Option Nat}
    (hbounds : ∀ bound, most = some bound → least ≤ bound) (start stop : Nat) :
    (repeated (min least 1) (some ((most.map (min 1)).getD 1)) inner).Matches text start stop ↔
      (repeated least most inner).Matches text start stop := by
  have hcongr {count count' : Nat} (hzero : count = 0 ↔ count' = 0) :
      Times (inner.Matches text) count start stop ↔ Times (inner.Matches text) count' start stop :=
    times_congr_of_still (fun _ _ ↦ eq_of_isWidthless text inner hwidthless) hzero
  rw [Matches, Matches]
  constructor
  · rintro ⟨count, hleast, hmost, htimes⟩
    have hcount := hmost _ rfl
    refine ⟨max least count, Nat.le_max_left _ _, fun bound hbound ↦ ?_, (hcongr ?_).mp htimes⟩
    · have hle := hbounds bound hbound
      simp only [hbound, Option.map_some, Option.getD_some] at hcount
      omega
    · omega
  · rintro ⟨count, hleast, hmost, htimes⟩
    refine ⟨min count 1, by omega, fun bound hbound ↦ ?_, (hcongr (by omega)).mp htimes⟩
    cases hbound
    cases most with
    | none => simp only [Option.map_none, Option.getD_none]; omega
    | some most =>
      have hle := hbounds most rfl
      have hcount := hmost most rfl
      simp only [Option.map_some, Option.getD_some]
      omega

theorem matches_repeated_once (text : List Char) (inner : Expression) :
    (repeated 1 (some 1) inner).Matches text = inner.Matches text := by
  rw [matches_repeated, times_one]
  have hmore : (fun start stop ↦ ∃ more, (∀ bound, some 1 = some bound → more ≤ bound - 1) ∧
      Times (inner.Matches text) more start stop) = Eq := by
    simp [Times]
  rw [hmore, Relation.comp_eq]

theorem matches_repeating (text : List Char) (inner : Expression) (least : Nat) {most : Option Nat}
    (hbounds : ∀ bound, most = some bound → least ≤ bound) (start stop : Nat) :
    (repeating least most inner).Matches text start stop ↔
      (repeated least most inner).Matches text start stop := by
  have hsmall {least : Nat} {most : Option Nat}
      (hbounds : ∀ bound, most = some bound → least ≤ bound) :
      (if most = some 0 then empty else if least = 1 ∧ most = some 1 then inner
        else repeated least most inner).Matches text start stop ↔
        (repeated least most inner).Matches text start stop := by
    split
    · next hnone =>
      obtain rfl := Nat.le_zero.mp (hbounds 0 hnone)
      simp [Matches, hnone, Times]
    · split
      · next honce =>
        obtain ⟨rfl, rfl⟩ := honce
        rw [matches_repeated_once]
      · exact Iff.rfl
  rw [repeating]
  by_cases hwidthless : inner.isWidthless = true
  · simp only [if_pos hwidthless]
    rw [hsmall, matches_repeated_of_isWidthless text hwidthless least hbounds]
    intro bound hbound
    cases hbound
    cases most with
    | none => exact Nat.min_le_right _ _
    | some most =>
      have hle := hbounds most rfl
      simp only [Option.map_some, Option.getD_some]
      omega
  · simp only [if_neg hwidthless]
    exact hsmall hbounds

end Expression

end PacketRefusal.Pattern
