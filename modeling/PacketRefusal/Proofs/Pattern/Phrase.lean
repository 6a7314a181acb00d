import PacketRefusal.Pattern.Escape
import PacketRefusal.Proofs.Pattern.Simplification

/-!
# Phrases

A phrase is made of texts and single characters by sequence, choice and repetition. It describes
words (`Phrase.Describes`), can be written as a pattern with a group around every part
(`Phrase.written`), and has an expression (`Phrase.expression`). The expression of a phrase matches
a text between two places just if the phrase describes the word that stands there
(`Phrase.matches_expression`), so that it occurs in the texts that contain such a word
(`Phrase.occursIn_expression_iff`).
-/

set_option autoImplicit false
set_option relaxedAutoImplicit false

namespace PacketRefusal.Pattern

inductive Repetition
  | optional
  | many
  | several
  deriving DecidableEq

namespace Repetition

def char : Repetition → Char
  | optional => '?'
  | many => '*'
  | several => '+'

def least : Repetition → Nat
  | optional | many => 0
  | several => 1

def most : Repetition → Option Nat
  | optional => some 1
  | many | several => none

theorem least_le (repetition : Repetition) (bound : Nat) (hbound : repetition.most = some bound) :
    repetition.least ≤ bound := by
  cases repetition <;> cases hbound
  exact Nat.zero_le 1

end Repetition

/-- A description of words. -/
inductive Phrase
  | text (chars : List Char)
  | anyChar
  | sequence (first second : Phrase)
  | either (first second : Phrase)
  | repeated (repetition : Repetition) (inner : Phrase)

namespace Phrase

/-- A character that stands for itself in a pattern, if need be behind a backslash. -/
def quotedChar (char : Char) : List Char := if Reader.isMeta char then ['\\', char] else [char]

def grouped (chars : List Char) : List Char := '(' :: (chars ++ [')'])

/-- The pattern for a phrase. -/
def written : Phrase → List Char
  | text chars => chars.flatMap quotedChar
  | anyChar => ['.']
  | sequence first second => grouped first.written ++ grouped second.written
  | either first second => grouped first.written ++ '|' :: grouped second.written
  | repeated repetition inner => grouped inner.written ++ [repetition.char]

/-- A phrase describes a word. A single character is any but the end of a line. -/
def Describes : Phrase → List Char → Prop
  | text chars, word => word = chars
  | anyChar, word => ∃ char, char ≠ '\n' ∧ word = [char]
  | sequence first second, word =>
    ∃ front back, first.Describes front ∧ second.Describes back ∧ word = front ++ back
  | either first second, word => first.Describes word ∨ second.Describes word
  | repeated repetition inner, word =>
    ∃ words : List (List Char), repetition.least ≤ words.length ∧
      (∀ bound, repetition.most = some bound → words.length ≤ bound) ∧
      (∀ part ∈ words, inner.Describes part) ∧ word = words.flatten

def expression : Phrase → Expression
  | text chars => .inSequence (chars.map fun char ↦ .oneOf (.single char))
  | anyChar => .oneOf ((CharSet.single '\n').complement CharSet.lastCode)
  | sequence first second => .inSequence [.capture first.expression, .capture second.expression]
  | either first second => .either [.capture first.expression, .capture second.expression]
  | repeated repetition inner =>
    .repeating repetition.least repetition.most (.capture inner.expression)

end Phrase

/-! ### Single characters -/

theorem CharSet.ranges_single (char : Char) :
    (CharSet.single char).ranges = [(char.toNat, char.toNat)] := by
  rw [single, ofRanges, ordered, List.mergeSort_singleton, joined, joined]

theorem CharSet.contains_single (char other : Char) :
    (CharSet.single char).contains other = true ↔ other = char := by
  have hnone : Text.CodeRange.contains [] other = false := rfl
  rw [contains, ranges_single, contains_cons, hnone, ← Char.toNat_inj]
  simp only [Bool.false_eq_true, or_false]
  omega

theorem CharSet.contains_complement_newline (char : Char) :
    ((CharSet.single '\n').complement CharSet.lastCode).contains char = true ↔ char ≠ '\n' := by
  have hranges : ((CharSet.single '\n').complement CharSet.lastCode).ranges =
      [(0, 9), (11, 0x10FFFF)] := by
    rw [complement, isEmpty, ranges_single]
    rfl
  have hlast : char.toNat ≤ 0x10FFFF := by
    rcases char.valid with hvalid | ⟨-, hvalid⟩
    · exact Nat.le_of_lt (Nat.lt_trans hvalid (by decide))
    · exact Nat.le_of_lt_succ hvalid
  have hnone : Text.CodeRange.contains [] char = false := rfl
  have hnewline : '\n'.toNat = 10 := rfl
  rw [contains, hranges, contains_cons, contains_cons, hnone, Ne, ← Char.toNat_inj, hnewline]
  simp only [Bool.false_eq_true, or_false]
  omega

/-! ### Words in a text -/

/-- A word stands between two places of a text. -/
def Stands (text word : List Char) (start stop : Nat) : Prop :=
  word <+: text.drop start ∧ stop = start + word.length

section Stands

variable {text : List Char} {start stop : Nat}

theorem stands_nil : Stands text [] start stop ↔ start = stop := by
  simp [Stands, eq_comm]

theorem stands_singleton (char : Char) :
    Stands text [char] start stop ↔ text[start]? = some char ∧ stop = start + 1 := by
  rw [Stands, List.length_singleton, ← List.head?_drop]
  cases text.drop start with
  | nil => simp
  | cons first rest => simp [eq_comm]

theorem stands_append (front back : List Char) :
    Stands text (front ++ back) start stop ↔
      ∃ middle, Stands text front start middle ∧ Stands text back middle stop := by
  simp only [Stands]
  constructor
  · rintro ⟨⟨rest, hrest⟩, hstop⟩
    have hdrop : text.drop (start + front.length) = back ++ rest := by
      rw [← List.drop_drop, ← hrest, List.append_assoc, List.drop_left]
    refine ⟨start + front.length, ⟨⟨back ++ rest, ?_⟩, rfl⟩, ⟨rest, hdrop.symm⟩, ?_⟩
    · rw [← List.append_assoc, hrest]
    · rw [hstop, List.length_append, Nat.add_assoc]
  · rintro ⟨middle, ⟨⟨behind, hbehind⟩, rfl⟩, ⟨rest, hrest⟩, hstop⟩
    have hdrop : text.drop (start + front.length) = behind := by
      rw [← List.drop_drop, ← hbehind, List.drop_left]
    refine ⟨⟨rest, ?_⟩, ?_⟩
    · rw [List.append_assoc, hrest, hdrop, hbehind]
    · rw [hstop, List.length_append, Nat.add_assoc]

end Stands

namespace Phrase

/-! ### What the expression of a phrase matches -/

section Matching

variable {text : List Char} {start stop : Nat}

theorem matches_char (char : Char) :
    (Expression.oneOf (.single char)).Matches text start stop ↔ Stands text [char] start stop := by
  rw [Expression.Matches, stands_singleton]
  simp only [CharSet.contains_single, exists_eq_right]
  exact and_comm

theorem matches_chars (chars : List Char) :
    Expression.MatchesAll text (chars.map fun char ↦ .oneOf (.single char)) start stop ↔
      Stands text chars start stop := by
  induction chars generalizing start with
  | nil => rw [List.map_nil, Expression.matchesAll_nil, stands_nil]
  | cons char chars ih =>
    rw [List.map_cons, Expression.matchesAll_cons, ← List.singleton_append, stands_append]
    simp only [Relation.Comp, ih, matches_char]

/-- Several words one after the other. -/
theorem times_iff {way : Nat → Nat → Prop} {describes : List Char → Prop}
    (hway : ∀ start stop, way start stop ↔ ∃ word, describes word ∧ Stands text word start stop)
    (count : Nat) :
    Times way count start stop ↔
      ∃ words : List (List Char), words.length = count ∧ (∀ word ∈ words, describes word) ∧
        Stands text words.flatten start stop := by
  induction count generalizing start with
  | zero =>
    simp [List.length_eq_zero_iff, Times, stands_nil]
  | succ count ih =>
    constructor
    · rintro ⟨middle, hfirst, hrest⟩
      obtain ⟨word, hword, hstands⟩ := (hway start middle).mp hfirst
      obtain ⟨words, hlength, hwords, hothers⟩ := ih.mp hrest
      exact ⟨word :: words, congrArg Nat.succ hlength, List.forall_mem_cons.mpr ⟨hword, hwords⟩,
        (stands_append word words.flatten).mpr ⟨middle, hstands, hothers⟩⟩
    · rintro ⟨words, hlength, hwords, hstands⟩
      obtain ⟨word, others, rfl⟩ := List.exists_cons_of_length_eq_add_one hlength
      obtain ⟨hword, hothers⟩ := List.forall_mem_cons.mp hwords
      obtain ⟨middle, hfirst, hrest⟩ := (stands_append word others.flatten).mp hstands
      exact ⟨middle, (hway start middle).mpr ⟨word, hword, hfirst⟩,
        ih.mpr ⟨others, Nat.succ_inj.mp hlength, hothers, hrest⟩⟩

theorem matches_expression (phrase : Phrase) (start stop : Nat) :
    phrase.expression.Matches text start stop ↔
      ∃ word, phrase.Describes word ∧ Stands text word start stop := by
  induction phrase generalizing start stop with
  | text chars =>
    rw [expression, Expression.matches_inSequence, matches_chars]
    simp only [Describes, exists_eq_left]
  | anyChar =>
    rw [expression, Expression.Matches]
    simp only [CharSet.contains_complement_newline, Describes]
    constructor
    · rintro ⟨hstop, char, hchar, hnewline⟩
      exact ⟨[char], ⟨char, hnewline, rfl⟩, (stands_singleton char).mpr ⟨hchar, hstop⟩⟩
    · rintro ⟨word, ⟨char, hnewline, rfl⟩, hstands⟩
      obtain ⟨hchar, hstop⟩ := (stands_singleton char).mp hstands
      exact ⟨hstop, char, hchar, hnewline⟩
  | sequence first second ihfirst ihsecond =>
    rw [expression, Expression.matches_inSequence, Expression.matchesAll_cons,
      Expression.matchesAll_cons, Expression.matchesAll_nil, Relation.comp_eq]
    simp only [Relation.Comp, Expression.Matches, ihfirst, ihsecond, Describes]
    constructor
    · rintro ⟨middle, ⟨front, hfront, hbefore⟩, back, hback, hbehind⟩
      exact ⟨front ++ back, ⟨front, back, hfront, hback, rfl⟩,
        (stands_append front back).mpr ⟨middle, hbefore, hbehind⟩⟩
    · rintro ⟨word, ⟨front, back, hfront, hback, rfl⟩, hstands⟩
      obtain ⟨middle, hbefore, hbehind⟩ := (stands_append front back).mp hstands
      exact ⟨middle, ⟨front, hfront, hbefore⟩, back, hback, hbehind⟩
  | either first second ihfirst ihsecond =>
    rw [expression, Expression.matches_either]
    simp only [List.mem_cons, List.not_mem_nil, or_false, exists_eq_left, Expression.Matches,
      ihfirst, ihsecond, Describes, or_and_right, exists_or]
  | repeated repetition inner ih =>
    have hinner (start stop : Nat) : (Expression.capture inner.expression).Matches text start stop ↔
        ∃ word, inner.Describes word ∧ Stands text word start stop := by
      rw [Expression.Matches, ih]
    rw [expression, Expression.matches_repeating _ _ _ repetition.least_le, Expression.Matches]
    simp only [times_iff hinner, Describes]
    constructor
    · rintro ⟨count, hleast, hmost, words, rfl, hwords, hstands⟩
      refine ⟨words.flatten, ⟨words, hleast, fun bound hbound ↦ ?_, hwords, rfl⟩, hstands⟩
      exact Nat.le_trans (hmost bound hbound)
        (Nat.max_le.mpr ⟨repetition.least_le bound hbound, Nat.le_refl _⟩)
    · rintro ⟨word, ⟨words, hleast, hmost, hwords, rfl⟩, hstands⟩
      exact ⟨words.length, hleast,
        fun bound hbound ↦ Nat.le_trans (hmost bound hbound) (Nat.le_max_right _ _),
        words, rfl, hwords, hstands⟩

end Matching

/-- The expression of a phrase occurs in the texts that contain a word that the phrase describes. -/
theorem occursIn_expression_iff (phrase : Phrase) (text : String) :
    phrase.expression.occursIn text = true ↔
      ∃ word, phrase.Describes word ∧ word <:+: text.toList := by
  rw [Expression.occursIn_iff]
  simp only [matches_expression]
  constructor
  · rintro ⟨start, stop, -, word, hword, hprefix, -⟩
    exact ⟨word, hword, hprefix.isInfix.trans (List.drop_suffix start text.toList).isInfix⟩
  · rintro ⟨word, hword, front, back, htext⟩
    refine ⟨front.length, _, ?_, word, hword, ⟨back, ?_⟩, rfl⟩
    · rw [← htext, List.append_assoc, List.length_append]
      exact Nat.le_add_right _ _
    · rw [← htext, List.append_assoc, List.drop_left]

end Phrase

end PacketRefusal.Pattern
