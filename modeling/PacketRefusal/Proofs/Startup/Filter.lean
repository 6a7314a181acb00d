import Mathlib.Algebra.GroupWithZero.Nat
import Mathlib.Tactic.SplitIfs
import PacketRefusal.Startup.Filter

/-!
# What becomes of the words of a filter

The buffer of the driver is filled word by word, and each word is refused as soon as it leaves no
room for the terminator. `Filter.extend_eq` turns that into one condition on the size of all words
together: since the size only grows, a word is refused at some point just if the whole is too long.
`Filter.build_eq` is the case of an empty buffer, and `Filter.build_joins_words` draws the
conclusions: whether and how a filter is built depends only on the joined text, and the filter of
two lists is the filter of the first one followed by that of the second.
-/

set_option autoImplicit false
set_option relaxedAutoImplicit false

namespace PacketRefusal.Filter

/-- Some words, each with a space behind it. -/
def joined (words : List String) : String := String.join (words.map (· ++ " "))

/-- How many octets of UTF-8 some words take, each with one more for the space behind it. -/
def occupied (words : List String) : Nat := (words.map fun word ↦ word.utf8ByteSize + 1).sum

theorem joined_cons (word : String) (words : List String) :
    joined (word :: words) = word ++ " " ++ joined words := by
  rw [joined, List.map_cons, String.join_cons, joined]

theorem joined_append (front back : List String) :
    joined (front ++ back) = joined front ++ joined back := by
  rw [joined, List.map_append, String.join_append, joined, joined]

theorem occupied_cons (word : String) (words : List String) :
    occupied (word :: words) = word.utf8ByteSize + 1 + occupied words := by
  rw [occupied, List.map_cons, List.sum_cons, occupied]

theorem occupied_append (front back : List String) :
    occupied (front ++ back) = occupied front + occupied back := by
  rw [occupied, List.map_append, List.sum_append, occupied, occupied]

theorem utf8ByteSize_joined (words : List String) :
    (joined words).utf8ByteSize = occupied words := by
  induction words with
  | nil => rfl
  | cons word words ih =>
    rw [joined_cons, occupied_cons, String.utf8ByteSize_append, String.utf8ByteSize_append, ih]
    rfl

/-- Behind a part that leaves room for the terminator, words are appended just if all of them
together leave room for it. -/
theorem extend_eq (words : List String) {built : String} (hroom : built.utf8ByteSize < bufferSize) :
    extend built words =
      if built.utf8ByteSize + occupied words < bufferSize then .ok (built ++ joined words)
      else .error (.filterTooLong bufferSize) := by
  induction words generalizing built with
  | nil =>
    have hempty : built ++ joined [] = built := String.append_empty
    have hnothing : built.utf8ByteSize + occupied [] = built.utf8ByteSize := Nat.add_zero _
    rw [extend, hempty, hnothing, if_pos hroom]
  | cons word words ih =>
    rw [extend, occupied_cons, joined_cons]
    by_cases hfull : bufferSize ≤ built.utf8ByteSize + word.utf8ByteSize + 1
    · have hlong : ¬built.utf8ByteSize + (word.utf8ByteSize + 1 + occupied words) < bufferSize := by
        omega
      rw [if_pos hfull, if_neg hlong]
    · have hsize : (built ++ word ++ " ").utf8ByteSize =
          built.utf8ByteSize + word.utf8ByteSize + 1 := by
        rw [String.utf8ByteSize_append, String.utf8ByteSize_append]
        rfl
      have hassoc : built ++ word ++ " " ++ joined words = built ++ (word ++ " " ++ joined words) :=
        by simp only [String.append_assoc]
      rw [if_neg hfull, ih (by omega), hsize, hassoc, Nat.add_assoc, Nat.add_assoc, Nat.add_assoc]

/-- The words are joined if the terminator fits behind them. -/
theorem build_eq (words : List String) :
    build words =
      if occupied words < bufferSize then .ok (joined words)
      else .error (.filterTooLong bufferSize) := by
  have hroom : "".utf8ByteSize < bufferSize := by decide
  have hnothing : "".utf8ByteSize + occupied words = occupied words := Nat.zero_add _
  rw [build, extend_eq words hroom, hnothing, String.empty_append]

theorem joined_of_build {words : List String} {expression : String}
    (hbuild : build words = .ok expression) :
    occupied words < bufferSize ∧ expression = joined words := by
  rw [build_eq] at hbuild
  split_ifs at hbuild with hfits
  exact ⟨hfits, (Except.ok.inj hbuild).symm⟩

/-- A filter is built from some words exactly if they take at most 2047 octets, counting one for the
space behind each. It is then the words with those spaces, in that many octets; exactly if they take
more, the error names the limit of 2048. Words that are joined to the same text are treated alike,
and the filter of two lists is the filter of the first one followed by that of the second. -/
theorem build_joins_words (words : List String) :
    ((∃ expression, build words = .ok expression) ↔ occupied words ≤ 2047) ∧
    (∀ expression, build words = .ok expression →
      expression = joined words ∧ expression.utf8ByteSize = occupied words) ∧
    (build words = .error (.filterTooLong 2048) ↔ 2047 < occupied words) ∧
    (∀ others, joined others = joined words → build others = build words) ∧
    ∀ front back expression, words = front ++ back → build words = .ok expression →
      ∃ first second, build front = .ok first ∧ build back = .ok second ∧
        expression = first ++ second := by
  refine ⟨⟨?_, ?_⟩, ?_, ⟨?_, ?_⟩, ?_, ?_⟩
  · rintro ⟨expression, hbuild⟩
    exact Nat.le_of_lt_succ (joined_of_build hbuild).1
  · intro hfits
    exact ⟨joined words, (build_eq words).trans (if_pos (Nat.lt_succ_of_le hfits))⟩
  · intro expression hbuild
    obtain ⟨-, rfl⟩ := joined_of_build hbuild
    exact ⟨rfl, utf8ByteSize_joined words⟩
  · intro hbuild
    rw [build_eq] at hbuild
    split_ifs at hbuild with hfits
    exact Nat.lt_of_not_le (mt Nat.lt_succ_of_le hfits)
  · intro hlong
    exact (build_eq words).trans (if_neg (Nat.not_lt_of_le hlong))
  · intro others hjoined
    rw [build_eq, build_eq, ← utf8ByteSize_joined, ← utf8ByteSize_joined, hjoined]
  · rintro front back expression rfl hbuild
    obtain ⟨hfits, rfl⟩ := joined_of_build hbuild
    rw [occupied_append] at hfits
    refine ⟨joined front, joined back, ?_, ?_, joined_append front back⟩
    · rw [build_eq, if_pos (by omega)]
    · rw [build_eq, if_pos (by omega)]

/-- A filter of one word with spaces in it is that of its parts, and can be put together from
theirs. -/
theorem build_joins_words_of_comparison :
    joined ["tcp.DstPort == ß"] = joined ["tcp.DstPort", "==", "ß"] ∧
      build ["tcp.DstPort == ß"] = build ["tcp.DstPort", "==", "ß"] ∧
      build ["tcp.DstPort", "==", "ß"] = .ok "tcp.DstPort == ß " ∧
      ∃ first second, build ["tcp.DstPort"] = .ok first ∧ build ["==", "ß"] = .ok second ∧
        "tcp.DstPort == ß " = first ++ second := by
  have hjoined : joined ["tcp.DstPort == ß"] = joined ["tcp.DstPort", "==", "ß"] := by decide
  have hbuild : build ["tcp.DstPort", "==", "ß"] = .ok "tcp.DstPort == ß " := rfl
  obtain ⟨-, -, -, halike, hparts⟩ := build_joins_words ["tcp.DstPort", "==", "ß"]
  exact ⟨hjoined, halike _ hjoined, hbuild, hparts ["tcp.DstPort"] ["==", "ß"] _ rfl hbuild⟩

end PacketRefusal.Filter
