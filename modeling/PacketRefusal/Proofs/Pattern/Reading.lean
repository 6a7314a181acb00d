import Mathlib.Algebra.GroupWithZero.Nat
import Mathlib.Data.List.Forall2
import PacketRefusal.Pattern.Basic
import PacketRefusal.Proofs.Pattern.Phrase

/-!
# Reading the pattern for a phrase

The reader takes a pattern apart from left to right. One lemma says what it does at each of the
characters that the pattern for a phrase is made of, from a plain character (`Reader.part_plain`) to
the operator of a repetition (`Reader.part_repetition`). Such steps follow one another (`Leads`), so
that by induction on the phrase its pattern leads to a sequence whose tree means its expression
(`Phrase.readable`).

A pattern is accepted if its tree is not nested too deeply and its automata are not too large. The
pattern for a phrase then occurs in the texts that contain a word that the phrase describes, and in
no others (`Phrase.exists_pattern`). For a plain text of moderate length the limits are no concern
(`Phrase.exists_pattern_text`).
-/

set_option autoImplicit false
set_option relaxedAutoImplicit false

namespace PacketRefusal.Pattern

namespace Reader

/-! ### Single steps -/

theorem bind_of_ok {first second : Type} {reader : Reader first} {further : first → Reader second}
    {cursor cursor' : Cursor} {result : first} (hread : reader cursor = .ok result cursor') :
    (reader >>= further) cursor = further result cursor' := by
  change EStateM.bind reader further cursor = _
  rw [EStateM.bind, hread]

section Steps

variable (current : OpenSequence) (groups : List OpenGroup) (names : GroupNames)
  (location : Location) (rest : List Char)

theorem part_plain {char : Char} (hplain : isMeta char = false) :
    part ⟨current, groups, names⟩ char ⟨location, char :: rest, false⟩ =
      .ok ⟨current.push (.literal ⟨⟨location, location.after char⟩, char, false⟩), groups, names⟩
        ⟨location.after char, rest, false⟩ := by
  unfold part
  split
  all_goals first | exact absurd hplain (by decide) | skip
  split
  all_goals first | exact absurd hplain (by decide) | rfl

theorem part_escaped {char : Char} (hmeta : isMeta char = true) :
    ∃ span, part ⟨current, groups, names⟩ '\\' ⟨location, '\\' :: char :: rest, false⟩ =
      .ok ⟨current.push (.literal ⟨span, char, false⟩), groups, names⟩
        ⟨(location.after '\\').after char, rest, false⟩ := by
  refine ⟨⟨location, (location.after '\\').after char⟩, ?_⟩
  have hall : ∀ char ∈ "\\.+*?()|[]\x7b\x7d^$#&-~".toList,
      part ⟨current, groups, names⟩ '\\' ⟨location, '\\' :: char :: rest, false⟩ =
        .ok ⟨current.push (.literal ⟨⟨location, (location.after '\\').after char⟩, char, false⟩),
            groups, names⟩
          ⟨(location.after '\\').after char, rest, false⟩ := by
    iterate 18 refine List.forall_mem_cons.mpr ⟨rfl, ?_⟩
    exact List.forall_mem_nil _
  exact hall char (by simpa [isMeta] using hmeta)

theorem part_dot :
    part ⟨current, groups, names⟩ '.' ⟨location, '.' :: rest, false⟩ =
      .ok ⟨current.push (.dot ⟨location, location.after '.'⟩), groups, names⟩
        ⟨location.after '.', rest, false⟩ :=
  rfl

theorem part_bar :
    part ⟨current, groups, names⟩ '|' ⟨location, '|' :: rest, false⟩ =
      .ok ⟨current.bar location (location.after '|'), groups, names⟩
        ⟨location.after '|', rest, false⟩ :=
  rfl

theorem skipText_eq_false {char : Char} (hchar : char ≠ '?') (text : List Char) :
    skipText (String.ofList ('?' :: text)) ⟨location, char :: rest, false⟩ =
      .ok false ⟨location, char :: rest, false⟩ := by
  have hget : (get : Reader Cursor) ⟨location, char :: rest, false⟩ =
    .ok ⟨location, char :: rest, false⟩ ⟨location, char :: rest, false⟩ := rfl
  have hother : ('?' == char) = false := beq_false_of_ne hchar.symm
  rw [skipText, bind_of_ok hget, String.toList_ofList, List.isPrefixOf, hother, Bool.false_and]
  rfl

/-- A parenthesis without a question mark behind it opens a group that captures. -/
theorem part_open {char : Char} (hchar : char ≠ '?') :
    part ⟨current, groups, names⟩ '(' ⟨location, '(' :: char :: rest, false⟩ =
      .ok ⟨{ start := location.after '(' },
          ⟨⟨location, location.after '('⟩, .capturing, current, false⟩ :: groups, names⟩
        ⟨location.after '(', char :: rest, false⟩ := by
  have hskip := skipText_eq_false (location.after '(') rest hchar
  have hlook : lookAround ⟨location.after '(', char :: rest, false⟩ =
      .ok false ⟨location.after '(', char :: rest, false⟩ := by
    rw [lookAround, bind_of_ok (hskip ['=']), bind_of_ok (hskip ['!']),
      bind_of_ok (hskip ['<', '=']), bind_of_ok (hskip ['<', '!'])]
    rfl
  have hopening : opening names ⟨location, '(' :: char :: rest, false⟩ =
      .ok (.group ⟨location, location.after '('⟩ .capturing, names)
        ⟨location.after '(', char :: rest, false⟩ := by
    have hspan : charSpan ⟨location, '(' :: char :: rest, false⟩ =
      .ok ⟨location, location.after '('⟩ ⟨location, '(' :: char :: rest, false⟩ := rfl
    have hadvance : advance ⟨location, '(' :: char :: rest, false⟩ =
      .ok () ⟨location.after '(', char :: rest, false⟩ := rfl
    have hlocation : Reader.location ⟨location.after '(', char :: rest, false⟩ =
      .ok (location.after '(') ⟨location.after '(', char :: rest, false⟩ := rfl
    rw [opening, bind_of_ok hspan, bind_of_ok hadvance, bind_of_ok hlocation, bind_of_ok hlook,
      if_neg Bool.false_ne_true, bind_of_ok (hskip ['P', '<']), bind_of_ok (hskip ['<']),
      Bool.or_false, if_neg Bool.false_ne_true, bind_of_ok (hskip [])]
    rfl
  have hget : (get : Reader Cursor) ⟨location, '(' :: char :: rest, false⟩ =
    .ok ⟨location, '(' :: char :: rest, false⟩ ⟨location, '(' :: char :: rest, false⟩ := rfl
  change openGroup ⟨current, groups, names⟩ ⟨location, '(' :: char :: rest, false⟩ = _
  rw [openGroup, bind_of_ok hget, bind_of_ok hopening]
  rfl

theorem part_close (outer : OpenSequence) (span : Span) (kind : GroupKind) :
    part ⟨current, ⟨span, kind, outer, false⟩ :: groups, names⟩ ')' ⟨location, ')' :: rest, false⟩ =
      .ok ⟨outer.push (.group ⟨span.start, location.after ')'⟩ kind (current.toNode location)),
          groups, names⟩
        ⟨location.after ')', rest, false⟩ :=
  rfl

/-- The operator of a repetition takes the last part, unless another operator follows. -/
theorem part_repetition (repetition : Repetition) {node : Node}
    (hnode : node.isRepeatable = true) (hrest : rest.head? ≠ some '?') :
    part ⟨current.push node, groups, names⟩ repetition.char
        ⟨location, repetition.char :: rest, false⟩ =
      .ok ⟨current.push (.repetition ⟨node.span.start, location.after repetition.char⟩
          repetition.least repetition.most node), groups, names⟩
        ⟨location.after repetition.char, rest, false⟩ := by
  have hpart : repeatedPart (current.push node) ⟨location, repetition.char :: rest, false⟩ =
      .ok (node, current) ⟨location, repetition.char :: rest, false⟩ := by
    change (if node.isRepeatable then pure (node, current) else failHere .repetitionMissing :
      Reader (Node × OpenSequence)) _ = _
    rw [if_pos hnode]
    rfl
  have hskip : skip ⟨location, repetition.char :: rest, false⟩ =
    .ok () ⟨location.after repetition.char, rest, false⟩ := rfl
  have hreluctance : reluctance ⟨location.after repetition.char, rest, false⟩ =
      .ok () ⟨location.after repetition.char, rest, false⟩ := by
    have hpeek : peek ⟨location.after repetition.char, rest, false⟩ =
      .ok rest.head? ⟨location.after repetition.char, rest, false⟩ := rfl
    rw [reluctance, bind_of_ok hpeek, if_neg hrest]
    rfl
  have hshort : shortRepetition repetition.least repetition.most (current.push node)
      ⟨location, repetition.char :: rest, false⟩ =
      .ok (current.push (.repetition ⟨node.span.start, location.after repetition.char⟩
          repetition.least repetition.most node))
        ⟨location.after repetition.char, rest, false⟩ := by
    rw [shortRepetition, bind_of_ok hpart]
    dsimp only
    rw [bind_of_ok hskip, bind_of_ok hreluctance]
    rfl
  have hoperator : part ⟨current.push node, groups, names⟩ repetition.char =
      shortRepetition repetition.least repetition.most (current.push node) >>= fun current ↦
        pure ⟨current, groups, names⟩ := by
    cases repetition <;> rfl
  rw [hoperator, bind_of_ok hshort]
  rfl

end Steps

/-! ### Several steps -/

/-- Reading goes on from one point to another one, by at most one part for every character. -/
def Leads (progress : Progress) (cursor : Cursor) (progress' : Progress) (cursor' : Cursor) :
    Prop :=
  ∃ count, count + cursor'.rest.length ≤ cursor.rest.length ∧
    ∀ steps, parts (steps + count) progress cursor = parts steps progress' cursor'

theorem Leads.trans {progress progress' progress'' : Progress} {cursor cursor' cursor'' : Cursor}
    (hfirst : Leads progress cursor progress' cursor')
    (hsecond : Leads progress' cursor' progress'' cursor'') :
    Leads progress cursor progress'' cursor'' := by
  obtain ⟨count, hcount, hparts⟩ := hfirst
  obtain ⟨count', hcount', hparts'⟩ := hsecond
  refine ⟨count' + count, by omega, fun steps ↦ ?_⟩
  rw [← Nat.add_assoc, hparts, hparts']

theorem Leads.refl (progress : Progress) (cursor : Cursor) :
    Leads progress cursor progress cursor :=
  ⟨0, Nat.le_of_eq (Nat.zero_add _), fun _ ↦ rfl⟩

/-- A part takes at least the character that it starts with. -/
theorem leads_of_part {progress progress' : Progress} {location location' : Location} {char : Char}
    {rest rest' : List Char}
    (hpart : part progress char ⟨location, char :: rest, false⟩ =
      .ok progress' ⟨location', rest', false⟩)
    (hrest : rest'.length ≤ rest.length) :
    Leads progress ⟨location, char :: rest, false⟩ progress' ⟨location', rest', false⟩ := by
  refine ⟨1, ?_, fun steps ↦ ?_⟩
  · rw [List.length_cons, Nat.add_comm]
    exact Nat.succ_le_succ hrest
  · have hblanks : skipBlanks ⟨location, char :: rest, false⟩ =
      .ok () ⟨location, char :: rest, false⟩ := rfl
    have hpeek : peek ⟨location, char :: rest, false⟩ =
      .ok (some char) ⟨location, char :: rest, false⟩ := rfl
    rw [parts, bind_of_ok hblanks, bind_of_ok hpeek]
    dsimp only
    rw [bind_of_ok hpart]

/-- At the end of the pattern nothing more is read. -/
theorem parts_of_leads {progress progress' : Progress} {location' : Location} {cursor : Cursor}
    (hleads : Leads progress cursor progress' ⟨location', [], false⟩) :
    parts (cursor.rest.length + 1) progress cursor = .ok progress' ⟨location', [], false⟩ := by
  obtain ⟨count, hcount, hparts⟩ := hleads
  obtain ⟨spare, hspare⟩ := Nat.exists_eq_add_of_le hcount
  rw [hspare, show count + ([] : List Char).length + spare + 1 = spare + 1 + count by
    rw [List.length_nil]; omega, hparts]
  rfl

theorem pattern_of_leads {text : String} {current : OpenSequence} {names : GroupNames}
    {location : Location}
    (hleads : Leads { current := { start := (Cursor.ofText text).location } } (.ofText text)
      ⟨current, [], names⟩ ⟨location, [], false⟩) :
    pattern.run (.ofText text) = .ok (current.toNode location) ⟨location, [], false⟩ := by
  have hget : (get : Reader Cursor) (.ofText text) = .ok (.ofText text) (.ofText text) := rfl
  change pattern (.ofText text) = _
  rw [pattern, bind_of_ok hget, bind_of_ok (parts_of_leads hleads)]
  rfl

end Reader

/-! ### Trees -/

/-- The meaning of a node if no flag was switched, and how deep it is nested. -/
structure Node.Means (node : Node) (expression : Expression) (depth : Nat) : Prop where
  meaning : node.meaning {} = .ok (expression, {})
  tooDeep : ∀ room, depth ≤ room → node.tooDeep? room = none

/-- The same for several nodes. -/
abbrev Node.AllMean (depth : Nat) : List Node → List Expression → Prop :=
  List.Forall₂ fun node expression ↦ node.Means expression depth

theorem inSequence_singleton (part : Expression) : Expression.inSequence [part] = part := by
  cases part <;> rfl

namespace Node.Means

variable {node : Node} {inner expression : Expression} {depth : Nat}

theorem mono {larger : Nat} (hmeans : node.Means expression depth) (hle : depth ≤ larger) :
    node.Means expression larger :=
  ⟨hmeans.meaning, fun room hroom ↦ hmeans.tooDeep room (Nat.le_trans hle hroom)⟩

theorem group (hinner : node.Means inner depth) (span : Span) :
    (Node.group span .capturing node).Means (.capture inner) (depth + 1) where
  meaning := by
    rw [Node.meaning, hinner.meaning]
    rfl
  tooDeep room hroom := by
    rw [Node.tooDeep?, if_neg (by omega), hinner.tooDeep _ (by omega)]

theorem repetition (hinner : node.Means inner depth) (span : Span) (least : Nat)
    (most : Option Nat) :
    (Node.repetition span least most node).Means (.repeating least most inner) (depth + 1) where
  meaning := by
    rw [Node.meaning, hinner.meaning]
    rfl
  tooDeep room hroom := by
    rw [Node.tooDeep?, if_neg (by omega), hinner.tooDeep _ (by omega)]

variable {nodes : List Node} {expressions : List Expression}

theorem meanings (hnodes : AllMean depth nodes expressions) (before : List Expression) :
    Node.meanings {} before nodes = .ok (before.reverse ++ expressions, {}) := by
  induction hnodes generalizing before with
  | nil => rw [Node.meanings, List.append_nil]
  | cons hfirst hrest ih =>
    rw [Node.meanings, hfirst.meaning]
    change Node.meanings {} (_ :: before) _ = _
    rw [ih, List.reverse_cons, List.append_assoc, List.singleton_append]

theorem anyTooDeep (hnodes : AllMean depth nodes expressions) {room : Nat}
    (hroom : depth ≤ room) : Node.anyTooDeep? room nodes = none := by
  induction hnodes with
  | nil => rw [Node.anyTooDeep?]
  | cons hfirst hrest ih => rw [Node.anyTooDeep?, hfirst.tooDeep room hroom, ih, Option.or_none]

theorem sequence (hnodes : AllMean depth nodes expressions) (span : Span) :
    (Node.sequence span nodes).Means (.inSequence expressions) (depth + 1) where
  meaning := by
    rw [Node.meaning, meanings hnodes]
    rfl
  tooDeep room hroom := by
    rw [Node.tooDeep?, if_neg (by omega), anyTooDeep hnodes (by omega)]

theorem alternatives (hnodes : AllMean depth nodes expressions) (span : Span) :
    (Node.alternatives span nodes).Means (.either expressions) (depth + 1) where
  meaning := by
    rw [Node.meaning, meanings hnodes]
    rfl
  tooDeep room hroom := by
    rw [Node.tooDeep?, if_neg (by omega), anyTooDeep hnodes (by omega)]

theorem toNode (hnodes : AllMean depth nodes expressions) (start stop : Location) :
    (OpenSequence.toNode { start, parts := nodes.reverse } stop).Means (.inSequence expressions)
      (depth + 1) := by
  rw [OpenSequence.toNode, OpenSequence.branch]
  dsimp only
  split
  · next hnone =>
    rw [List.reverse_eq_nil_iff.mp hnone] at hnodes
    cases hnodes
    exact ⟨rfl, fun _ _ ↦ rfl⟩
  · next part hone =>
    rw [(List.reverse_eq_cons_iff.mp hone : nodes = [part])] at hnodes
    obtain ⟨expression, others, hpart, hothers, rfl⟩ := List.forall₂_cons_left_iff.mp hnodes
    obtain rfl := List.forall₂_nil_left_iff.mp hothers
    rw [inSequence_singleton]
    exact hpart.mono (Nat.le_succ depth)
  · rw [List.reverse_reverse]
    exact sequence hnodes _

end Node.Means

/-! ### The words of all scripts -/

namespace Expression

theorem anyNeedsWords_eq_false_iff (parts : List Expression) :
    anyNeedsWords parts = false ↔ ∀ part ∈ parts, part.needsWords = false := by
  induction parts with
  | nil => simp [anyNeedsWords]
  | cons first rest ih =>
    rw [anyNeedsWords, Bool.or_eq_false_iff, ih, List.forall_mem_cons]

theorem needsWords_inSequence {parts : List Expression}
    (hparts : ∀ part ∈ parts, part.needsWords = false) : (inSequence parts).needsWords = false := by
  have hkept (part : Expression) (hpart : part ∈ parts.filter (!·.isEmpty)) :=
    hparts part (List.mem_of_mem_filter hpart)
  rw [inSequence]
  split
  · rfl
  · next part hsingle => exact hkept part (hsingle ▸ List.mem_singleton_self part)
  · rw [needsWords, anyNeedsWords_eq_false_iff]
    exact hkept

theorem needsWords_either {parts : List Expression}
    (hparts : ∀ part ∈ parts, part.needsWords = false) : (either parts).needsWords = false := by
  have hbranches (branch : Expression) (hbranch : branch ∈ parts.flatMap branches) :
      branch.needsWords = false := by
    obtain ⟨part, hpart, hmem⟩ := List.mem_flatMap.mp hbranch
    have hneeds := hparts part hpart
    cases part with
    | choice others =>
      rw [needsWords, anyNeedsWords_eq_false_iff] at hneeds
      exact hneeds branch hmem
    | _ => exact List.mem_singleton.mp hmem ▸ hneeds
  rw [either]
  split
  · next branch hsingle => exact hbranches branch (hsingle ▸ List.mem_singleton_self branch)
  · split
    · rfl
    · rw [needsWords, anyNeedsWords_eq_false_iff]
      exact hbranches

theorem needsWords_repeating {inner : Expression} (hinner : inner.needsWords = false)
    (least : Nat) (most : Option Nat) : (repeating least most inner).needsWords = false := by
  have hsmall (least : Nat) (most : Option Nat) :
      (if most = some 0 then empty else if least = 1 ∧ most = some 1 then inner
        else repeated least most inner).needsWords = false := by
    split
    · rfl
    · split <;> exact hinner
  exact hsmall _ _

end Expression

/-! ### The pattern for a phrase -/

namespace Phrase

open Reader

/-- How deep the tree of the pattern for a phrase is nested at most. -/
def depth : Phrase → Nat
  | text _ | anyChar => 1
  | sequence first second | either first second => max first.depth second.depth + 2
  | repeated _ inner => inner.depth + 2

/-- Where a sequence starts, the pattern for a phrase leads to a tree that means its expression. -/
def Readable (phrase : Phrase) : Prop :=
  ∀ (start : Location) (groups : List OpenGroup) (names : GroupNames) (location : Location)
    (rest : List Char), rest.head? ≠ some '?' →
    ∃ current location', Leads ⟨{ start }, groups, names⟩ ⟨location, phrase.written ++ rest, false⟩
      ⟨current, groups, names⟩ ⟨location', rest, false⟩ ∧
      ∀ stop, (current.toNode stop).Means phrase.expression phrase.depth

section Leads

variable (current : OpenSequence) (groups : List OpenGroup) (names : GroupNames)
  (location : Location) (rest : List Char)

theorem leads_quotedChar (char : Char) :
    ∃ node location', Leads ⟨current, groups, names⟩ ⟨location, quotedChar char ++ rest, false⟩
      ⟨current.push node, groups, names⟩ ⟨location', rest, false⟩ ∧
      node.Means (.oneOf (.single char)) 0 := by
  rw [quotedChar]
  split
  · next hmeta =>
    obtain ⟨span, hpart⟩ := part_escaped current groups names location rest hmeta
    exact ⟨_, _, leads_of_part hpart (Nat.le_succ _), rfl, fun _ _ ↦ rfl⟩
  · next hplain =>
    have hpart := part_plain current groups names location rest (Bool.eq_false_iff.mpr hplain)
    exact ⟨_, _, leads_of_part hpart (Nat.le_refl _), rfl, fun _ _ ↦ rfl⟩

theorem leads_text (chars : List Char) :
    ∃ nodes location', Leads ⟨current, groups, names⟩
      ⟨location, chars.flatMap quotedChar ++ rest, false⟩
      ⟨{ current with parts := nodes.reverse ++ current.parts }, groups, names⟩
      ⟨location', rest, false⟩ ∧
      Node.AllMean 0 nodes (chars.map fun char ↦ .oneOf (.single char)) := by
  induction chars generalizing current location with
  | nil => exact ⟨[], location, .refl _ _, .nil⟩
  | cons char chars ih =>
    rw [List.flatMap_cons, List.append_assoc]
    obtain ⟨node, middle, hfirst, hnode⟩ :=
      leads_quotedChar current groups names location (chars.flatMap quotedChar ++ rest) char
    obtain ⟨nodes, location', hrest, hnodes⟩ := ih (current.push node) middle
    refine ⟨node :: nodes, location', ?_, .cons hnode hnodes⟩
    rw [List.reverse_cons, List.append_assoc, List.singleton_append]
    exact hfirst.trans hrest

/-- The pattern for a phrase does not start with a question mark. -/
theorem exists_cons_written (phrase : Phrase) (rest : List Char) (hrest : rest.head? ≠ some '?')
    (hne : rest ≠ []) :
    ∃ char others, phrase.written ++ rest = char :: others ∧ char ≠ '?' := by
  cases phrase with
  | text chars =>
    cases chars with
    | nil =>
      obtain ⟨char, others, rfl⟩ := List.exists_cons_of_ne_nil hne
      exact ⟨char, others, rfl, fun hchar ↦ hrest (congrArg some hchar)⟩
    | cons char chars =>
      rw [written, List.flatMap_cons, quotedChar]
      split
      · exact ⟨'\\', _, rfl, by decide⟩
      · next hplain => exact ⟨char, _, rfl, fun hchar ↦ hplain (hchar ▸ rfl)⟩
  | anyChar => exact ⟨'.', _, rfl, by decide⟩
  | sequence | either | repeated => exact ⟨'(', _, rfl, by decide⟩

/-- Parentheses around the pattern for a phrase make one part of it. -/
theorem leads_grouped {phrase : Phrase} (hphrase : phrase.Readable) :
    ∃ node location', Leads ⟨current, groups, names⟩
      ⟨location, grouped phrase.written ++ rest, false⟩
      ⟨current.push node, groups, names⟩ ⟨location', rest, false⟩ ∧
      node.Means (.capture phrase.expression) (phrase.depth + 1) ∧ node.isRepeatable = true := by
  have hgrouped : grouped phrase.written ++ rest = '(' :: (phrase.written ++ ')' :: rest) := by
    rw [grouped, List.cons_append, List.append_assoc, List.singleton_append]
  obtain ⟨char, others, hothers, hchar⟩ := exists_cons_written phrase (')' :: rest) (by simp)
    (List.cons_ne_nil _ _)
  obtain ⟨inner, behind, hinner, hmeans⟩ := hphrase (location.after '(')
    (⟨⟨location, location.after '('⟩, .capturing, current, false⟩ :: groups) names
    (location.after '(') (')' :: rest) (by simp)
  have hopen := leads_of_part (part_open current groups names location others hchar) (Nat.le_refl _)
  have hclose := leads_of_part (part_close inner groups names behind rest current
    ⟨location, location.after '('⟩ .capturing) (Nat.le_refl _)
  rw [← hothers] at hopen
  rw [hgrouped]
  exact ⟨_, _, (hopen.trans hinner).trans hclose, (hmeans behind).group _, rfl⟩

end Leads

theorem readable (phrase : Phrase) : phrase.Readable := by
  intro start groups names location rest hrest
  induction phrase generalizing start groups names location rest with
  | text chars =>
    obtain ⟨nodes, location', hleads, hnodes⟩ :=
      leads_text { start } groups names location rest chars
    rw [List.append_nil] at hleads
    exact ⟨_, location', hleads, fun stop ↦ .toNode hnodes start stop⟩
  | anyChar =>
    have hleads := leads_of_part (part_dot { start } groups names location rest) (Nat.le_refl _)
    refine ⟨_, _, hleads, fun stop ↦ ⟨rfl, fun _ _ ↦ rfl⟩⟩
  | sequence first second ihfirst ihsecond =>
    obtain ⟨node, middle, hbefore, hnode, -⟩ :=
      leads_grouped { start } groups names location (grouped second.written ++ rest) ihfirst
    obtain ⟨node', location', hbehind, hnode', -⟩ :=
      leads_grouped (OpenSequence.push { start } node) groups names middle rest ihsecond
    have hnodes : Node.AllMean (max first.depth second.depth + 1) [node, node']
        [.capture first.expression, .capture second.expression] :=
      .cons (hnode.mono (by omega)) (.cons (hnode'.mono (by omega)) .nil)
    rw [written, List.append_assoc]
    exact ⟨_, location', hbefore.trans hbehind, fun stop ↦ .toNode hnodes start stop⟩
  | either first second ihfirst ihsecond =>
    obtain ⟨node, middle, hbefore, hnode, -⟩ :=
      leads_grouped { start } groups names location ('|' :: grouped second.written ++ rest) ihfirst
    have hbar := leads_of_part (part_bar (OpenSequence.push { start } node) groups names middle
      (grouped second.written ++ rest)) (Nat.le_refl _)
    obtain ⟨node', location', hbehind, hnode', -⟩ :=
      leads_grouped (OpenSequence.bar (OpenSequence.push { start } node) middle (middle.after '|'))
        groups names (middle.after '|') rest ihsecond
    have hnodes : Node.AllMean (max first.depth second.depth + 1) [node, node']
        [.capture first.expression, .capture second.expression] :=
      .cons (hnode.mono (by omega)) (.cons (hnode'.mono (by omega)) .nil)
    rw [written, List.append_assoc]
    exact ⟨_, location', (hbefore.trans hbar).trans hbehind, fun stop ↦ .alternatives hnodes _⟩
  | repeated repetition inner ih =>
    obtain ⟨node, middle, hinner, hnode, hrepeatable⟩ :=
      leads_grouped { start } groups names location (repetition.char :: rest) ih
    have hoperator := leads_of_part (part_repetition { start } groups names middle rest repetition
      hrepeatable hrest) (Nat.le_refl _)
    rw [written, List.append_assoc]
    exact ⟨_, _, hinner.trans hoperator, fun stop ↦ hnode.repetition _ _ _⟩

/-! ### Acceptance -/

theorem ofText_written (phrase : Phrase) (hdepth : phrase.depth ≤ nestingLimit) :
    ∃ node, Node.ofText (String.ofList phrase.written) = .ok node ∧
      node.meaning {} = .ok (phrase.expression, {}) := by
  obtain ⟨current, location, hleads, hmeans⟩ := phrase.readable .initial [] [] .initial [] nofun
  have hstart : Cursor.ofText (String.ofList phrase.written) =
      ⟨.initial, phrase.written ++ [], false⟩ := by
    rw [Cursor.ofText, String.toList_ofList, List.append_nil]
  have hread : pattern.run (.ofText (String.ofList phrase.written)) =
    .ok (current.toNode location) ⟨location, [], false⟩ := pattern_of_leads (hstart ▸ hleads)
  refine ⟨current.toNode location, ?_, (hmeans location).meaning⟩
  rw [Node.ofText, hread]
  dsimp only
  rw [(hmeans location).tooDeep nestingLimit hdepth]

theorem needsWords_expression (phrase : Phrase) : phrase.expression.needsWords = false := by
  induction phrase with
  | text chars =>
    refine Expression.needsWords_inSequence fun part hpart ↦ ?_
    obtain ⟨char, -, rfl⟩ := List.mem_map.mp hpart
    rfl
  | anyChar => rfl
  | sequence first second ihfirst ihsecond =>
    exact Expression.needsWords_inSequence (by simp [Expression.needsWords, ihfirst, ihsecond])
  | either first second ihfirst ihsecond =>
    exact Expression.needsWords_either (by simp [Expression.needsWords, ihfirst, ihsecond])
  | repeated repetition inner ih =>
    have hinner : (Expression.capture inner.expression).needsWords = false := ih
    exact Expression.needsWords_repeating hinner _ _

/-- The pattern for a phrase is accepted within the limits for patterns. It occurs in the texts that
contain a word that the phrase describes, and in no others. -/
theorem exists_pattern (phrase : Phrase) (hdepth : phrase.depth ≤ nestingLimit)
    (hsize : ∀ direction, phrase.expression.searchSize direction ≤ sizeLimit) :
    ∃ pattern, Pattern.ofText (String.ofList phrase.written) = .ok pattern ∧
      ∀ text, pattern.occursIn text = true ↔
        ∃ word, phrase.Describes word ∧ word <:+: text.toList := by
  obtain ⟨node, hnode, hmeaning⟩ := phrase.ofText_written hdepth
  refine ⟨⟨phrase.expression⟩, ?_, phrase.occursIn_expression_iff⟩
  have hforwards := Nat.not_lt.mpr (hsize .forwards)
  have hbackwards := Nat.not_lt.mpr (hsize .backwards)
  rw [Pattern.ofText, hnode]
  simp only [Except.mapError, bind, Except.bind, hmeaning, if_neg hforwards, if_neg hbackwards,
    phrase.needsWords_expression, Bool.false_eq_true, if_false]
  rfl

/-! ### Plain text -/

theorem size_single (char : Char) (direction : Direction) :
    (CharSet.single char).size direction = stateSize * char.utf8Size := by
  have honly : (CharSet.single char).only? = some char := by
    rw [CharSet.only?, CharSet.ranges_single]
    dsimp only
    rw [if_pos rfl, Char.ofNat_toNat]
  unfold CharSet.size
  rw [honly]

theorem sizeOfAll_chars (direction : Direction) (chars : List Char) (size : Nat) :
    Expression.sizeOfAll direction (chars.map fun char ↦ .oneOf (.single char)) size =
      size + stateSize * (chars.map Char.utf8Size).sum := by
  induction chars generalizing size with
  | nil => rw [List.map_nil, Expression.sizeOfAll, List.map_nil, List.sum_nil, Nat.mul_zero,
      Nat.add_zero]
  | cons char chars ih =>
    rw [List.map_cons, Expression.sizeOfAll, ih, Expression.size, size_single, List.map_cons,
      List.sum_cons, Nat.mul_add, Nat.add_assoc]

/-- One state for every octet, and one for the empty text. -/
theorem size_text_le (direction : Direction) (chars : List Char) :
    (text chars).expression.size direction ≤ stateSize * ((chars.map Char.utf8Size).sum + 1) := by
  have hparts : (chars.map fun char ↦ Expression.oneOf (.single char)).filter (!·.isEmpty) =
      chars.map fun char ↦ .oneOf (.single char) := by
    rw [List.filter_eq_self]
    simp [Expression.isEmpty]
  have hall := sizeOfAll_chars direction chars 0
  rw [expression, Expression.inSequence, hparts]
  split
  · next hnone =>
    rw [Expression.size]
    exact Nat.le_mul_of_pos_right _ (Nat.succ_pos _)
  · next part hone =>
    rw [hone, Expression.sizeOfAll, Expression.sizeOfAll, Nat.zero_add, Nat.zero_add] at hall
    rw [hall]
    exact Nat.mul_le_mul_left _ (Nat.le_succ _)
  · rw [Expression.size, hall, Nat.zero_add]
    exact Nat.mul_le_mul_left _ (Nat.le_succ _)

/-- A text occurs in the texts that contain it. -/
theorem exists_pattern_text (chars : List Char) (hsize : (chars.map Char.utf8Size).sum ≤ 300000) :
    ∃ pattern, Pattern.ofText (String.ofList (chars.flatMap quotedChar)) = .ok pattern ∧
      ∀ text, pattern.occursIn text = true ↔ chars <:+: text.toList := by
  have hlimit (direction : Direction) :
      (text chars).expression.searchSize direction ≤ sizeLimit := by
    have hle := size_text_le direction chars
    unfold Expression.searchSize
    cases direction <;> simp only [stateSize, transitionSize, referenceSize, sizeLimit] at hle ⊢ <;>
      omega
  have hdepth : (text chars).depth ≤ nestingLimit := Nat.le_of_ble_eq_true rfl
  obtain ⟨pattern, hpattern, hoccurs⟩ := (text chars).exists_pattern hdepth hlimit
  refine ⟨pattern, hpattern, fun message ↦ ?_⟩
  rw [hoccurs]
  simp only [Describes, exists_eq_left]

end Phrase

end PacketRefusal.Pattern
