import PacketRefusal.Pattern.Expression

/-!
# How large the automaton of a pattern is

Patterns whose automaton would take too much memory are not accepted, so that a short pattern with
large counts cannot exhaust it. `Expression.size` computes how many octets the automaton of an
expression takes, without building it. There are two automata: one that reads forwards and marks
captures, and one that reads backwards.

Both read octets. A set of characters outside ASCII becomes sequences of ranges of octets, which are
the UTF-8 encodings of its characters. Forwards, states from which the same sequences lead on are
shared; backwards, states that the same ranges lead to.
-/

set_option autoImplicit false
set_option relaxedAutoImplicit false

namespace PacketRefusal.Pattern

open Text

/-! ### Encodings -/

/-- The sequences of ranges of octets that encode some code points: a first octet, counted from
`lead` on, and `count` further octets of six bits each. -/
def encodings (lead : Nat) : Nat → CodeRange → List (List CodeRange)
  | 0, (first, last) => [[(lead + first, lead + last)]]
  | count + 1, (first, last) =>
    let block := 64 ^ (count + 1)
    let within (top low high : Nat) : List (List CodeRange) :=
      (encodings 0x80 count (low, high)).map ((lead + top, lead + top) :: ·)
    if first / block = last / block then within (first / block) (first % block) (last % block)
    else
      let startsWhole := first % block = 0
      let stopsWhole := (last + 1) % block = 0
      let whole := (lead + (first + block - 1) / block, lead + (last + 1) / block - 1)
      (if startsWhole then [] else within (first / block) (first % block) (block - 1)) ++
        (if whole.1 ≤ whole.2 then [whole :: List.replicate (count + 1) (0x80, 0xBF)] else []) ++
        (if stopsWhole then [] else within (last / block) 0 (last % block))

/-- The code points with encodings of one form: the range they lie in, what their first octet counts
from, and the number of further octets. -/
def encodingForms : List (CodeRange × Nat × Nat) :=
  [((0, 0x7F), 0, 0), ((0x80, 0x7FF), 0xC0, 1), ((0x800, 0xD7FF), 0xE0, 2),
    ((0xE000, 0xFFFF), 0xE0, 2), ((0x10000, 0x10FFFF), 0xF0, 3)]

/-- The sequences of ranges of octets that encode the characters of a set. -/
def CharSet.encodings (set : CharSet) : List (List CodeRange) :=
  set.ranges.flatMap fun (first, last) ↦
    encodingForms.flatMap fun ((low, high), lead, count) ↦
      if max first low ≤ min last high then
        Pattern.encodings lead count (max first low, min last high)
      else []

/-! ### States -/

/-- The way through an automaton. -/
inductive Direction
  | forwards
  | backwards
  deriving DecidableEq

def stateSize : Nat := 32

def transitionSize : Nat := 8

/-- The octets that a reference to a state takes in a state that chooses. -/
def referenceSize : Nat := 4

/-- The starts of some sequences without repetition, as many of each sequence as it has elements,
from those of a shortest length on. -/
def starts (shortest : Nat) (sequences : List (List CodeRange)) : List (List CodeRange) :=
  (sequences.flatMap fun sequence ↦
    (List.range sequence.length).map fun length ↦ sequence.take (shortest + length)).eraseDups

/-- The states in the midst of some sequences of ranges, each given by the sequences that lead on
from it, without repetition. -/
def sharedForwards (sequences : List (List CodeRange)) : List (List (List CodeRange)) :=
  ((starts 0 sequences).map fun start ↦
    sequences.filterMap fun sequence ↦ List.isPrefixOf? start sequence).eraseDups

/-- The number of ways on from a state. -/
def waysOn (sequences : List (List CodeRange)) : Nat :=
  (sequences.filterMap List.head?).eraseDups.length

/-- The octets that the automaton of a set takes. -/
def CharSet.size (set : CharSet) (direction : Direction) : Nat :=
  match set.only?, direction with
  | some char, _ => stateSize * char.utf8Size
  | none, direction =>
    if set.isAscii then 2 * stateSize + transitionSize * set.ranges.length
    else
      let sequences := set.encodings
      match direction with
      | .forwards =>
        stateSize + (sharedForwards sequences).foldl
          (fun size sequences ↦ size + stateSize + transitionSize * waysOn sequences) 0
      | .backwards =>
        stateSize * (2 + (starts 1 sequences).length) + referenceSize * sequences.length

namespace Expression

mutual

/-- The octets that the automaton of an expression takes. -/
def size (direction : Direction) : Expression → Nat
  | empty | condition _ => stateSize
  | oneOf set => set.size direction
  | capture inner =>
    match direction with
    | .forwards => 2 * stateSize + inner.size direction
    | .backwards => inner.size direction
  | sequence parts => sizeOfAll direction parts 0
  | choice branches =>
    sizeOfAll direction branches (2 * stateSize + referenceSize * branches.length)
  | repeated least most inner =>
    let once := inner.size direction
    match least, most with
    | 0, none =>
      if inner.mayBeEmpty then once + 3 * stateSize + 4 * referenceSize
      else once + stateSize + 2 * referenceSize
    | least, none => least * once + stateSize + 2 * referenceSize
    | 0, some 1 => once + 2 * stateSize + 2 * referenceSize
    | least, some most =>
      let certain := if least = 0 then stateSize else least * once
      if least = most then certain
      else certain + stateSize + (most - least) * (once + stateSize + 2 * referenceSize)

def sizeOfAll (direction : Direction) : List Expression → Nat → Nat
  | [], size => size
  | first :: rest, size => sizeOfAll direction rest (size + first.size direction)

end

/-- The octets that the automaton takes that looks for an expression anywhere in a text: before the
expression it passes over octets, and behind it there is a last state. Forwards, the whole is marked
as a capture too. -/
def searchSize (direction : Direction) (expression : Expression) : Nat :=
  let around :=
    match direction with
    | .forwards => 6 * stateSize
    | .backwards => 4 * stateSize
  around + transitionSize + 2 * referenceSize + expression.size direction

mutual

/-- Whether an expression contains a condition on the words of all scripts. -/
def needsWords : Expression → Bool
  | condition (.word allScripts _) => allScripts
  | empty | oneOf _ | condition _ => false
  | capture inner | repeated _ _ inner => inner.needsWords
  | sequence parts => anyNeedsWords parts
  | choice branches => anyNeedsWords branches

def anyNeedsWords : List Expression → Bool
  | [] => false
  | first :: rest => first.needsWords || anyNeedsWords rest

end

end Expression

end PacketRefusal.Pattern
