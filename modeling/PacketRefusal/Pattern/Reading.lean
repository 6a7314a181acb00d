import PacketRefusal.Pattern.Brackets
import PacketRefusal.Pattern.Group

/-!
# Reading patterns

`Node.ofText` reads the tree of a pattern. Groups that are not closed yet stand on a stack; in each
of them the reader collects a sequence, and a bar puts the sequence aside as one of several
branches. An operator of repetition takes the last part of the sequence and puts itself in its
place.

Trees may not be nested too deeply. Only the finished tree is checked for that.
-/

set_option autoImplicit false
set_option relaxedAutoImplicit false

namespace PacketRefusal.Pattern

/-- What is collected between two parentheses: where the first branch starts and the branches that
are complete, if there are any, and the parts of the current one. All are in reverse order. -/
structure OpenSequence where
  branches : Option (Location × List Node) := none
  start : Location
  parts : List Node := []

namespace OpenSequence

def push (open_ : OpenSequence) (part : Node) : OpenSequence :=
  { open_ with parts := part :: open_.parts }

/-- The current branch, up to a location. A single part stands for itself. -/
def branch (open_ : OpenSequence) (stop : Location) : Node :=
  match open_.parts with
  | [] => .empty ⟨open_.start, stop⟩
  | [part] => part
  | parts => .sequence ⟨open_.start, stop⟩ parts.reverse

/-- All that was collected, up to a location. -/
def toNode (open_ : OpenSequence) (stop : Location) : Node :=
  match open_.branches with
  | none => open_.branch stop
  | some (start, branches) => .alternatives ⟨start, stop⟩ (open_.branch stop :: branches).reverse

/-- The current branch is complete at a bar, and the next one starts behind it. -/
def bar (open_ : OpenSequence) (stop next : Location) : OpenSequence :=
  let (start, branches) := open_.branches.getD (open_.start, [])
  { branches := some (start, open_.branch stop :: branches), start := next }

end OpenSequence

/-- A group that is not closed yet: what opened it, what was collected before it, and whether blanks
were passed over there. -/
structure OpenGroup where
  span : Span
  kind : GroupKind
  outer : OpenSequence
  skipsBlanks : Bool

structure Progress where
  current : OpenSequence
  groups : List OpenGroup := []
  names : GroupNames := []

/-- Whether blanks are passed over once flags were switched. -/
def FlagChanges.skipsBlanks (changes : FlagChanges) (before : Bool) : Bool :=
  (changes.lookup .skipBlanks).getD before

/-- Whether a repetition can follow a node. -/
def Node.isRepeatable : Node → Bool
  | .empty _ | .flags _ _ => false
  | _ => true

namespace Reader

/-! ### Repetition -/

/-- Reads a decimal number of 32 bits. Blanks around it are passed over. -/
def decimal : Reader (Except Fault Nat) := do
  let _ ← takeWhile Text.isWhitespace
  let start ← location
  let digits ← takeWhileSpaced Char.isDigit
  let span : Span := ⟨start, ← location⟩
  let _ ← takeWhileSpaced Text.isWhitespace
  let number := digits.foldl (fun number digit ↦ 10 * number + (digit.toNat - '0'.toNat)) 0
  if digits.isEmpty then return .error { cause := .countEmpty, span }
  else if 0x100000000 ≤ number then return .error { cause := .decimalInvalid, span }
  else return .ok number

/-- Goes on with a number, or reports that there is none. -/
def known (number : Except Fault Nat) : Reader Nat :=
  match number with
  | .ok number => return number
  | .error fault => throw fault

def bounds (start : Location) : Reader (Nat × Option Nat) := do
  advance
  if (← peek).isNone then failSince .countUnclosed start
  else
    let least ← decimal
    match ← peek with
    | none => failSince .countUnclosed start
    | some ',' =>
      advance
      match ← peek with
      | none => failSince .countUnclosed start
      | some '\x7d' => return (← known least, none)
      | some _ =>
        let least ← known least
        let most ← known (← decimal)
        return (least, some most)
    | some _ =>
      let count ← known least
      return (count, some count)

/-- Passes over the question mark that makes a repetition reluctant. -/
def reluctance : Reader Unit := do
  if (← peek) = some '?' then skip

/-- Takes the last part of the sequence, which an operator at the cursor is going to repeat. -/
def repeatedPart (current : OpenSequence) : Reader (Node × OpenSequence) := do
  match current.parts with
  | [] => failHere .repetitionMissing
  | part :: parts =>
    if part.isRepeatable then return (part, { current with parts })
    else failHere .repetitionMissing

/-- Reads an operator of one character that repeats the last part. -/
def shortRepetition (least : Nat) (most : Option Nat) (current : OpenSequence) :
    Reader OpenSequence := do
  let (part, current) ← repeatedPart current
  skip
  reluctance
  return current.push (.repetition ⟨part.span.start, ← location⟩ least most part)

/-- Reads bounds between braces that repeat the last part. -/
def countedRepetition (current : OpenSequence) : Reader OpenSequence := do
  let (part, current) ← repeatedPart current
  let start ← location
  let (least, most) ← bounds start
  if (← peek) ≠ some '\x7d' then failSince .countUnclosed start
  else
    advance
    reluctance
    if most.any (· < least) then failSince .countInvalid start
    else return current.push (.repetition ⟨part.span.start, ← location⟩ least most part)

/-! ### Groups -/

/-- Switches whether blanks are passed over. -/
def switchBlanks (skipsBlanks : Bool) : Reader Unit :=
  modify fun cursor ↦ { cursor with skipsBlanks }

/-- Opens a group, or switches flags for the rest of the group around them. -/
def openGroup (progress : Progress) : Reader Progress := do
  let before := (← get).skipsBlanks
  let (opened, names) ← opening progress.names
  match opened with
  | .flags span changes =>
    switchBlanks (changes.skipsBlanks before)
    return { progress with current := progress.current.push (.flags span changes), names }
  | .group span kind =>
    match kind with
    | .switching changes => switchBlanks (changes.skipsBlanks before)
    | .capturing => pure ()
    let group : OpenGroup := { span, kind, outer := progress.current, skipsBlanks := before }
    return { current := { start := ← location }, groups := group :: progress.groups, names }

def closeGroup (progress : Progress) : Reader Progress := do
  match progress.groups with
  | [] => failChar .groupUnopened
  | group :: groups =>
    switchBlanks group.skipsBlanks
    let inner := progress.current.toNode (← location)
    skip
    let node : Node := .group ⟨group.span.start, ← location⟩ group.kind inner
    return { progress with current := group.outer.push node, groups }

/-! ### Patterns -/

/-- Reads the next part of a pattern, which starts with a known character. -/
def part (progress : Progress) (char : Char) : Reader Progress := do
  let current := progress.current
  match char with
  | '(' => openGroup progress
  | ')' => closeGroup progress
  | '|' =>
    let stop ← location
    skip
    return { progress with current := current.bar stop (← location) }
  | '[' => return { progress with current := current.push (← bracketNode) }
  | '?' => return { progress with current := ← shortRepetition 0 (some 1) current }
  | '*' => return { progress with current := ← shortRepetition 0 none current }
  | '+' => return { progress with current := ← shortRepetition 1 none current }
  | '\x7b' => return { progress with current := ← countedRepetition current }
  | '\\' => return { progress with current := current.push (← escape).toNode }
  | _ =>
    let span ← charSpan
    skip
    let node : Node :=
      match char with
      | '.' => .dot span
      | '^' => .assertion span .lineStart
      | '$' => .assertion span .lineEnd
      | _ => .literal ⟨span, char, false⟩
    return { progress with current := current.push node }

/-- Reads up to the end of a pattern. At most `steps` parts are read. -/
def parts : Nat → Progress → Reader Progress
  | 0, progress => return progress
  | steps + 1, progress => do
    skipBlanks
    match ← peek with
    | none => return progress
    | some char => parts steps (← part progress char)

def pattern : Reader Node := do
  let cursor ← get
  let progress ← parts (cursor.rest.length + 1) { current := { start := cursor.location } }
  match progress.groups with
  | group :: _ => fail .groupUnclosed group.span
  | [] => return progress.current.toNode (← location)

end Reader

/-! ### Nesting -/

/-- How deep groups, brackets and the like may be nested. -/
def nestingLimit : Nat := 250

mutual

/-- The span of the first node that is nested too deeply, if `room` levels are left. -/
def SetNode.tooDeep? (room : Nat) : SetNode → Option Span
  | .brackets span _ inner => if room = 0 then some span else inner.tooDeep? (room - 1)
  | .union span items => if room = 0 then some span else SetNode.anyTooDeep? (room - 1) items
  | .operation span _ left right =>
    if room = 0 then some span else (left.tooDeep? (room - 1)).or (right.tooDeep? (room - 1))
  | .empty _ | .literal _ | .range _ _ _ | .named _ _ _ | .property _ _ _ | .shorthand _ _ _ => none

/-- The span of the first node among several that is nested too deeply. -/
def SetNode.anyTooDeep? (room : Nat) : List SetNode → Option Span
  | [] => none
  | node :: rest => (node.tooDeep? room).or (SetNode.anyTooDeep? room rest)

end

mutual

/-- The span of the first node that is nested too deeply, if `room` levels are left. -/
def Node.tooDeep? (room : Nat) : Node → Option Span
  | .brackets span _ inner => if room = 0 then some span else inner.tooDeep? (room - 1)
  | .repetition span _ _ inner | .group span _ inner =>
    if room = 0 then some span else inner.tooDeep? (room - 1)
  | .sequence span parts => if room = 0 then some span else Node.anyTooDeep? (room - 1) parts
  | .alternatives span branches =>
    if room = 0 then some span else Node.anyTooDeep? (room - 1) branches
  | .empty _ | .flags _ _ | .literal _ | .dot _ | .assertion _ _ | .property _ _ _
  | .shorthand _ _ _ => none

/-- The span of the first node among several that is nested too deeply. -/
def Node.anyTooDeep? (room : Nat) : List Node → Option Span
  | [] => none
  | node :: rest => (node.tooDeep? room).or (Node.anyTooDeep? room rest)

end

/-- Reads the tree of a pattern. -/
def Node.ofText (text : String) : Except Fault Node :=
  match Reader.pattern.run (.ofText text) with
  | .error fault _ => .error fault
  | .ok node _ =>
    match node.tooDeep? nestingLimit with
    | some span => .error { cause := .nestedTooDeep nestingLimit, span }
    | none => .ok node

end PacketRefusal.Pattern
