import PacketRefusal.Pattern.Escape

/-!
# Sets of characters between brackets

Brackets can be nested, and double operators join what stands before them to what stands behind.
The reader keeps the open brackets on a stack. In each of them it collects a union; an operator puts
the union aside as its left operand, and the next operator or the closing bracket supplies the right
one.
-/

set_option autoImplicit false
set_option relaxedAutoImplicit false

namespace PacketRefusal.Pattern

/-- Items that are collected for a union, the last one first. -/
structure OpenUnion where
  span : Span
  items : List SetNode := []

namespace OpenUnion

def push (union : OpenUnion) (item : SetNode) : OpenUnion :=
  let start := if union.items.isEmpty then item.span.start else union.span.start
  { span := ⟨start, item.span.stop⟩, items := item :: union.items }

/-- The union as a node. A single item stands for itself. -/
def toNode (union : OpenUnion) : SetNode :=
  match union.items with
  | [] => .empty union.span
  | [item] => item
  | items => .union union.span items.reverse

end OpenUnion

/-- Brackets that are not closed yet: the span of what opens them, whether they are negated, an
operator that waits for its right operand, and the items behind it. -/
structure OpenBrackets where
  span : Span
  negated : Bool
  pending : Option (SetOperation × SetNode) := none
  union : OpenUnion

namespace OpenBrackets

/-- What stands in the brackets so far. -/
def inner (brackets : OpenBrackets) : SetNode :=
  let right := brackets.union.toNode
  match brackets.pending with
  | none => right
  | some (kind, left) => .operation ⟨left.span.start, right.span.stop⟩ kind left right

/-- The brackets with one item more. -/
def push (brackets : OpenBrackets) (item : SetNode) : OpenBrackets :=
  { brackets with union := brackets.union.push item }

/-- The brackets behind an operator that ends at a location. -/
def operate (brackets : OpenBrackets) (kind : SetOperation) (location : Location) : OpenBrackets :=
  { brackets with pending := some (kind, brackets.inner), union := { span := .point location } }

end OpenBrackets

def namedSet? (name : List Char) : Option NamedSet :=
  [("alnum", .alphanumeric), ("alpha", .alphabetic), ("ascii", .ascii), ("blank", .blank),
    ("cntrl", .control), ("digit", .digit), ("graph", .graphic), ("lower", .lower),
    ("print", .printable), ("punct", .punctuation), ("space", .space), ("upper", .upper),
    ("word", .word), ("xdigit", .hexadecimal)].lookup (String.ofList name)

namespace Reader

/-- Reads hyphens, which stand for themselves directly behind the opening bracket at `start`, up to
`count` of them. -/
def leadingHyphens (start : Location) : Nat → OpenUnion → Reader OpenUnion
  | 0, union => return union
  | count + 1, union => do
    if (← peek) = some '-' then
      let span ← charSpan
      advance
      if (← peek).isNone then fail .classUnclosed (.point start)
      else leadingHyphens start count (union.push (.literal ⟨span, '-', false⟩))
    else return union

/-- Reads an opening bracket and what directly behind it is special: a negation, hyphens, and a
closing bracket that stands for itself. -/
def openBrackets : Reader OpenBrackets := do
  let start ← location
  advance
  let negated := (← peek) == some '^'
  if negated then advance
  if (← peek).isNone then failSince .classUnclosed start
  else
    let union ← leadingHyphens start (← get).rest.length { span := .point (← location) }
    if union.items.isEmpty && (← peek) == some ']' then
      let span ← charSpan
      advance
      if (← peek).isNone then failSince .classUnclosed start
      else
        let union := union.push (.literal ⟨span, ']', false⟩)
        return { span := ⟨start, ← location⟩, negated, union }
    else return { span := ⟨start, ← location⟩, negated, union }

/-- Reads a set by its name between brackets and colons, if one stands at the cursor. -/
def namedSet : Reader (Option SetNode) := do
  let cursor ← get
  match cursor.rest with
  | '[' :: ':' :: rest =>
    let negated := rest.head? == some '^'
    let name := (if negated then rest.tail else rest).takeWhile (· != ':')
    let text := "[:" ++ (if negated then "^" else "") ++ String.ofList name ++ ":]"
    match namedSet? name with
    | none => return none
    | some kind =>
      if ← skipText text then
        return some (.named ⟨cursor.location, ← location⟩ negated kind)
      else return none
  | _ => return none

/-- Reads one character or escape between brackets. -/
def setPrimitive (char : Char) : Reader Primitive := do
  if char = '\\' then escape
  else
    let span ← charSpan
    skip
    return .literal ⟨span, char, false⟩

/-- A primitive as the bound of a range. -/
def rangeBound : Primitive → Reader Literal
  | .literal inner => return inner
  | other => fail .classRangeLiteral other.span

/-- Reads a range or a single item. A hyphen makes a range of what stands around it, unless a
closing bracket or another hyphen follows. `opening` is the span of the open brackets. -/
def setItem (opening : Span) (char : Char) : Reader SetNode := do
  let first ← setPrimitive char
  skipBlanks
  let cursor ← get
  match cursor.rest with
  | [] => fail .classUnclosed opening
  | next :: _ =>
    if next != '-' || cursor.peekPastBlanks? == some ']' || cursor.peekPastBlanks? == some '-' then
      match first.toSetNode? with
      | some item => return item
      | none => fail .classEscapeInvalid first.span
    else
      advance
      match ← peek with
      | none => fail .classUnclosed opening
      | some char =>
        let last ← setPrimitive char
        let span : Span := ⟨first.span.start, last.span.stop⟩
        let first ← rangeBound first
        let last ← rangeBound last
        if first.char ≤ last.char then return .range span first last
        else fail .classRangeInvalid span

def operator? : Char → Option SetOperation
  | '&' => some .intersection
  | '-' => some .difference
  | '~' => some .symmetricDifference
  | _ => none

/-- Reads up to the bracket that closes the outermost one, with the innermost open brackets apart
from those around them. At most `steps` items are read. -/
def brackets (steps : Nat) (inner : OpenBrackets) (outer : List OpenBrackets) : Reader Node := do
  skipBlanks
  let cursor ← get
  match steps, cursor.rest with
  | 0, _ | _, [] => fail .classUnclosed inner.span
  | steps + 1, '[' :: _ =>
    match ← namedSet with
    | some item => brackets steps (inner.push item) outer
    | none => brackets steps (← openBrackets) (inner :: outer)
  | steps + 1, ']' :: _ =>
    skip
    let span : Span := ⟨inner.span.start, ← location⟩
    match outer with
    | [] => return .brackets span inner.negated inner.inner
    | around :: outer =>
      brackets steps (around.push (.brackets span inner.negated inner.inner)) outer
  | steps + 1, char :: _ =>
    match operator? char with
    | some kind =>
      if cursor.peek? = some char then
        skip
        skip
        brackets steps (inner.operate kind (← location)) outer
      else brackets steps (inner.push (← setItem inner.span char)) outer
    | none => brackets steps (inner.push (← setItem inner.span char)) outer

/-- Reads brackets. The cursor is at the opening one. -/
def bracketNode : Reader Node := do
  let steps := (← get).rest.length
  brackets steps (← openBrackets) []

end Reader

end PacketRefusal.Pattern
