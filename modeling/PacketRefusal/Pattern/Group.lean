import PacketRefusal.Pattern.Cursor
import PacketRefusal.Pattern.Tree
import PacketRefusal.Text.Alphanumeric

/-!
# What opens a group

Behind an opening parenthesis a question mark can introduce a name or flags. Flags that are closed
at once are no group: they hold up to the end of the group around them. The names of groups have to
differ, but for nothing else they are of use here.
-/

set_option autoImplicit false
set_option relaxedAutoImplicit false

namespace PacketRefusal.Pattern

/-- The names of groups, each with its span. -/
abbrev GroupNames := List (List Char × Span)

/-- What an opening parenthesis starts. -/
inductive Opening
  | group (span : Span) (kind : GroupKind)
  | flags (span : Span) (changes : FlagChanges)
  deriving DecidableEq

def flag? : Char → Option Flag
  | 'i' => some .ignoreCase
  | 'm' => some .multiLine
  | 's' => some .dotMatchesNewline
  | 'U' => some .swapGreed
  | 'u' => some .unicode
  | 'R' => some .carriageReturns
  | 'x' => some .skipBlanks
  | _ => none

/-- A character that may stand in the name of a group, or start it. -/
def isNameChar (starts : Bool) (char : Char) : Bool :=
  char == '_' ||
    if starts then Text.isAlphabetic char
    else char == '.' || char == '[' || char == ']' || Text.isAlphanumeric char

/-- Flags that were read: the changes in reverse order, the span of each, and the span of the hyphen
behind which they are switched off. -/
structure ReadFlags where
  changes : FlagChanges := []
  spans : List (Flag × Span) := []
  negation : Option Span := none
  dangling : Bool := false

namespace Reader

def oneFlag (read : ReadFlags) (char : Char) : Reader ReadFlags := do
  let span ← charSpan
  if char = '-' then
    match read.negation with
    | some earlier => throw { cause := .flagRepeatedNegation, span, earlier := some earlier }
    | none => return { read with negation := some span, dangling := true }
  else
    match flag? char with
    | none => fail .flagUnrecognized span
    | some flag =>
      match read.spans.lookup flag with
      | some earlier => throw { cause := .flagDuplicate, span, earlier := some earlier }
      | none =>
        return { read with
          changes := (flag, read.negation.isNone) :: read.changes
          spans := (flag, span) :: read.spans
          dangling := false }

/-- Reads flags up to the colon or parenthesis behind them. At most `steps` characters are read. -/
def flags : Nat → ReadFlags → Reader ReadFlags
  | 0, read => return read
  | steps + 1, read => do
    match ← peek with
    | none => failHere .flagUnexpectedEnd
    | some char =>
      if char = ':' ∨ char = ')' then
        match read.dangling, read.negation with
        | true, some span => fail .flagDanglingNegation span
        | _, _ => return read
      else
        let read ← oneFlag read char
        skip
        flags steps read

/-- Reads flags and what they are for, behind the question mark at `mark`. -/
def flagsOpening (opening : Span) (mark : Location) : Reader Opening := do
  if (← peek).isNone then fail .groupUnclosed opening
  else
    let read ← flags ((← get).rest.length + 1) {}
    let closed := (← peek) == some ')'
    skip
    let changes := read.changes.reverse
    if !closed then return .group opening (.switching changes)
    else if changes.isEmpty then fail .repetitionMissing (.point mark)
    else return .flags ⟨opening.start, ← location⟩ changes

def groupName (names : GroupNames) : Reader GroupNames := do
  let start ← location
  if (← peek).isNone then failHere .groupNameUnexpectedEnd
  else
    let first ← peek
    if first.any fun char ↦ char != '>' && !isNameChar true char then failChar .groupNameInvalid
    else
      let name ← takeWhile fun char ↦ char != '>' && isNameChar false char
      match ← peek with
      | none => failHere .groupNameUnexpectedEnd
      | some char =>
        if char != '>' then failChar .groupNameInvalid
        else
          let span : Span := ⟨start, ← location⟩
          skip
          if name.isEmpty then fail .groupNameEmpty (.point start)
          else
            match names.lookup name with
            | some earlier => throw { cause := .groupNameDuplicate, span, earlier := some earlier }
            | none => return (name, span) :: names

/-- Whether what stands at the cursor, behind a parenthesis, would look around. It is passed
over. -/
def lookAround : Reader Bool := do
  return (← skipText "?=") || (← skipText "?!") || (← skipText "?<=") || (← skipText "?<!")

/-- Reads what opens a group. The cursor is at the parenthesis. -/
def opening (names : GroupNames) : Reader (Opening × GroupNames) := do
  let span ← charSpan
  advance
  let mark ← location
  if ← lookAround then failSince .lookAround span.start
  else if (← skipText "?P<") || (← skipText "?<") then
    return (.group span .capturing, ← groupName names)
  else if ← skipText "?" then return (← flagsOpening span mark, names)
  else return (.group span .capturing, names)

end Reader

end PacketRefusal.Pattern
