import PacketRefusal.Pattern.Cursor
import PacketRefusal.Pattern.Tree

/-!
# Backslashes in patterns

A backslash takes the meaning of a punctuation character away, gives a meaning to a letter, or
introduces a number. What it stands for is a `Primitive`, which is the same between brackets and
outside, although not everything is admitted there.
-/

set_option autoImplicit false
set_option relaxedAutoImplicit false

namespace PacketRefusal.Pattern

/-- What one character or one escape stands for. -/
inductive Primitive
  | literal (literal : Literal)
  | assertion (span : Span) (kind : Assertion)
  | property (span : Span) (negated : Bool) (name : List Char)
  | shorthand (span : Span) (negated : Bool) (kind : Shorthand)
  deriving DecidableEq

namespace Primitive

def span : Primitive → Span
  | literal inner => inner.span
  | assertion span _ | property span _ _ | shorthand span _ _ => span

/-- A primitive outside of brackets. -/
def toNode : Primitive → Node
  | literal inner => .literal inner
  | assertion span kind => .assertion span kind
  | property span negated name => .property span negated name
  | shorthand span negated kind => .shorthand span negated kind

/-- A primitive between brackets, where assertions have no place. -/
def toSetNode? : Primitive → Option SetNode
  | literal inner => some (.literal inner)
  | assertion _ _ => none
  | property span negated name => some (.property span negated name)
  | shorthand span negated kind => some (.shorthand span negated kind)

end Primitive

/-! ### Numbers -/

def hexValue? (char : Char) : Option Nat :=
  if char.isDigit then some (char.toNat - '0'.toNat)
  else if 'a' ≤ char ∧ char ≤ 'f' then some (char.toNat - 'a'.toNat + 10)
  else if 'A' ≤ char ∧ char ≤ 'F' then some (char.toNat - 'A'.toNat + 10)
  else none

/-- The character whose number some hexadecimal digits give. -/
def charOfHex? (digits : List Char) : Option Char :=
  let number := digits.foldl (fun number digit ↦ 16 * number + (hexValue? digit).getD 0) 0
  if number.isValidChar then some (Char.ofNat number) else none

namespace Reader

def hexDigits : Nat → Reader (List Char)
  | 0 => return []
  | count + 1 => do
    match ← peek with
    | none => failHere .escapeUnexpectedEnd
    | some char =>
      if (hexValue? char).isNone then failChar .hexInvalidDigit
      else
        advance
        return char :: (← hexDigits count)

/-- Reads a character that is given by a fixed count of digits. -/
def fixedHex (start : Location) (count : Nat) : Reader Literal := do
  let digitsStart ← location
  let digits ← hexDigits count
  match charOfHex? digits with
  | some char => return ⟨⟨start, ← location⟩, char, count == 2⟩
  | none => failSince .hexInvalid digitsStart

/-- Reads a character that is given by digits between braces. The cursor is at the opening brace. -/
def bracedHex (start : Location) : Reader Literal := do
  let brace ← charSpan
  advance
  let digits ← takeWhileSpaced fun char ↦ (hexValue? char).isSome
  match ← peek with
  | none => failSince .escapeUnexpectedEnd brace.start
  | some '\x7d' =>
    let stop ← location
    advance
    if digits.isEmpty then failSince .hexEmpty brace.start
    else
      match charOfHex? digits with
      | some char => return ⟨⟨start, ← location⟩, char, false⟩
      | none => fail .hexInvalid ⟨brace.stop, stop⟩
  | some _ => failChar .hexInvalidDigit

/-- Reads a character that is given by its number, behind the letter that says so. -/
def hex (start : Location) (count : Nat) : Reader Literal := do
  advance
  match ← peek with
  | none => failHere .escapeUnexpectedEnd
  | some '\x7b' => bracedHex start
  | some _ => fixedHex start count

/-! ### Sets and conditions -/

/-- Reads the name of a property, which is one character or stands between braces. -/
def property (start : Location) (negated : Bool) : Reader Primitive := do
  advance
  match ← peek with
  | none => failHere .escapeUnexpectedEnd
  | some '\x7b' =>
    advance
    let name ← takeWhileSpaced (· != '\x7d')
    if (← peek).isNone then failHere .escapeUnexpectedEnd
    else
      skip
      return .property ⟨start, ← location⟩ negated name
  | some '\\' => failChar .propertyInvalid
  | some char =>
    advance
    return .property ⟨start, ← location⟩ negated [char]

/-- A character of the name of a special word boundary. -/
def isBoundaryLetter (char : Char) : Bool := char.isAlpha || char == '-'

/-- The special word boundaries. -/
def boundary? (name : List Char) : Option Assertion :=
  [("start", .wordStart), ("end", .wordEnd), ("start-half", .wordStartHalf),
    ("end-half", .wordEndHalf)].lookup (String.ofList name)

/-- Reads the rest of a word boundary. A brace behind it may hold the name of a special one; if it
starts otherwise, it is left to be read as a count. -/
def wordBoundary (start : Location) : Reader Assertion := do
  let before ← get
  if (← peek) ≠ some '\x7b' then return .wordBoundary
  else
    advance
    match ← peek with
    | none => failSince .boundaryUnexpectedEnd start
    | some char =>
      if isBoundaryLetter char then
        let nameStart ← location
        let name ← takeWhileSpaced isBoundaryLetter
        if (← peek) ≠ some '\x7d' then failSince .boundaryUnclosed before.location
        else
          let nameStop ← location
          skip
          match boundary? name with
          | some kind => return kind
          | none => fail .boundaryUnrecognized ⟨nameStart, nameStop⟩
      else
        set before
        return .wordBoundary

/-! ### Escapes -/

/-- The characters that have a meaning in patterns somewhere. -/
def isMeta (char : Char) : Bool := char ∈ "\\.+*?()|[]\x7b\x7d^$#&-~".toList

/-- The characters that a backslash leaves as they are: those of ASCII but letters and digits, and
two that are reserved. -/
def isEscapable (char : Char) : Bool :=
  isMeta char || (char.toNat < 128 && !char.isAlphanum && char != '<' && char != '>')

def control? : Char → Option Char
  | 'a' => some '\x07'
  | 'f' => some '\x0c'
  | 't' => some '\t'
  | 'n' => some '\n'
  | 'r' => some '\r'
  | 'v' => some '\x0b'
  | _ => none

def condition? : Char → Option Assertion
  | 'A' => some .textStart
  | 'z' => some .textEnd
  | 'B' => some .noWordBoundary
  | '<' => some .wordStart
  | '>' => some .wordEnd
  | _ => none

def shorthand? : Char → Option (Bool × Shorthand)
  | 'd' => some (false, .digit)
  | 'D' => some (true, .digit)
  | 's' => some (false, .blank)
  | 'S' => some (true, .blank)
  | 'w' => some (false, .word)
  | 'W' => some (true, .word)
  | _ => none

/-- Reads what a character behind a backslash stands for if that character is all there is. -/
def simpleEscape (start : Location) (char : Char) : Reader Primitive := do
  skip
  let span : Span := ⟨start, ← location⟩
  if isEscapable char then return .literal ⟨span, char, false⟩
  else if char = 'b' then
    let kind ← wordBoundary start
    return .assertion ⟨start, ← location⟩ kind
  else
    match control? char, condition? char, shorthand? char with
    | some meant, _, _ => return .literal ⟨span, meant, false⟩
    | _, some kind, _ => return .assertion span kind
    | _, _, some (negated, kind) => return .shorthand span negated kind
    | none, none, none => fail .escapeUnrecognized span

/-- Reads what a backslash introduces. The cursor is at the backslash. -/
def escape : Reader Primitive := do
  let start ← location
  skip
  match ← peek with
  | none => failSince .escapeUnexpectedEnd start
  | some 'x' => return .literal (← hex start 2)
  | some 'u' => return .literal (← hex start 4)
  | some 'U' => return .literal (← hex start 8)
  | some 'p' => property start false
  | some 'P' => property start true
  | some char =>
    if char.isDigit then fail .backreference ⟨start, (← charSpan).stop⟩
    else simpleEscape start char

end Reader

end PacketRefusal.Pattern
