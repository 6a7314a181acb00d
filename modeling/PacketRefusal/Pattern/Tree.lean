import PacketRefusal.Pattern.Location

/-!
# Patterns as trees

A pattern as it is written. Every node carries the span of the pattern that it stands for, so that a
fault that shows only in its meaning can still be located.

`SetNode` is what stands between brackets: characters and ranges, named sets, nested brackets, and
operations on these. `Node` is the rest of a pattern.
-/

set_option autoImplicit false
set_option relaxedAutoImplicit false

namespace PacketRefusal.Pattern

/-- What a flag switches. -/
inductive Flag
  | ignoreCase
  | multiLine
  | dotMatchesNewline
  | swapGreed
  | unicode
  | carriageReturns
  | skipBlanks
  deriving DecidableEq

/-- The flags that are switched at one place, and whether they are switched on. -/
abbrev FlagChanges := List (Flag × Bool)

/-- A condition on a place of a text. -/
inductive Assertion
  | lineStart
  | lineEnd
  | textStart
  | textEnd
  | wordBoundary
  | noWordBoundary
  | wordStart
  | wordEnd
  | wordStartHalf
  | wordEndHalf
  deriving DecidableEq

/-- A character that stands for itself, or was given by its number. Two hexadecimal digits can also
be meant as an octet. -/
structure Literal where
  span : Span
  char : Char
  isOctet : Bool := false
  deriving DecidableEq

/-- A set of characters that a letter behind a backslash stands for. -/
inductive Shorthand
  | digit
  | blank
  | word
  deriving DecidableEq

inductive NamedSet
  | alphanumeric
  | alphabetic
  | ascii
  | blank
  | control
  | digit
  | graphic
  | lower
  | printable
  | punctuation
  | space
  | upper
  | word
  | hexadecimal
  deriving DecidableEq

inductive SetOperation
  | intersection
  | difference
  | symmetricDifference
  deriving DecidableEq

/-- What stands between brackets. -/
inductive SetNode
  | empty (span : Span)
  | literal (literal : Literal)
  | range (span : Span) (first last : Literal)
  | named (span : Span) (negated : Bool) (kind : NamedSet)
  | property (span : Span) (negated : Bool) (name : List Char)
  | shorthand (span : Span) (negated : Bool) (kind : Shorthand)
  | brackets (span : Span) (negated : Bool) (inner : SetNode)
  | union (span : Span) (items : List SetNode)
  | operation (span : Span) (kind : SetOperation) (left right : SetNode)

def SetNode.span : SetNode → Span
  | literal inner => inner.span
  | empty span | range span _ _ | named span _ _ | property span _ _ | shorthand span _ _
  | brackets span _ _ | union span _ | operation span _ _ _ => span

/-- What a group does besides holding its content together. -/
inductive GroupKind
  | capturing
  | switching (changes : FlagChanges)
  deriving DecidableEq

/-- A pattern or a part of one. -/
inductive Node
  | empty (span : Span)
  | flags (span : Span) (changes : FlagChanges)
  | literal (literal : Literal)
  | dot (span : Span)
  | assertion (span : Span) (kind : Assertion)
  | property (span : Span) (negated : Bool) (name : List Char)
  | shorthand (span : Span) (negated : Bool) (kind : Shorthand)
  | brackets (span : Span) (negated : Bool) (inner : SetNode)
  | repetition (span : Span) (least : Nat) (most : Option Nat) (inner : Node)
  | group (span : Span) (kind : GroupKind) (inner : Node)
  | sequence (span : Span) (parts : List Node)
  | alternatives (span : Span) (branches : List Node)

def Node.span : Node → Span
  | literal inner => inner.span
  | empty span | flags span _ | dot span | assertion span _ | property span _ _
  | shorthand span _ _ | brackets span _ _ | repetition span _ _ _ | group span _ _
  | sequence span _ | alternatives span _ => span

end PacketRefusal.Pattern
