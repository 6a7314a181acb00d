/-!
# Locations in a pattern

A location in the text of a pattern is given by line and column, both counted from one, and a column
is one character wide. A span reaches from a location up to another one.
-/

set_option autoImplicit false
set_option relaxedAutoImplicit false

namespace PacketRefusal.Pattern

/-- A place in the text of a pattern. -/
structure Location where
  line : Nat
  column : Nat
  deriving DecidableEq

namespace Location

def initial : Location := ⟨1, 1⟩

/-- The location behind a character. -/
def after (location : Location) (char : Char) : Location :=
  if char = '\n' then ⟨location.line + 1, 1⟩ else ⟨location.line, location.column + 1⟩

def precedes (location other : Location) : Bool :=
  location.line < other.line || (location.line == other.line && location.column < other.column)

end Location

/-- A part of the text of a pattern, from a location up to another one. -/
structure Span where
  start : Location
  stop : Location
  deriving DecidableEq

namespace Span

/-- The empty span at a location. -/
def point (location : Location) : Span := ⟨location, location⟩

/-- Whether a span lies within one line. -/
def isOnOneLine (span : Span) : Bool := span.start.line == span.stop.line

def width (span : Span) : Nat := span.stop.column - span.start.column

end Span

end PacketRefusal.Pattern
