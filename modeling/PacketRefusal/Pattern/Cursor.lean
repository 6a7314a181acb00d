import PacketRefusal.Pattern.Fault
import PacketRefusal.Text.Whitespace

/-!
# Reading through a pattern

A cursor is a location in a pattern together with what stands from there on. A flag can make the
reader pass over blanks and comments; the cursor knows whether it is on. A `Reader` moves a cursor
and yields a result or a fault.
-/

set_option autoImplicit false
set_option relaxedAutoImplicit false

namespace PacketRefusal.Pattern

/-- A location in a pattern, what is left from there, and whether blanks are passed over. -/
structure Cursor where
  location : Location
  rest : List Char
  skipsBlanks : Bool := false
  deriving DecidableEq

/-- A step through a pattern. -/
abbrev Reader := EStateM Fault Cursor

namespace Cursor

def ofText (text : String) : Cursor := { location := .initial, rest := text.toList }

def next (cursor : Cursor) : Cursor :=
  match cursor.rest with
  | [] => cursor
  | char :: rest => { cursor with location := cursor.location.after char, rest }

/-- The location and the rest behind blanks and comments. A comment ends with its line. -/
def pastBlanks (inComment : Bool) (location : Location) : List Char → Location × List Char
  | [] => (location, [])
  | char :: rest =>
    if inComment then pastBlanks (char != '\n') (location.after char) rest
    else if Text.isWhitespace char then pastBlanks false (location.after char) rest
    else if char = '#' then pastBlanks true (location.after char) rest
    else (location, char :: rest)

def skipBlanks (cursor : Cursor) : Cursor :=
  if cursor.skipsBlanks then
    let (location, rest) := pastBlanks false cursor.location cursor.rest
    { cursor with location, rest }
  else cursor

/-- The cursor at the character behind the next one, blanks passed over. -/
def advance (cursor : Cursor) : Cursor := cursor.next.skipBlanks

/-- The characters up to the first that a test refuses, where `step` leads from each to the next
one, and the cursor there. At most `count` characters are read, behind those `read` before in
reverse order. -/
def collect (accepts : Char → Bool) (step : Cursor → Cursor) (read : List Char) :
    Nat → Cursor → List Char × Cursor
  | 0, cursor => (read.reverse, cursor)
  | count + 1, cursor =>
    match cursor.rest with
    | [] => (read.reverse, cursor)
    | char :: _ =>
      if accepts char then collect accepts step (char :: read) count (step cursor)
      else (read.reverse, cursor)

/-- The character behind the next one. -/
def peek? (cursor : Cursor) : Option Char := cursor.rest.tail.head?

/-- The character behind the next one, where blanks are passed over if there is anything else, and a
number sign between blanks too. -/
def peekPastBlanks? (cursor : Cursor) : Option Char :=
  let following := cursor.rest.tail
  if cursor.skipsBlanks then
    let remaining :=
      match Text.trimStart following with
      | '#' :: comment => Text.trimStart comment
      | chars => chars
    remaining.head?.or following.head?
  else following.head?

end Cursor

namespace Reader

def location : Reader Location := return (← get).location

/-- The next character, if the pattern does not end. -/
def peek : Reader (Option Char) := return (← get).rest.head?

def skip : Reader Unit := modify Cursor.next

/-- Passes over the next character and the blanks behind it. -/
def advance : Reader Unit := modify Cursor.advance

/-- Passes over blanks. -/
def skipBlanks : Reader Unit := modify Cursor.skipBlanks

def fail {result : Type} (cause : Cause) (span : Span) : Reader result := throw { cause, span }

/-- Reports a fault from a location up to the cursor. -/
def failSince {result : Type} (cause : Cause) (start : Location) : Reader result := do
  fail cause ⟨start, ← location⟩

/-- Reports a fault at the cursor, without a character to blame. -/
def failHere {result : Type} (cause : Cause) : Reader result := do
  fail cause (.point (← location))

def charSpan : Reader Span := do
  let cursor ← get
  return ⟨cursor.location, cursor.next.location⟩

def failChar {result : Type} (cause : Cause) : Reader result := do
  fail cause (← charSpan)

/-- Passes over a text if it stands at the cursor. -/
def skipText (text : String) : Reader Bool := do
  let cursor ← get
  if text.toList.isPrefixOf cursor.rest then
    set (text.toList.foldl (fun cursor _ ↦ cursor.next) cursor)
    return true
  else return false

/-- Reads characters up to the first that a test refuses. -/
def takeWhile (accepts : Char → Bool) : Reader (List Char) := do
  let (chars, cursor) := (← get).collect accepts Cursor.next [] (← get).rest.length
  set cursor
  return chars

/-- Reads characters up to the first that a test refuses, and passes over the blanks behind each. -/
def takeWhileSpaced (accepts : Char → Bool) : Reader (List Char) := do
  let (chars, cursor) := (← get).collect accepts Cursor.advance [] (← get).rest.length
  set cursor
  return chars

end Reader

end PacketRefusal.Pattern
