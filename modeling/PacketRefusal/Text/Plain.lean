/-!
# Text without control sequences

Text that is written to something other than a terminal should not steer a terminal that shows it
later. `plain` drops the control characters of a text, and with them the control sequences that an
escape character starts; blanks and line ends stay. `Position` is where in a control sequence a
reader is.

Sequences have four shapes. Most end with their final character. A sequence with parameters, which
a bracket opens, ends with the first character that is no parameter. A command to the operating
system runs up to the bell. Other strings run up to a terminator, which is a single octet; in text
it only occurs as a part of a longer character. An escape character starts a new sequence wherever
it stands, and two control characters cancel one.

A line end or another layout character inside a sequence only interrupts it: what follows is kept,
up to a control character, behind which the interrupted sequence goes on. A character outside ASCII
ends the interruption and the sequence.
-/

set_option autoImplicit false
set_option relaxedAutoImplicit false

namespace PacketRefusal.Text

/-- Where in a control sequence a reader is. -/
inductive Position
  /-- Outside. -/
  | ground
  /-- Behind the escape character. -/
  | escape
  /-- Behind the escape character and intermediate characters. -/
  | intermediate
  /-- In a sequence with parameters. -/
  | parameters
  /-- In a command to the operating system. -/
  | command
  /-- Before the parameters of a string. -/
  | header
  /-- In the parameters of a string. -/
  | headerParameters
  /-- Behind intermediate characters that follow the parameters of a string. -/
  | headerEnd
  /-- In a string. -/
  | string
  deriving DecidableEq

/-- Control characters that move to another place of the text and are kept. -/
def isLayout (char : Char) : Bool :=
  char == '\t' || char == '\n' || char == '\x0c' || char == '\r'

/-- Whether a character is kept outside of sequences. -/
def isKept (char : Char) : Bool := isLayout char || (' ' ≤ char && char != '\x7f')

/-- Whether the encoding of a character contains the octet that terminates a string. -/
def hasTerminator (char : Char) : Bool := (String.utf8EncodeChar char).contains 0x9c

namespace Position

/-- Whether a character is kept. Inside a sequence only layout is, and inside strings nothing is. -/
def keeps (position : Position) (char : Char) : Bool :=
  match position with
  | ground => isKept char
  | escape | intermediate | parameters => isLayout char
  | command | header | headerParameters | headerEnd | string => false

/-- The position behind a character that is dropped. -/
def next (position : Position) (char : Char) : Position :=
  if char = '\x1b' then escape
  else if char = '\x18' ∨ char = '\x1a' then ground
  else
    match position with
    | ground => ground
    | escape =>
      if ' ' ≤ char ∧ char ≤ '/' then intermediate
      else if char = '[' then parameters
      else if char = ']' then command
      else if char = 'P' then header
      else if char = 'X' ∨ char = '^' ∨ char = '_' then string
      else if '0' ≤ char ∧ char ≤ '~' then ground
      else escape
    | intermediate => if '0' ≤ char ∧ char ≤ '~' then ground else intermediate
    | parameters => if '@' ≤ char ∧ char ≤ '~' then ground else parameters
    | command => if char = '\x07' then ground else command
    | header =>
      if ' ' ≤ char ∧ char ≤ '/' then headerEnd
      else if '0' ≤ char ∧ char ≤ '?' then headerParameters
      else if '@' ≤ char ∧ char ≤ '~' then string
      else header
    | headerParameters =>
      if ' ' ≤ char ∧ char ≤ '/' then headerEnd
      else if '<' ≤ char ∧ char ≤ '~' then string
      else headerParameters
    | headerEnd => if '0' ≤ char ∧ char ≤ '~' then string else headerEnd
    | string => if hasTerminator char then ground else string

end Position

/-- The characters of a text that are kept, read from a position on. While `keeping`, characters are
kept as outside of sequences, and the position is that of the interrupted sequence. -/
def keptFrom (keeping : Bool) (position : Position) : List Char → List Char
  | [] => []
  | char :: rest =>
    if (keeping && isKept char) || position.keeps char then
      char :: keptFrom true (if char.toNat < 128 then position else .ground) rest
    else keptFrom false (position.next char) rest

/-- A text without control characters and control sequences. -/
def plain (text : String) : String := String.ofList (keptFrom false .ground text.toList)

end PacketRefusal.Text
