import PacketRefusal.Configuration.Variables
import PacketRefusal.Text.Alphanumeric
import PacketRefusal.Text.Whitespace

/-!
# Variables from a file

A file of lines `name=value` can set variables that the environment does not set. Lines are taken in
order up to the first one that cannot be read; what was set before stays set. No system takes a
value with a null character in it, and trying to set one breaks off the whole program.

A line may be empty or a comment, and `export` may stand before the name. The value may be quoted in
whole or in part. Between single quotes every character stands for itself. Elsewhere a backslash
protects the character behind it, and a dollar sign puts in the value of a variable, whose name
follows in letters and digits or between braces. A blank outside quotes ends the value, and only a
comment may follow it. `Mode` is where in a value the reader is.
-/

set_option autoImplicit false
set_option relaxedAutoImplicit false

namespace PacketRefusal.EnvironmentFile

open Text

/-! ### Values -/

/-- Where in a value a reader is. -/
inductive Mode
  /-- Outside of the other modes, between double quotes or not. -/
  | plain
  /-- Behind a backslash. -/
  | escape
  /-- Between single quotes. -/
  | literal
  /-- In the name of a variable behind a dollar sign. -/
  | name (read : List Char)
  /-- In the name of a variable between braces. -/
  | bracedName (read : List Char)
  /-- Behind the end of the value. -/
  | ended
  deriving DecidableEq

/-- The character that a backslash and a character stand for. -/
def escaped? : Char → Option Char
  | 'n' => some '\n'
  | char => if char ∈ ['\\', '\'', '"', '$', ' '] then some char else none

/-- The characters of a variable's value, none if it is not set. -/
def substituted (environment : Variables) (name : List Char) : List Char :=
  ((environment (String.ofList name)).getD "").toList

/-- Reads the rest of a value. Between double quotes `quoted` is true. A value cannot be read when a
quote or a brace stays open, a protected character has no meaning, or something follows the end. -/
def readValue? (environment : Variables) (quoted : Bool) (mode : Mode) :
    List Char → Option (List Char)
  | [] =>
    match mode with
    | .plain | .escape => if quoted then none else some []
    | .name read => if quoted then none else some (substituted environment read)
    | .ended => some []
    | .literal | .bracedName _ => none
  | char :: rest =>
    match mode with
    | .ended =>
      if char = ' ' ∨ char = '\t' then readValue? environment quoted .ended rest
      else if char = '#' then some []
      else none
    | .escape => do
      let meant ← escaped? char
      let value ← readValue? environment quoted .plain rest
      return meant :: value
    | .literal =>
      if char = '\'' then readValue? environment quoted .plain rest
      else (readValue? environment quoted .literal rest).map (char :: ·)
    | .name read =>
      if isAlphanumeric char then readValue? environment quoted (.name (read ++ [char])) rest
      else if char = '\x7b' ∧ read = [] then readValue? environment quoted (.bracedName []) rest
      else if char = '$' then
        (readValue? environment quoted (.name []) rest).map (substituted environment read ++ ·)
      else
        (readValue? environment quoted .plain rest).map (substituted environment read ++ char :: ·)
    | .bracedName read =>
      if char = '\x7d' then
        (readValue? environment quoted .plain rest).map (substituted environment read ++ ·)
      else readValue? environment quoted (.bracedName (read ++ [char])) rest
    | .plain =>
      if char = '$' then readValue? environment quoted (.name []) rest
      else if char = '"' then readValue? environment (!quoted) .plain rest
      else if char = '\\' then readValue? environment quoted .escape rest
      else if !quoted && char == '\'' then readValue? environment quoted .literal rest
      else if !quoted && (char == ' ' || char == '\t') then
        readValue? environment quoted .ended rest
      else (readValue? environment quoted .plain rest).map (char :: ·)

/-! ### Lines -/

/-- What a line says. -/
inductive Line
  | nothing
  | setting (name value : String)
  deriving DecidableEq

def startsName (char : Char) : Bool := char.isAlpha || char == '_'

def continuesName (char : Char) : Bool := char.isAlphanum || char == '_' || char == '.'

/-- The name at the front of some characters, and what follows it and the blanks behind it. -/
def readName? (chars : List Char) : Option (List Char × List Char) :=
  if (chars.head?.map startsName).getD false then
    some (chars.takeWhile continuesName, trimStart (chars.dropWhile continuesName))
  else none

/-- What follows an equals sign and the blanks behind it. -/
def afterEquals? : List Char → Option (List Char)
  | '=' :: rest => some (trimStart rest)
  | _ => none

/-- The name that a line sets and the characters of its value. The word `export` before the name is
passed over, unless it is the name. -/
def readSetting? (chars : List Char) : Option (List Char × List Char) := do
  let (name, rest) ← readName? chars
  match afterEquals? rest with
  | some value => return (name, value)
  | none =>
    if name = "export".toList then
      let (name, rest) ← readName? rest
      let value ← afterEquals? rest
      return (name, value)
    else none

/-- Nothing but perhaps a comment. -/
def isBare (chars : List Char) : Bool := chars.head?.all (· == '#')

/-- What a line says, or nothing if it cannot be read. -/
def Line.parse? (environment : Variables) (line : List Char) : Option Line := do
  let chars := trimStart (trimEnd line)
  if isBare chars then return .nothing
  else
    let (name, value) ← readSetting? chars
    let value ← if isBare value then some [] else readValue? environment false .plain value
    return .setting (String.ofList name) (String.ofList value)

/-! ### Files -/

/-- Sets a variable unless it is set, and fails if its value has a null character in it. -/
def define? (environment : Variables) (name value : String) : Option Variables :=
  match environment name with
  | some _ => some environment
  | none =>
    if '\x00' ∈ value.toList then none
    else some fun asked ↦ if asked = name then some value else environment asked

/-- Adds the settings of some lines up to the first that cannot be read. -/
def addLines? (environment : Variables) : List (List Char) → Option Variables
  | [] => some environment
  | line :: rest =>
    match Line.parse? environment line with
    | none => some environment
    | some .nothing => addLines? environment rest
    | some (.setting name value) => do
      let environment ← define? environment name value
      addLines? environment rest

/-- The variables of the environment with those of a file added, unless that fails. -/
def load? (environment : Variables) (file : String) : Option Variables :=
  addLines? environment (pieces '\n' file.toList)

end PacketRefusal.EnvironmentFile
