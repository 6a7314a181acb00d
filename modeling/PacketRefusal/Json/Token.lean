/-!
# Tokens of a JSON text

`Token.scan?` cuts a JSON text into tokens, or finds that it cannot be cut. Numbers keep what tells
integers from other numbers. A string may hold escapes that name half of a surrogate pair and so no
character; such a string is a token without a decoded text, since it is an error only where its
text is wanted.
-/

set_option autoImplicit false
set_option relaxedAutoImplicit false

namespace PacketRefusal.Json

/-- A number as it was written: its sign, the value of its integer part, and whether a fraction or
an exponent follows. -/
structure Number where
  negative : Bool
  magnitude : Nat
  integral : Bool
  deriving DecidableEq

/-- The integer that a number stands for, if it is written as one. Minus zero is no integer. -/
def Number.integer? (number : Number) : Option Int :=
  if !number.integral || (number.negative && number.magnitude == 0) then none
  else if number.negative then some (-(number.magnitude : Int))
  else some number.magnitude

inductive Token
  | openBrace
  | closeBrace
  | openBracket
  | closeBracket
  | comma
  | colon
  | null
  | bool (value : Bool)
  | number (value : Number)
  | text (value : Option String)
  deriving DecidableEq

/-! ### Strings -/

/-- A part of a string: a character, or a 16-bit unit given by number. -/
inductive Piece
  | char (value : Char)
  | unit (value : Nat)
  deriving DecidableEq

def hexDigit? (char : Char) : Option Nat :=
  if char.isDigit then some (char.toNat - '0'.toNat)
  else if 'a' ≤ char ∧ char ≤ 'f' then some (char.toNat - 'a'.toNat + 10)
  else if 'A' ≤ char ∧ char ≤ 'F' then some (char.toNat - 'A'.toNat + 10)
  else none

/-- The 16-bit unit given by four hexadecimal digits. -/
def unit? (first second third fourth : Char) : Option Piece := do
  let first ← hexDigit? first
  let second ← hexDigit? second
  let third ← hexDigit? third
  let fourth ← hexDigit? fourth
  return .unit (4096 * first + 256 * second + 16 * third + fourth)

/-- The character of an escape of one letter. -/
def shortEscape? : Char → Option Char
  | '"' => some '"'
  | '\\' => some '\\'
  | '/' => some '/'
  | 'b' => some '\x08'
  | 'f' => some '\x0c'
  | 'n' => some '\n'
  | 'r' => some '\r'
  | 't' => some '\t'
  | _ => none

/-- The pieces of a string up to its closing quote, and what follows the quote. -/
def readPieces? : List Char → Option (List Piece × List Char)
  | [] => none
  | '"' :: rest => some ([], rest)
  | '\\' :: 'u' :: first :: second :: third :: fourth :: rest => do
    let unit ← unit? first second third fourth
    let (pieces, rest) ← readPieces? rest
    return (unit :: pieces, rest)
  | '\\' :: letter :: rest => do
    let char ← shortEscape? letter
    let (pieces, rest) ← readPieces? rest
    return (.char char :: pieces, rest)
  | char :: rest =>
    if char = '\\' ∨ char < ' ' then none
    else do
      let (pieces, rest) ← readPieces? rest
      return (.char char :: pieces, rest)

def isHighSurrogate (unit : Nat) : Bool := 0xD800 ≤ unit && unit ≤ 0xDBFF

def isLowSurrogate (unit : Nat) : Bool := 0xDC00 ≤ unit && unit ≤ 0xDFFF

/-- The characters that some pieces spell. Surrogates count only in pairs. -/
def decodePieces? : List Piece → Option (List Char)
  | [] => some []
  | .char char :: rest => (decodePieces? rest).map (char :: ·)
  | .unit high :: .unit low :: rest =>
    if isHighSurrogate high then
      if isLowSurrogate low then
        (decodePieces? rest).map
          (Char.ofNat (0x10000 + 0x400 * (high - 0xD800) + (low - 0xDC00)) :: ·)
      else none
    else if isLowSurrogate high then none
    else (decodePieces? (.unit low :: rest)).map (Char.ofNat high :: ·)
  | .unit unit :: rest =>
    if isHighSurrogate unit || isLowSurrogate unit then none
    else (decodePieces? rest).map (Char.ofNat unit :: ·)

/-! ### Numbers -/

def decimalValue (digits : List Char) : Nat :=
  digits.foldl (fun value digit ↦ 10 * value + (digit.toNat - '0'.toNat)) 0

/-- Drops at least one digit. -/
def dropDigits? (chars : List Char) : Option (List Char) :=
  match chars with
  | [] => none
  | first :: rest => if first.isDigit then some (rest.dropWhile Char.isDigit) else none

/-- Drops a fraction if there is one, and fails on a point without digits. -/
def dropFraction? : List Char → Option (List Char)
  | '.' :: rest => dropDigits? rest
  | chars => some chars

/-- Drops an exponent if there is one, and fails on an exponent without digits. -/
def dropExponent? : List Char → Option (List Char)
  | mark :: rest =>
    if mark = 'e' ∨ mark = 'E' then
      match rest with
      | sign :: digits => dropDigits? (if sign = '+' ∨ sign = '-' then digits else rest)
      | [] => none
    else some (mark :: rest)
  | [] => some []

/-- A number without its sign, and what follows it. The integer part has no superfluous zero. -/
def readMagnitude? (negative : Bool) (chars : List Char) : Option (Number × List Char) := do
  let digits := chars.takeWhile Char.isDigit
  let afterDigits := chars.dropWhile Char.isDigit
  if digits.isEmpty || (digits.head? == some '0' && digits.length != 1) then none
  else
    let afterFraction ← dropFraction? afterDigits
    let rest ← dropExponent? afterFraction
    return (⟨negative, decimalValue digits, rest.length == afterDigits.length⟩, rest)

/-! ### Tokens -/

/-- The characters that may stand between tokens. -/
def isBlank (char : Char) : Bool := char == ' ' || char == '\n' || char == '\t' || char == '\r'

/-- The token at the front of a text that does not start with a blank, and what follows it. -/
def readToken? : List Char → Option (Token × List Char)
  | '\x7b' :: rest => some (.openBrace, rest)
  | '\x7d' :: rest => some (.closeBrace, rest)
  | '[' :: rest => some (.openBracket, rest)
  | ']' :: rest => some (.closeBracket, rest)
  | ',' :: rest => some (.comma, rest)
  | ':' :: rest => some (.colon, rest)
  | 'n' :: 'u' :: 'l' :: 'l' :: rest => some (.null, rest)
  | 't' :: 'r' :: 'u' :: 'e' :: rest => some (.bool true, rest)
  | 'f' :: 'a' :: 'l' :: 's' :: 'e' :: rest => some (.bool false, rest)
  | '"' :: rest => do
    let (pieces, rest) ← readPieces? rest
    return (.text ((decodePieces? pieces).map String.ofList), rest)
  | '-' :: rest => do
    let (number, rest) ← readMagnitude? true rest
    return (.number number, rest)
  | chars => do
    let (number, rest) ← readMagnitude? false chars
    return (.number number, rest)

/-- The tokens of a text. Every token takes at least one character; the comparison of lengths only
makes that visible. -/
def scan? (chars : List Char) : Option (List Token) :=
  match chars with
  | [] => some []
  | char :: rest =>
    if isBlank char then scan? rest
    else
      match readToken? (char :: rest) with
      | none => none
      | some (token, after) =>
        if after.length ≤ rest.length then (scan? after).map (token :: ·) else none
termination_by chars.length
decreasing_by all_goals simp only [List.length_cons]; omega

end PacketRefusal.Json
