/-!
# Decimal numerals with a limited range

Numbers in the configuration are written in decimal digits, with an optional sign. A numeral is
read from left to right and the first thing that is wrong decides the error: a character that is no
digit, or a digit at which the value leaves its range. Leading zeros are allowed, a sign without
digits is not.
-/

set_option autoImplicit false
set_option relaxedAutoImplicit false

namespace PacketRefusal.Numeral

/-- Why a text is no numeral of the wanted range. -/
inductive Error
  | empty
  | invalidDigit
  | tooLarge
  | tooSmall
  deriving DecidableEq

def Error.message : Error → String
  | empty => "cannot parse integer from empty string"
  | invalidDigit => "invalid digit found in string"
  | tooLarge => "number too large to fit in target type"
  | tooSmall => "number too small to fit in target type"

def digit? (char : Char) : Option Nat :=
  if char.isDigit then some (char.toNat - '0'.toNat) else none

/-- Appends digits to a value that must not exceed a bound. -/
def extend (bound : Nat) (excess : Error) (value : Nat) : List Char → Except Error Nat
  | [] => .ok value
  | char :: rest =>
    match digit? char with
    | none => .error .invalidDigit
    | some digit =>
      if bound < 10 * value + digit then .error excess
      else extend bound excess (10 * value + digit) rest

/-- A number without a negative sign, up to a bound. -/
def unsigned (bound : Nat) : List Char → Except Error Nat
  | [] => .error .empty
  | ['+'] => .error .invalidDigit
  | '+' :: digits => extend bound .tooLarge 0 digits
  | digits => extend bound .tooLarge 0 digits

/-- A number with either sign, from minus `lower` to `upper`. -/
def signed (lower upper : Nat) : List Char → Except Error Int
  | ['-'] => .error .invalidDigit
  | '-' :: digits => (extend lower .tooSmall 0 digits).map fun magnitude ↦ -(magnitude : Int)
  | digits => (unsigned upper digits).map fun magnitude ↦ (magnitude : Int)

end PacketRefusal.Numeral
