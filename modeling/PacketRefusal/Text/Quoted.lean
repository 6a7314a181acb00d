import PacketRefusal.Text.Unprintable

/-!
# Quoted text

`quoted` writes a text between double quotes so that it stays on one line and every character can
be told apart: a few characters have a short escape, and a character without a picture of its own
is written by its number in hexadecimal.
-/

set_option autoImplicit false
set_option relaxedAutoImplicit false

namespace PacketRefusal.Text

/-- A character by its number. -/
def numberEscape (char : Char) : List Char :=
  ['\\', 'u', '\x7b'] ++ Nat.toDigits 16 char.toNat ++ ['\x7d']

/-- A character as it stands in quoted text. -/
def escapedChar (char : Char) : List Char :=
  match char with
  | '\x00' => ['\\', '0']
  | '\t' => ['\\', 't']
  | '\r' => ['\\', 'r']
  | '\n' => ['\\', 'n']
  | '"' => ['\\', '"']
  | '\\' => ['\\', '\\']
  | _ => if isUnprintable char then numberEscape char else [char]

/-- A text between double quotes, with escapes where they are needed. -/
def quoted (text : String) : String :=
  String.ofList (['"'] ++ text.toList.flatMap escapedChar ++ ['"'])

end PacketRefusal.Text
