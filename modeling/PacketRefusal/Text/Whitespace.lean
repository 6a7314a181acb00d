import PacketRefusal.Text.CodeRange

/-!
# White space, and cutting text into pieces

`whitespaceRanges` is the Unicode property White_Space. `trimStart`, `trimEnd` and `trim` drop such
characters from the ends of a text, and `pieces` cuts a text at every occurrence of one character.
-/

set_option autoImplicit false
set_option relaxedAutoImplicit false

namespace PacketRefusal.Text

/-- The code points of white space, in increasing order. -/
def whitespaceRanges : List CodeRange :=
  [(0x9, 0xD), (0x20, 0x20), (0x85, 0x85), (0xA0, 0xA0), (0x1680, 0x1680), (0x2000, 0x200A),
    (0x2028, 0x2029), (0x202F, 0x202F), (0x205F, 0x205F), (0x3000, 0x3000)]

def isWhitespace (char : Char) : Bool := CodeRange.contains whitespaceRanges char

def trimStart (chars : List Char) : List Char := chars.dropWhile isWhitespace

def trimEnd (chars : List Char) : List Char := (trimStart chars.reverse).reverse

def trim (chars : List Char) : List Char := trimEnd (trimStart chars)

/-- The parts of a text between the occurrences of a separator, one more than there are
separators. -/
def pieces (separator : Char) : List Char → List (List Char)
  | [] => [[]]
  | char :: rest =>
    if char = separator then [] :: pieces separator rest
    else
      match pieces separator rest with
      | [] => [[char]]
      | first :: more => (char :: first) :: more

end PacketRefusal.Text
