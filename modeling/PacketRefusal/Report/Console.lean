/-!
# Reports on the console

Each report is one line of standard output: the word `BLOCK` and the reported fields. With colour
the word is red and the fields are white, and the colours are reset before the line ends. A colour
is selected by a control sequence of the terminal.
-/

set_option autoImplicit false
set_option relaxedAutoImplicit false

namespace PacketRefusal.Console

/-- The control sequence that selects how the following text is shown. -/
def selectRendition (parameters : String) : String := "\x1b[" ++ parameters ++ "m"

/-- Selects the colour of the following text by its index in the terminal's palette. -/
def selectColor (index : Nat) : String := selectRendition ("38;5;" ++ toString index)

def red : Nat := 9

def white : Nat := 15

def resetColors : String := selectRendition "0"

def line (color : Bool) (fields : String) : String :=
  if color then selectColor red ++ "BLOCK " ++ selectColor white ++ fields ++ resetColors ++ "\n"
  else "BLOCK " ++ fields ++ "\n"

/-- What a sequence of reports writes. -/
def output (color : Bool) (reports : List String) : String :=
  String.join (reports.map (line color))

end PacketRefusal.Console
