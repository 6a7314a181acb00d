/-!
# The command line

The program takes the words of a filter. The first argument alone decides how the command line is
read: it may ask for help or for the version, or be a double dash, behind which everything belongs
to the filter. Anything else is the first word of the filter, even if it starts with a dash, and so
are all arguments that follow it.
-/

set_option autoImplicit false
set_option relaxedAutoImplicit false

namespace PacketRefusal

/-- What a command line asks for. -/
inductive Invocation
  | help
  | version
  | filter (words : List String)
  | missingFilter
  | unexpectedValue (option value : String)
  deriving DecidableEq

namespace Invocation

/-- A word that consists of a dash and letters of options asks for what the first letter says. -/
def ofLetters? (letters : List Char) : Option Invocation :=
  if letters.all fun letter ↦ letter == 'h' || letter == 'V' then
    letters.head?.map fun letter ↦ if letter = 'h' then help else version
  else none

/-- What a word asks for that names an option in full, or names one and gives it a value. -/
def ofName? (name : List Char) : Option Invocation :=
  let (option, value) := name.span (· != '=')
  let asked :=
    if option = "help".toList then some help
    else if option = "version".toList then some version
    else none
  match value with
  | [] => asked
  | _ :: value =>
    asked.map fun _ ↦ unexpectedValue ("--" ++ String.ofList option) (String.ofList value)

/-- What the first argument asks for if it is no word of the filter. -/
def ofOption? (argument : String) : Option Invocation :=
  match argument.toList with
  | '-' :: '-' :: name => ofName? name
  | '-' :: letters => ofLetters? letters
  | _ => none

/-- What a filter of some words asks for: there must be at least one word. -/
def ofWords : List String → Invocation
  | [] => missingFilter
  | words => filter words

/-- What a command line asks for. -/
def ofArguments : List String → Invocation
  | [] => missingFilter
  | first :: rest =>
    if first = "--" then ofWords rest
    else (ofOption? first).getD (filter (first :: rest))

end Invocation

namespace CommandLine

/-! ### Answers

Answers stand here with the control sequences that a terminal would see. -/

/-- A text as a terminal is told to show it: behind the codes of its attributes, and before the code
that ends them. -/
def styled (codes : List String) (text : String) : String :=
  String.join (codes.map fun code ↦ "\x1b[" ++ code ++ "m") ++ text ++ "\x1b[0m"

def heading (text : String) : String := styled ["1", "4"] text

def literal (text : String) : String := styled ["1"] text

/-- How the program is called, perhaps with an option. -/
def usage (option : Option String) : String :=
  heading "Usage:" ++ " " ++ literal "divert-reject" ++
    (option.elim "" fun option ↦ " " ++ literal option) ++ " <FILTER>...\n"

def help : String :=
  "フィルタに一致したパケットを迂回し、TCP には RST、UDP には ICMP Port Unreachable を返す\n\n" ++
    usage none ++ "\n" ++ heading "Arguments:" ++
    "\n  <FILTER>...  迂回ドライバのフィルタ式 (引数は空白で連結される)\n\n" ++
    heading "Options:" ++
    "\n  " ++ literal "-h" ++ ", " ++ literal "--help" ++ "     Print help" ++
    "\n  " ++ literal "-V" ++ ", " ++ literal "--version" ++ "  Print version\n"

def version : String := "divert-reject 0.1.0\n"

/-- The message about a command line that cannot be read, with the call that would be right. -/
def fault (text usage : String) : String :=
  styled ["1", "31"] "error:" ++ " " ++ text ++ "\n\n" ++ usage ++
    "\nFor more information, try '" ++ literal "--help" ++ "'.\n"

def missingFilter : String :=
  fault ("the following required arguments were not provided:\n  " ++ styled ["32"] "<FILTER>...")
    (usage none)

def unexpectedValue (option value : String) : String :=
  fault ("unexpected value '" ++ styled ["33"] value ++ "' for '" ++ literal option ++
    "' found; no more were expected") (usage (some option))

end CommandLine

end PacketRefusal
