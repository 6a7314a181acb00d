/-!
# Log records and the levels that admit them

A record has a severity and a message. A level admits the records that are at least as severe as
itself, and the level `off` admits none. Levels are written as words; `Level.ofText?` reads them
without regard to the case of ASCII letters, and `Level.text` writes them in capitals.
-/

set_option autoImplicit false
set_option relaxedAutoImplicit false

namespace PacketRefusal.Log

inductive Severity
  | error
  | warning
  | info
  | debug
  | trace
  deriving DecidableEq

/-- The place of a severity in the order from the most to the least serious. -/
def Severity.rank : Severity → Nat
  | error => 1
  | warning => 2
  | info => 3
  | debug => 4
  | trace => 5

def Severity.text : Severity → String
  | error => "ERROR"
  | warning => "WARN"
  | info => "INFO"
  | debug => "DEBUG"
  | trace => "TRACE"

structure Record where
  severity : Severity
  message : String
  deriving DecidableEq

/-- The least serious severity that is still recorded, or that nothing is. -/
inductive Level
  | off
  | upTo (severity : Severity)
  deriving DecidableEq

namespace Level

/-- A level admits records of its own severity and of the more serious ones. -/
def admits : Level → Severity → Bool
  | off, _ => false
  | upTo bound, severity => severity.rank ≤ bound.rank

def text : Level → String
  | off => "OFF"
  | upTo severity => severity.text

/-- All levels, from the one that admits nothing to the one that admits all. -/
def all : List Level := [off, upTo .error, upTo .warning, upTo .info, upTo .debug, upTo .trace]

/-- The level that a word stands for. Letters of either case are accepted, nothing else may stand
around the word. -/
def ofText? (word : String) : Option Level :=
  all.find? fun level ↦ level.text.toList == word.toList.map Char.toUpper

end Level

end PacketRefusal.Log
