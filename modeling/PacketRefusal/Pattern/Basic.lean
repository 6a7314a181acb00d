import PacketRefusal.Pattern.Interpretation
import PacketRefusal.Pattern.Reading
import PacketRefusal.Pattern.Search
import PacketRefusal.Pattern.Size

/-!
# Patterns

A pattern is a regular expression in the usual notation. `Pattern.ofText` reads one, or says why it
is refused: because it cannot be read, because it needs the word boundaries of all scripts, or
because its automaton would be too large. `Pattern.occursIn` looks for it anywhere in a text.
-/

set_option autoImplicit false
set_option relaxedAutoImplicit false

namespace PacketRefusal

/-- A pattern that texts can be searched for. -/
structure Pattern where
  expression : Pattern.Expression

namespace Pattern

inductive Refusal
  | fault (fault : Fault) (text : String)
  | wordsNeeded
  | tooLarge
  deriving DecidableEq

/-- The octets that an automaton may take. -/
def sizeLimit : Nat := 10 * 1024 * 1024

def Refusal.message : Refusal → String
  | fault inner text => inner.report text
  | wordsNeeded => "error building NFA"
  | tooLarge => "Compiled regex exceeds size limit of " ++ toString sizeLimit ++ " bytes."

def ofText (text : String) : Except Refusal Pattern := do
  let refuse (fault : Fault) : Refusal := .fault fault text
  let node ← (Node.ofText text).mapError refuse
  let (expression, _) ← (node.meaning {}).mapError refuse
  if sizeLimit < expression.searchSize .forwards then throw .tooLarge
  else if expression.needsWords then throw .wordsNeeded
  else if sizeLimit < expression.searchSize .backwards then throw .tooLarge
  else return ⟨expression⟩

def occursIn (pattern : Pattern) (text : String) : Bool := pattern.expression.occursIn text

end Pattern

end PacketRefusal
