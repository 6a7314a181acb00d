import PacketRefusal.Json.Token

/-!
# Values of a JSON text

`Value.parse?` reads one value from a text. Objects keep their members in order and with
duplicates, since whether a duplicate is an error depends on who asks.

The reader is an automaton over tokens: `State` says what may come next together with the arrays
and objects that are still open, and `State.next?` takes one token. There is no limit on how deep
values are nested.
-/

set_option autoImplicit false
set_option relaxedAutoImplicit false

namespace PacketRefusal.Json

/-- A value. Strings are as in tokens: without text if they cannot be decoded. -/
inductive Value
  | null
  | bool (value : Bool)
  | number (value : Number)
  | text (value : Option String)
  | array (items : List Value)
  | object (members : List (Option String × Value))

/-- An array or object that is still open, with what stands in it so far, last first. An object is
open at the value of a member. -/
inductive Frame
  | array (before : List Value)
  | object (before : List (Option String × Value)) (key : Option String)

/-- What a reader expects, with the open arrays and objects from the inside out. -/
inductive State
  /-- A value. -/
  | value (pending : List Frame)
  /-- A value, or the end of an array without items. -/
  | firstItem (outer : List Frame)
  /-- A key, or the end of an object without members. -/
  | firstKey (outer : List Frame)
  /-- A key. -/
  | key (before : List (Option String × Value)) (outer : List Frame)
  /-- The colon behind a key. -/
  | colon (before : List (Option String × Value)) (key : Option String) (outer : List Frame)
  /-- What may follow a value: a comma or an end inside an array or object, else nothing. -/
  | after (item : Value) (pending : List Frame)

namespace State

/-- Takes the first token of a value. -/
def nextInValue? (pending : List Frame) : Token → Option State
  | .openBracket => some (firstItem pending)
  | .openBrace => some (firstKey pending)
  | .null => some (after .null pending)
  | .bool truth => some (after (.bool truth) pending)
  | .number number => some (after (.number number) pending)
  | .text text => some (after (.text text) pending)
  | .closeBrace | .closeBracket | .comma | .colon => none

def next? : State → Token → Option State
  | value pending, token => nextInValue? pending token
  | firstItem outer, .closeBracket => some (after (.array []) outer)
  | firstItem outer, token => nextInValue? (.array [] :: outer) token
  | firstKey outer, .closeBrace => some (after (.object []) outer)
  | firstKey outer, .text member => some (colon [] member outer)
  | key before outer, .text member => some (colon before member outer)
  | colon before member outer, .colon => some (value (.object before member :: outer))
  | after item (.array before :: outer), .comma => some (value (.array (item :: before) :: outer))
  | after item (.array before :: outer), .closeBracket =>
    some (after (.array (item :: before).reverse) outer)
  | after item (.object before member :: outer), .comma =>
    some (key ((member, item) :: before) outer)
  | after item (.object before member :: outer), .closeBrace =>
    some (after (.object ((member, item) :: before).reverse) outer)
  | _, _ => none

/-- The value that was read, once nothing is open. -/
def result? : State → Option Value
  | after item [] => some item
  | _ => none

end State

/-- The value that a text consists of. -/
def Value.parse? (text : String) : Option Value := do
  let tokens ← scan? text.toList
  let state ← tokens.foldlM State.next? (State.value [])
  state.result?

end PacketRefusal.Json
