import PacketRefusal.Pattern.Expression

/-!
# Searching a text for a pattern

A text has a place before every character and one at its end. A set of places is a list that says of
each place in turn whether it belongs to the set. `Expression.behind` yields the places behind the
occurrences of an expression that start in a set of places, so that sequences compose, choices
unite, and a repetition is an iteration. An iteration stops as soon as a step changes nothing.
-/

set_option autoImplicit false
set_option relaxedAutoImplicit false

namespace PacketRefusal.Pattern

/-- Whether each place of a text belongs to a set of places. -/
abbrev Places := List Bool

namespace Places

def all (text : List Char) : Places := true :: text.map fun _ ↦ true

def union (places other : Places) : Places := List.zipWith (· || ·) places other

def iterate (step : Places → Places) : Nat → Places → Places
  | 0, places => places
  | count + 1, places =>
    let next := step places
    if next = places then places else iterate step count next

/-- The places that some number of steps reaches, at most `count` of them. -/
def reach (step : Places → Places) : Nat → Places → Places
  | 0, places => places
  | count + 1, places =>
    let next := places.union (step places)
    if next = places then places else reach step count next

end Places

/-! ### Conditions -/

def isWordChar (char : Char) : Bool := char.isAlphanum || char == '_'

/-- Whether a condition on words holds between two characters that belong to words or not. -/
def Assertion.holdsForWords (kind : Assertion) (before after : Bool) : Bool :=
  match kind with
  | .wordBoundary => before != after
  | .noWordBoundary => before == after
  | .wordStart => !before && after
  | .wordEnd => before && !after
  | .wordStartHalf => !before
  | .wordEndHalf => !after
  | .textStart | .textEnd | .lineStart | .lineEnd => false

/-- Whether a condition holds between the characters before and behind a place. A carriage return
and the line end behind it are not parted. -/
def Condition.holds (condition : Condition) (before after : Option Char) : Bool :=
  match condition with
  | textStart => before.isNone
  | textEnd => after.isNone
  | lineStart => before.all (· == '\n')
  | lineEnd => after.all (· == '\n')
  | returnLineStart =>
    before.all fun char ↦ char == '\n' || (char == '\r' && after != some '\n')
  | returnLineEnd =>
    after.all fun char ↦ char == '\r' || (char == '\n' && before != some '\r')
  | word _ kind => kind.holdsForWords (before.any isWordChar) (after.any isWordChar)

/-- The places of a text where a condition holds. -/
def Condition.places (condition : Condition) (text : List Char) : Places :=
  List.zipWith condition.holds (none :: text.map some) (text.map some ++ [none])

/-! ### Expressions -/

/-- The places behind the characters that belong to a set and start in a set of places. -/
def CharSet.behind (set : CharSet) (text : List Char) (places : Places) : Places :=
  false :: List.zipWith (fun place char ↦ place && set.contains char) places text

namespace Expression

mutual

/-- The places behind the occurrences of an expression that start in a set of places. -/
def behind (text : List Char) (expression : Expression) (places : Places) : Places :=
  match expression with
  | empty => places
  | oneOf set => if places.any id then set.behind text places else places
  | condition kind => List.zipWith (· && ·) places (kind.places text)
  | capture inner => inner.behind text places
  | sequence parts => behindAll text parts places
  | choice branches => behindAny text branches places (places.map fun _ ↦ false)
  | repeated least most inner =>
    let start := Places.iterate (inner.behind text) least places
    match most with
    | none => Places.reach (inner.behind text) (text.length + 1) start
    | some most => Places.reach (inner.behind text) (most - least) start

/-- The places behind the occurrences of several expressions one after the other. -/
def behindAll (text : List Char) (parts : List Expression) (places : Places) : Places :=
  match parts with
  | [] => places
  | first :: rest => behindAll text rest (first.behind text places)

/-- The places behind the occurrences of one of several expressions, and some further places. -/
def behindAny (text : List Char) (branches : List Expression) (places further : Places) : Places :=
  match branches with
  | [] => further
  | first :: rest => behindAny text rest places (further.union (first.behind text places))

end

def occursIn (expression : Expression) (text : String) : Bool :=
  (expression.behind text.toList (Places.all text.toList)).any id

end Expression

end PacketRefusal.Pattern
