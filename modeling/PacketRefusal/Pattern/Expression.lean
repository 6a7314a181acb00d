import PacketRefusal.Pattern.CharSet

/-!
# What a pattern means

An expression is what is left of a pattern once its flags are applied: sets of characters,
conditions on places, and ways to combine these. Expressions are built by functions that keep them
small: `Expression.inSequence`, `Expression.either` and `Expression.repeating` leave out what has no
effect.
-/

set_option autoImplicit false
set_option relaxedAutoImplicit false

namespace PacketRefusal.Pattern

/-- A condition on a place of a text. The conditions on words tell word characters of ASCII or of
all scripts from others. -/
inductive Condition
  | textStart
  | textEnd
  | lineStart
  | lineEnd
  | returnLineStart
  | returnLineEnd
  | word (allScripts : Bool) (kind : Assertion)
  deriving DecidableEq

/-- What a pattern means. -/
inductive Expression
  | empty
  | oneOf (set : CharSet)
  | condition (condition : Condition)
  | capture (inner : Expression)
  | sequence (parts : List Expression)
  | choice (branches : List Expression)
  | repeated (least : Nat) (most : Option Nat) (inner : Expression)

namespace Expression

mutual

/-- Whether an expression can match nothing but the empty text. -/
def isWidthless : Expression → Bool
  | empty | condition _ => true
  | oneOf _ => false
  | capture inner => inner.isWidthless
  | sequence parts => areWidthless parts
  | choice branches => areWidthless branches
  | repeated _ most inner => most.isSome && inner.isWidthless

def areWidthless : List Expression → Bool
  | [] => true
  | first :: rest => first.isWidthless && areWidthless rest

end

mutual

/-- Whether an expression may match the empty text, as far as its form shows. -/
def mayBeEmpty : Expression → Bool
  | empty | condition _ => true
  | oneOf set => set.isEmpty
  | capture inner => inner.mayBeEmpty
  | sequence parts => mayAllBeEmpty parts
  | choice branches => mayAnyBeEmpty branches
  | repeated least _ inner => least == 0 || inner.mayBeEmpty

def mayAllBeEmpty : List Expression → Bool
  | [] => true
  | first :: rest => first.mayBeEmpty && mayAllBeEmpty rest

def mayAnyBeEmpty : List Expression → Bool
  | [] => false
  | first :: rest => first.mayBeEmpty || mayAnyBeEmpty rest

end

def isEmpty : Expression → Bool
  | empty => true
  | _ => false

def inSequence (parts : List Expression) : Expression :=
  match parts.filter (!·.isEmpty) with
  | [] => empty
  | [part] => part
  | parts => sequence parts

def branches : Expression → List Expression
  | choice branches => branches
  | other => [other]

/-- The set of characters that an expression consists of. -/
def set? : Expression → Option CharSet
  | oneOf set => some set
  | _ => none

/-- One of several expressions. Sets of characters become one set. -/
def either (parts : List Expression) : Expression :=
  match parts.flatMap branches with
  | [branch] => branch
  | branches =>
    match branches.mapM set? with
    | some sets => oneOf (sets.foldl CharSet.union .nothing)
    | none => choice branches

/-- An expression repeated. One that has no width need not be repeated more than once. -/
def repeating (least : Nat) (most : Option Nat) (inner : Expression) : Expression :=
  let least := if inner.isWidthless then min least 1 else least
  let most := if inner.isWidthless then some ((most.map (min 1)).getD 1) else most
  if most = some 0 then empty
  else if least = 1 ∧ most = some 1 then inner
  else repeated least most inner

end Expression

end PacketRefusal.Pattern
