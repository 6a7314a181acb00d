import PacketRefusal.Pattern.Expression
import PacketRefusal.Pattern.Fault

/-!
# From the tree of a pattern to its meaning

Flags hold from where they are switched up to the end of the group around them, so that the meaning
of a part depends on what stands before it. `Node.meaning` passes the flags along and yields those
that hold behind a part.

No tables of the properties, letters and words of all scripts are at hand. What would need one is a
fault, and so is what could match a single octet outside ASCII. Only word boundaries of all scripts
are let through here, because a pattern may turn out not to need them.
-/

set_option autoImplicit false
set_option relaxedAutoImplicit false

namespace PacketRefusal.Pattern

/-- The flags that have an effect on what a pattern means. -/
structure Flags where
  ignoreCase : Bool := false
  multiLine : Bool := false
  dotMatchesNewline : Bool := false
  unicode : Bool := true
  carriageReturns : Bool := false
  deriving DecidableEq

namespace Flags

/-- The flags behind one change. -/
def switch (flags : Flags) : Flag × Bool → Flags
  | (.ignoreCase, value) => { flags with ignoreCase := value }
  | (.multiLine, value) => { flags with multiLine := value }
  | (.dotMatchesNewline, value) => { flags with dotMatchesNewline := value }
  | (.unicode, value) => { flags with unicode := value }
  | (.carriageReturns, value) => { flags with carriageReturns := value }
  | (.swapGreed, _) | (.skipBlanks, _) => flags

/-- The flags behind some changes. -/
def apply (flags : Flags) (changes : FlagChanges) : Flags := changes.foldl switch flags

end Flags

/-- A result, or what is wrong with a pattern. -/
abbrev Interpreted := Except Fault

def refuse {result : Type} (cause : Cause) (span : Span) : Interpreted result :=
  .error { cause, span }

/-! ### Sets -/

namespace CharSet

/-- A set with both cases of all letters in it. -/
def folded (set : CharSet) (span : Span) : Interpreted CharSet :=
  if set.isFolded then .ok set else refuse .caseUnavailable span

/-- A set of characters of all scripts with flags and negation applied. -/
def finished (set : CharSet) (flags : Flags) (negated : Bool) (span : Span) :
    Interpreted CharSet := do
  let set ← if flags.ignoreCase then set.folded span else pure set
  return if negated then set.complement lastCode else set

/-- A set of octets with flags and negation applied. It has to stay in ASCII. -/
def finishedOctets (set : CharSet) (flags : Flags) (negated : Bool) (span : Span) :
    Interpreted CharSet :=
  let set := if flags.ignoreCase then set.foldedAscii else set
  let set := if negated then set.complement lastOctet else set
  if set.isAscii then .ok set else refuse .invalidUtf8 span

end CharSet

/-- The name of a property without what does not count in it: the case of letters, a few separators,
what is not in ASCII, and the word `is` at the start. -/
def plainName (name : List Char) : List Char :=
  let name :=
    match name with
    | first :: second :: rest =>
      if first.toLower = 'i' ∧ second.toLower = 's' then rest else name
    | _ => name
  (name.filter fun char ↦
    char.toNat < 128 && char != ' ' && char != '_' && char != '-').map Char.toLower

/-- The set of the characters with a property. Three names would first be looked up among the values
of another property. -/
def propertySet {result : Type} (flags : Flags) (span : Span) (name : List Char) :
    Interpreted result :=
  if !flags.unicode then refuse .unicodeNotAllowed span
  else if plainName name ∈ ["cf".toList, "sc".toList, "lc".toList] then
    refuse .propertyValueNotFound span
  else refuse .propertyNotFound span

def shorthandSet (flags : Flags) (span : Span) (negated : Bool) (kind : Shorthand) :
    Interpreted CharSet :=
  if flags.unicode then refuse .shorthandNotFound span
  else
    CharSet.finishedOctets (.ofRanges kind.ranges) { flags with ignoreCase := false } negated span

/-- The code point of a literal in a set. Without the flag for all scripts only ASCII is allowed. -/
def literalCode (flags : Flags) (literal : Literal) : Interpreted Nat :=
  let code := literal.char.toNat
  if flags.unicode ∨ code < 128 then .ok code
  else if literal.isOctet then refuse .invalidUtf8 literal.span
  else refuse .unicodeNotAllowed literal.span

/-- A set with flags and negation applied, according to the flag for all scripts. -/
def CharSet.closed (set : CharSet) (flags : Flags) (negated : Bool) (span : Span) :
    Interpreted CharSet :=
  if flags.unicode then set.finished flags negated span
  else set.finishedOctets flags negated span

/-- An operand of an operation, with both cases of letters if case is ignored. -/
def CharSet.operand (set : CharSet) (flags : Flags) (span : Span) : Interpreted CharSet :=
  if flags.ignoreCase then
    if flags.unicode then set.folded span else .ok set.foldedAscii
  else .ok set

mutual

/-- A set with what a node stands for added. -/
def SetNode.addTo (flags : Flags) (set : CharSet) : SetNode → Interpreted CharSet
  | .empty _ => .ok set
  | .literal inner => do
    let code ← literalCode flags inner
    return set.insert (code, code)
  | .range _ first last => do
    let first ← literalCode flags first
    let last ← literalCode flags last
    return set.insert (first, last)
  | .named span negated kind => do
    return set.union (← (CharSet.ofRanges kind.ranges).closed flags negated span)
  | .property span _ name => propertySet flags span name
  | .shorthand span negated kind => do
    return set.union (← shorthandSet flags span negated kind)
  | .brackets span negated inner => do
    let inner ← inner.addTo flags .nothing
    return set.union (← inner.closed flags negated span)
  | .union _ items => SetNode.addAllTo flags set items
  | .operation _ kind left right => do
    let leftSet ← left.addTo flags .nothing
    let rightSet ← right.addTo flags .nothing
    let rightSet ← rightSet.operand flags right.span
    let leftSet ← leftSet.operand flags left.span
    return set.union (CharSet.operate kind leftSet rightSet)

def SetNode.addAllTo (flags : Flags) (set : CharSet) : List SetNode → Interpreted CharSet
  | [] => .ok set
  | node :: rest => do
    let set ← node.addTo flags set
    SetNode.addAllTo flags set rest

end

/-! ### Patterns -/

def Literal.meaning (literal : Literal) (flags : Flags) : Interpreted Expression :=
  let char := literal.char
  if flags.unicode then
    if flags.ignoreCase then refuse .caseUnavailable literal.span
    else .ok (.oneOf (.single char))
  else if literal.isOctet ∧ 128 ≤ char.toNat then refuse .invalidUtf8 literal.span
  else if flags.ignoreCase then .ok (.oneOf (CharSet.single char).foldedAscii)
  else .ok (.oneOf (.single char))

/-- The meaning of a dot, which leaves out the ends of lines unless a flag includes them. -/
def dotMeaning (flags : Flags) (span : Span) : Interpreted Expression :=
  if !flags.unicode then refuse .invalidUtf8 span
  else
    let newlines :=
      if flags.dotMatchesNewline then .nothing
      else if flags.carriageReturns then (CharSet.single '\n').union (.single '\r')
      else .single '\n'
    .ok (.oneOf (newlines.complement CharSet.lastCode))

def Assertion.meaning (kind : Assertion) (flags : Flags) : Condition :=
  match kind with
  | .textStart => .textStart
  | .textEnd => .textEnd
  | .lineStart =>
    if !flags.multiLine then .textStart
    else if flags.carriageReturns then .returnLineStart
    else .lineStart
  | .lineEnd =>
    if !flags.multiLine then .textEnd
    else if flags.carriageReturns then .returnLineEnd
    else .lineEnd
  | kind => .word flags.unicode kind

mutual

/-- The meaning of a node, and the flags that hold behind it. -/
def Node.meaning (flags : Flags) : Node → Interpreted (Expression × Flags)
  | .empty _ => .ok (.empty, flags)
  | .flags _ changes => .ok (.empty, flags.apply changes)
  | .literal inner => return (← inner.meaning flags, flags)
  | .dot span => return (← dotMeaning flags span, flags)
  | .assertion _ kind => .ok (.condition (kind.meaning flags), flags)
  | .property span _ name => propertySet flags span name
  | .shorthand span negated kind => return (.oneOf (← shorthandSet flags span negated kind), flags)
  | .brackets span negated inner => do
    let set ← inner.addTo flags .nothing
    return (.oneOf (← set.closed flags negated span), flags)
  | .repetition _ least most inner => do
    let (inner, behind) ← inner.meaning flags
    return (.repeating least most inner, behind)
  | .group _ .capturing inner => do
    let (inner, _) ← inner.meaning flags
    return (.capture inner, flags)
  | .group _ (.switching changes) inner => do
    let (inner, _) ← inner.meaning (flags.apply changes)
    return (inner, flags)
  | .sequence _ parts => do
    let (parts, behind) ← Node.meanings flags [] parts
    return (.inSequence parts, behind)
  | .alternatives _ branches => do
    let (branches, behind) ← Node.meanings flags [] branches
    return (.either branches, behind)

/-- The meanings of several nodes behind others in reverse order, and the flags that hold behind
them. -/
def Node.meanings (flags : Flags) (before : List Expression) :
    List Node → Interpreted (List Expression × Flags)
  | [] => .ok (before.reverse, flags)
  | node :: rest => do
    let (expression, flags) ← node.meaning flags
    Node.meanings flags (expression :: before) rest

end

end PacketRefusal.Pattern
