import PacketRefusal.Log
import PacketRefusal.Pattern.Basic
import PacketRefusal.Text.Whitespace

/-!
# Which records are written to the log

Every record comes from a part of the program, its origin. A log filter holds levels for origins,
selected by the text their names start with, and one level for all others. The longest selector
that fits decides. A variable can refine the filter by a specification: directives separated by
commas, and behind a slash a pattern that has to occur in a message. `LogFilter.refine` applies a
specification and returns the warnings about what could not be read in it.
-/

set_option autoImplicit false
set_option relaxedAutoImplicit false

namespace PacketRefusal

open Text

/-- A level for the origins whose names start with a selector, or for all origins. -/
structure Directive where
  selector : Option String
  level : Log.Level
  deriving DecidableEq

/-- The level of each group of origins, and a pattern that has to occur in messages. -/
structure LogFilter where
  directives : List Directive
  required : Option Pattern := none

/-- A record together with the part of the program that it comes from. -/
structure LogEntry where
  origin : String
  record : Log.Record
  deriving DecidableEq

namespace Directive

/-- Whether a directive is about an origin. -/
def fits (directive : Directive) (origin : String) : Bool :=
  directive.selector.all fun selector ↦ selector.toList.isPrefixOf origin.toList

def weight (directive : Directive) : Nat := (directive.selector.map String.utf8ByteSize).getD 0

/-- What one directive of a specification says, or the part of it that cannot be read. A word alone
is a level for all origins or else a selector, and a selector without a level admits everything. -/
def parse (text : List Char) : Except (List Char) Directive :=
  let everything : Log.Level := .upTo .trace
  match pieces '=' text with
  | [word] =>
    match Log.Level.ofText? (String.ofList word) with
    | some level => .ok ⟨none, level⟩
    | none => .ok ⟨some (String.ofList word), everything⟩
  | [selector, level] =>
    let level := trim level
    if level = [] then .ok ⟨some (String.ofList selector), everything⟩
    else
      match Log.Level.ofText? (String.ofList level) with
      | some level => .ok ⟨some (String.ofList selector), level⟩
      | none => .error level
  | _ => .error text

end Directive

namespace LogFilter

def ofLevel (level : Log.Level) : LogFilter := { directives := [⟨none, level⟩] }

/-- The filter with a directive in the place of the one with the same selector, or else added. -/
def insert (filter : LogFilter) (directive : Directive) : LogFilter :=
  if filter.directives.any (·.selector == directive.selector) then
    { filter with
      directives := filter.directives.map fun known ↦
        if known.selector = directive.selector then directive else known }
  else { filter with directives := filter.directives ++ [directive] }

/-- The directive that decides about an origin: the most specific that fits, of several the
last. -/
def deciding? (filter : LogFilter) (origin : String) : Option Directive :=
  (filter.directives.filter (·.fits origin)).foldl
    (fun best directive ↦
      match best with
      | some known => if known.weight ≤ directive.weight then some directive else best
      | none => some directive)
    none

def admits (filter : LogFilter) (entry : LogEntry) : Bool :=
  ((filter.deciding? entry.origin).any fun directive ↦
    directive.level.admits entry.record.severity) &&
    filter.required.all fun pattern ↦ pattern.occursIn entry.record.message

/-- A warning about something that is left out. -/
def warning (text : String) : String := "warning: " ++ text ++ ", ignoring it\n"

/-- The warning about a part of a specification. -/
def specificationWarning (part : List Char) (detail : String) : String :=
  warning ("invalid logging spec '" ++ String.ofList part ++ "'" ++ detail)

/-- Applies directives in order, and collects the warnings about those that cannot be read. -/
def refineEach (filter : LogFilter) : List (List Char) → LogFilter × String
  | [] => (filter, "")
  | text :: rest =>
    let text := trim text
    if text = [] then refineEach filter rest
    else
      match Directive.parse text with
      | .ok directive => refineEach (filter.insert directive) rest
      | .error part =>
        let (filter, warnings) := refineEach filter rest
        (filter, specificationWarning part "" ++ warnings)

/-- Applies the pattern of a specification. -/
def require (filter : LogFilter) (text : String) : LogFilter × String :=
  match Pattern.ofText text with
  | .ok pattern => ({ filter with required := some pattern }, "")
  | .error refusal => (filter, warning ("invalid regex filter - " ++ refusal.message))

/-- Applies a specification, which has at most one slash. -/
def refine (filter : LogFilter) (specification : String) : LogFilter × String :=
  match pieces '/' specification.toList with
  | [directives] => refineEach filter (pieces ',' directives)
  | [directives, pattern] =>
    let (filter, warnings) := refineEach filter (pieces ',' directives)
    let (filter, warning) := filter.require (String.ofList pattern)
    (filter, warnings ++ warning)
  | _ => (filter, specificationWarning specification.toList " (too many '/'s)")

end LogFilter

end PacketRefusal
