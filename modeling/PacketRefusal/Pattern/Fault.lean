import PacketRefusal.Pattern.Location

/-!
# What is wrong with a pattern

A fault has a cause and a span of the pattern to blame, and sometimes a second span that the first
one collides with. `Fault.report` shows the pattern with the spans marked beneath its lines. A
pattern of several lines is shown with their numbers and between rulers; spans that reach over a
line end are then described in words.
-/

set_option autoImplicit false
set_option relaxedAutoImplicit false

namespace PacketRefusal.Pattern

/-- Why a pattern cannot be read. -/
inductive Cause
  | classEscapeInvalid
  | classRangeInvalid
  | classRangeLiteral
  | classUnclosed
  | decimalInvalid
  | hexEmpty
  | hexInvalid
  | hexInvalidDigit
  | escapeUnexpectedEnd
  | escapeUnrecognized
  | flagDanglingNegation
  | flagDuplicate
  | flagRepeatedNegation
  | flagUnexpectedEnd
  | flagUnrecognized
  | groupNameDuplicate
  | groupNameEmpty
  | groupNameInvalid
  | groupNameUnexpectedEnd
  | groupUnclosed
  | groupUnopened
  | nestedTooDeep (limit : Nat)
  | countInvalid
  | countEmpty
  | countUnclosed
  | repetitionMissing
  | boundaryUnclosed
  | boundaryUnrecognized
  | boundaryUnexpectedEnd
  | propertyInvalid
  | backreference
  | lookAround
  | unicodeNotAllowed
  | invalidUtf8
  | propertyNotFound
  | propertyValueNotFound
  | shorthandNotFound
  | caseUnavailable
  deriving DecidableEq

def Cause.message : Cause → String
  | classEscapeInvalid => "invalid escape sequence found in character class"
  | classRangeInvalid => "invalid character class range, the start must be <= the end"
  | classRangeLiteral => "invalid range boundary, must be a literal"
  | classUnclosed => "unclosed character class"
  | decimalInvalid => "decimal literal invalid"
  | hexEmpty => "hexadecimal literal empty"
  | hexInvalid => "hexadecimal literal is not a Unicode scalar value"
  | hexInvalidDigit => "invalid hexadecimal digit"
  | escapeUnexpectedEnd => "incomplete escape sequence, reached end of pattern prematurely"
  | escapeUnrecognized => "unrecognized escape sequence"
  | flagDanglingNegation => "dangling flag negation operator"
  | flagDuplicate => "duplicate flag"
  | flagRepeatedNegation => "flag negation operator repeated"
  | flagUnexpectedEnd => "expected flag but got end of regex"
  | flagUnrecognized => "unrecognized flag"
  | groupNameDuplicate => "duplicate capture group name"
  | groupNameEmpty => "empty capture group name"
  | groupNameInvalid => "invalid capture group character"
  | groupNameUnexpectedEnd => "unclosed capture group name"
  | groupUnclosed => "unclosed group"
  | groupUnopened => "unopened group"
  | nestedTooDeep limit =>
    "exceed the maximum number of nested parentheses/brackets (" ++ toString limit ++ ")"
  | countInvalid => "invalid repetition count range, the start must be <= the end"
  | countEmpty => "repetition quantifier expects a valid decimal"
  | countUnclosed => "unclosed counted repetition"
  | repetitionMissing => "repetition operator missing expression"
  | boundaryUnclosed =>
    "special word boundary assertion is either unclosed or contains an invalid character"
  | boundaryUnrecognized =>
    "unrecognized special word boundary assertion, " ++
      "valid choices are: start, end, start-half or end-half"
  | boundaryUnexpectedEnd =>
    "found either the beginning of a special word boundary or a bounded repetition on a \\b " ++
      "with an opening brace, but no closing brace"
  | propertyInvalid => "invalid Unicode character class"
  | backreference => "backreferences are not supported"
  | lookAround => "look-around, including look-ahead and look-behind, is not supported"
  | unicodeNotAllowed => "Unicode not allowed here"
  | invalidUtf8 => "pattern can match invalid UTF-8"
  | propertyNotFound => "Unicode property not found"
  | propertyValueNotFound => "Unicode property value not found"
  | shorthandNotFound =>
    "Unicode-aware Perl class not found (make sure the unicode-perl feature is enabled)"
  | caseUnavailable =>
    "Unicode-aware case insensitivity matching is not available " ++
      "(make sure the unicode-case feature is enabled)"

/-- What is wrong with a pattern, and where. -/
structure Fault where
  cause : Cause
  span : Span
  earlier : Option Span := none
  deriving DecidableEq

namespace Fault

def spans (fault : Fault) : List Span :=
  match fault.earlier with
  | none => [fault.span]
  | some earlier =>
    if fault.span.start.precedes earlier.start then [fault.span, earlier]
    else [earlier, fault.span]

/-- Marks behind the columns before `column` for spans within one line. An empty span gets one mark
too. -/
def marks (column : Nat) : List Span → String
  | [] => ""
  | span :: rest =>
    "".pushn ' ' (span.start.column - column) ++ "".pushn '^' (max 1 span.width) ++
      marks (max column span.start.column + max 1 span.width) rest

/-- The lines of a text. A line end at the very end starts no further line, and a carriage return
before a line end belongs to it. -/
def linesOf (text : String) : List String :=
  let parts := text.splitOn "\n"
  let ended := parts.dropLast.map fun line ↦
    if line.endsWith "\r" then (line.dropEnd 1).toString else line
  ended ++ (parts.getLast?.filter (· != "")).toList

/-- A line with the marks beneath it, both behind a margin. -/
def markedLine (margin : String) (spans : List Span) (line : String) : String :=
  margin ++ line ++ "\n" ++
    if spans.isEmpty then "" else "".pushn ' ' margin.length ++ marks 1 spans ++ "\n"

/-- The lines of a pattern with the spans that lie within one of them, from a line number on. -/
def markedLines (margin : Nat → String) (spans : List Span) (number : Nat) : List String → String
  | [] => ""
  | line :: rest =>
    markedLine (margin number) (spans.filter (·.start.line == number)) line ++
      markedLines margin spans (number + 1) rest

/-- What is put before a line of a pattern: its number, if there are several lines. -/
def margin (count number : Nat) : String :=
  if count ≤ 1 then "    "
  else
    let digits := toString number
    "".pushn ' ' ((toString count).length - digits.length) ++ digits ++ ": "

/-- A span that reaches over a line end in words. -/
def description (span : Span) : String :=
  "on line " ++ toString span.start.line ++ " (column " ++ toString span.start.column ++
    ") through line " ++ toString span.stop.line ++ " (column " ++
    toString (span.stop.column - 1) ++ ")"

/-- The pattern with the fault marked, and the text for its cause. -/
def report (fault : Fault) (pattern : String) : String :=
  let lines := linesOf pattern
  let count := lines.length + if pattern.endsWith "\n" then 1 else 0
  let (short, long) := fault.spans.partition Span.isOnOneLine
  let marked := markedLines (margin count) short 1 lines
  let shown :=
    if pattern.contains '\n' then
      let ruler := "".pushn '~' 79 ++ "\n"
      ruler ++ marked ++ ruler ++
        if long.isEmpty then "" else "\n".intercalate (long.map description) ++ "\n"
    else marked
  "regex parse error:\n" ++ shown ++ "error: " ++ fault.cause.message

end Fault

end PacketRefusal.Pattern
