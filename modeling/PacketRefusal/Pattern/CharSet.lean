import PacketRefusal.Pattern.Tree
import PacketRefusal.Text.CodeRange

/-!
# Sets of characters

A set is a list of ranges of code points, in increasing order and with gaps between them.
Complements are formed within a limit, which is the last code point or, for sets of octets, the last
octet.

Whether a set is known to hold both cases of every letter in it is part of the set. Nothing and
everything do; other sets of characters of all scripts cannot be completed in this way.
-/

set_option autoImplicit false
set_option relaxedAutoImplicit false

namespace PacketRefusal.Pattern

open Text

/-- Ranges of code points, and whether both cases of every letter are known to be in them. -/
structure CharSet where
  ranges : List CodeRange
  isFolded : Bool
  deriving DecidableEq

namespace CharSet

def lastCode : Nat := 0x10FFFF

def lastOctet : Nat := 0xFF

def nothing : CharSet := ⟨[], true⟩

def contains (set : CharSet) (char : Char) : Bool := CodeRange.contains set.ranges char

def isEmpty (set : CharSet) : Bool := set.ranges.isEmpty

def isAscii (set : CharSet) : Bool := set.ranges.all fun (_, last) ↦ last < 128

/-- Joins ranges that overlap or touch. They are in the order of their first code points. -/
def joined : List CodeRange → List CodeRange
  | [] => []
  | (first, last) :: rest =>
    match joined rest with
    | [] => [(first, last)]
    | (first', last') :: more =>
      if first' ≤ last + 1 then (first, max last last') :: more
      else (first, last) :: (first', last') :: more

/-- Ranges in order, with gaps between them. -/
def ordered (ranges : List CodeRange) : List CodeRange :=
  joined (ranges.mergeSort fun range other ↦ range.1 ≤ other.1)

/-- The set of the characters in some ranges. -/
def ofRanges (ranges : List CodeRange) : CharSet := ⟨ordered ranges, ranges.isEmpty⟩

def single (char : Char) : CharSet := ofRanges [(char.toNat, char.toNat)]

/-- A set with a range added. -/
def insert (set : CharSet) (range : CodeRange) : CharSet :=
  ⟨ordered (set.ranges ++ [range]), false⟩

def union (set other : CharSet) : CharSet :=
  if other.isEmpty ∨ set.ranges = other.ranges then set
  else ⟨ordered (set.ranges ++ other.ranges), set.isFolded && other.isFolded⟩

/-- The code points between ranges in order, from one on up to a limit. -/
def gaps (limit from_ : Nat) : List CodeRange → List CodeRange
  | [] => if from_ ≤ limit then [(from_, limit)] else []
  | (first, last) :: rest =>
    if from_ < first then (from_, first - 1) :: gaps limit (last + 1) rest
    else gaps limit (last + 1) rest

/-- The characters up to a limit that are not in a set. -/
def complement (limit : Nat) (set : CharSet) : CharSet :=
  if set.isEmpty then ⟨[(0, limit)], true⟩ else ⟨gaps limit 0 set.ranges, set.isFolded⟩

/-- Ranges without some other ranges. -/
def without (ranges removed : List CodeRange) : List CodeRange :=
  gaps lastCode 0 (ordered (gaps lastCode 0 ranges ++ removed))

def intersection (set other : CharSet) : CharSet :=
  if set.isEmpty then set
  else if other.isEmpty then nothing
  else ⟨without set.ranges (gaps lastCode 0 other.ranges), set.isFolded && other.isFolded⟩

def difference (set other : CharSet) : CharSet :=
  if set.isEmpty ∨ other.isEmpty then set
  else ⟨without set.ranges other.ranges, set.isFolded && other.isFolded⟩

def symmetricDifference (set other : CharSet) : CharSet :=
  (set.union other).difference (set.intersection other)

def operate : SetOperation → CharSet → CharSet → CharSet
  | .intersection => intersection
  | .difference => difference
  | .symmetricDifference => symmetricDifference

/-- The code points of a range that lie between two others, moved by a distance. -/
def moved (low high : Char) (move : Nat → Nat) : CodeRange → Option CodeRange := fun (first, last) ↦
  let first := max first low.toNat
  let last := min last high.toNat
  if first ≤ last then some (move first, move last) else none

/-- A set with both cases of the ASCII letters in it. -/
def foldedAscii (set : CharSet) : CharSet :=
  let distance := 'a'.toNat - 'A'.toNat
  let lower := set.ranges.filterMap (moved 'A' 'Z' (· + distance))
  let upper := set.ranges.filterMap (moved 'a' 'z' (· - distance))
  ⟨ordered (set.ranges ++ lower ++ upper), true⟩

/-- The one character of a set, if it has only one. -/
def only? (set : CharSet) : Option Char :=
  match set.ranges with
  | [(first, last)] => if first = last then some (Char.ofNat first) else none
  | _ => none

end CharSet

/-- The ranges of a set that has a name. -/
def NamedSet.ranges (kind : NamedSet) : List CodeRange :=
  let range (first last : Char) : CodeRange := (first.toNat, last.toNat)
  match kind with
  | .alphanumeric => [range '0' '9', range 'A' 'Z', range 'a' 'z']
  | .alphabetic => [range 'A' 'Z', range 'a' 'z']
  | .ascii => [range '\x00' '\x7f']
  | .blank => [range '\t' '\t', range ' ' ' ']
  | .control => [range '\x00' '\x1f', range '\x7f' '\x7f']
  | .digit => [range '0' '9']
  | .graphic => [range '!' '~']
  | .lower => [range 'a' 'z']
  | .printable => [range ' ' '~']
  | .punctuation => [range '!' '/', range ':' '@', range '[' '`', range '\x7b' '~']
  | .space => [range '\t' '\r', range ' ' ' ']
  | .upper => [range 'A' 'Z']
  | .word => [range '0' '9', range 'A' 'Z', range '_' '_', range 'a' 'z']
  | .hexadecimal => [range '0' '9', range 'A' 'F', range 'a' 'f']

/-- The ASCII characters that a letter behind a backslash stands for. -/
def Shorthand.ranges : Shorthand → List CodeRange
  | .digit => NamedSet.ranges .digit
  | .blank => NamedSet.ranges .space
  | .word => NamedSet.ranges .word

end PacketRefusal.Pattern
