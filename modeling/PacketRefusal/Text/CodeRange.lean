/-!
# Sets of characters given by ranges

A property of characters is often fixed by a standard as a list of ranges of code points.
`CodeRange.contains` decides such a property from its list.
-/

set_option autoImplicit false
set_option relaxedAutoImplicit false

namespace PacketRefusal.Text

/-- The code points from a first to a last one, both included. -/
abbrev CodeRange := Nat × Nat

def CodeRange.contains (ranges : List CodeRange) (char : Char) : Bool :=
  ranges.any fun (first, last) ↦ first ≤ char.toNat && char.toNat ≤ last

end PacketRefusal.Text
