import Shorthand.Text.Basic

/-!
# `Shorthand.Text.Ranges`: classes of characters as ranges

A class is a list of closed ranges of scalar values. The property tables of the
library are written this way.
-/

set_option autoImplicit false

namespace Shorthand

namespace Text

/-- Whether the scalar value lies in one of the ranges. -/
def inRanges (ranges : List (Nat × Nat)) (c : Char) : Bool :=
  ranges.any fun (lo, hi) => lo ≤ c.toNat && c.toNat ≤ hi

end Text

end Shorthand
