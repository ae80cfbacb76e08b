/-!
# Character ranges

A property of characters is tabulated as ascending ranges of code points.
-/

set_option autoImplicit false

namespace PenPlotter.Text

def inRanges (table : Array (Nat × Nat)) (c : Char) : Bool :=
  table.any fun (lo, hi) => lo ≤ c.toNat && c.toNat ≤ hi

end PenPlotter.Text
