import PenPlotter.Double.Arithmetic

/-!
# Angles

Sine and cosine come from the machine; everything else about doubles is exact arithmetic.
-/

set_option autoImplicit false

namespace PenPlotter

namespace Double

def radiansPerDegree : Double := ofDecimal false 17453292519943295 (-18)

def radians (x : Double) : Double := x * radiansPerDegree

def sine? : Double → Option Double
  | .inf _ => none
  | x => some (ofBits (Float.sin (Float.ofBits x.toBits)).toBits)

/-- The cosine of an angle in radians; an infinite angle has none. -/
def cosine? : Double → Option Double
  | .inf _ => none
  | x => some (ofBits (Float.cos (Float.ofBits x.toBits)).toBits)

end Double

end PenPlotter
