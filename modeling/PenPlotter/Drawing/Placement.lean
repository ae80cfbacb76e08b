import PenPlotter.Drawing.Extent

/-!
# Placement

A plotter wants coordinates that are not negative, with `y` upwards.  A placement shifts the
drawing so that its leftmost point comes to `X = 0` and its lowest to `Y = 0`, and scales it:
`X = (x - xShift) * scale` and `Y = (-y - yShift) * scale`.
-/

set_option autoImplicit false

namespace PenPlotter

structure Placement where
  scale : Number
  /-- The smallest `x` of the drawing. -/
  xShift : Number
  /-- The smallest `-y` of the drawing. -/
  yShift : Number
deriving DecidableEq, Repr

namespace Placement

def apply (p : Placement) (x y : Number) : Except Overflow (Number × Number) := do
  let gx ← (← x.sub p.xShift).mul p.scale
  let gy ← (← y.neg.sub p.yShift).mul p.scale
  return (gx, gy)

def factor (percent : Number) : Except Overflow Double := do
  return (← percent.toDouble) / 100

def grounding (box : Extent) (scale : Double) : Placement :=
  ⟨.double scale, box.minX, box.maxY.neg⟩

end Placement

end PenPlotter
