import PenPlotter.Drawing.Segment

/-!
# Extent

The smallest box around the endpoints of a drawing.  A coordinate that is no number takes no part.
-/

set_option autoImplicit false

namespace PenPlotter

structure Extent where
  minX : Number
  minY : Number
  maxX : Number
  maxY : Number
deriving DecidableEq, Repr

namespace Extent

def nothing : Extent :=
  ⟨.double (.inf false), .double (.inf false), .double (.inf true), .double (.inf true)⟩

def widen (e : Extent) (s : Segment) : Extent where
  minX := (e.minX.least s.x1).least s.x2
  minY := (e.minY.least s.y1).least s.y2
  maxX := (e.maxX.greatest s.x1).greatest s.x2
  maxY := (e.maxY.greatest s.y1).greatest s.y2

def of? (segments : List Segment) : Option Extent :=
  if segments.isEmpty then none else some (segments.foldl widen nothing)

def emptyMessage : String := "bounding box of an empty segment history is undefined"

end Extent

end PenPlotter
