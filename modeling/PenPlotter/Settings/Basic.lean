import PenPlotter.Double.Arithmetic

/-!
# Settings

What a program needs to know about the plotter: the commands that lift and lower the pen, start and
finish a job, the drawing feed, and the scale.  The commands are opaque and are written into the
program as they are, so each must be a single line.
-/

set_option autoImplicit false

namespace PenPlotter

def isSingleLine (s : String) : Bool := s.toList.all fun c => c ≠ '\n' && c ≠ '\r'

structure Command where
  text : String
  single : isSingleLine text = true
deriving DecidableEq

namespace Command

instance : Inhabited Command := ⟨⟨"", by decide⟩⟩

instance : Repr Command := ⟨fun c n => reprPrec c.text n⟩

def of? (s : String) : Option Command :=
  if h : isSingleLine s = true then some ⟨s, h⟩ else none

end Command

structure Settings where
  penUp : Command
  penDown : Command
  /-- Drawing feed in output units per minute. -/
  feedRate : Int
  start : Command
  finish : Command
  /-- Output size in percent; at a hundred a drawing unit is an output unit. -/
  scalePercent : Double
  feed_pos : 0 < feedRate
  scale_finite : scalePercent.isFinite = true
  scale_pos : 0 < scalePercent
deriving DecidableEq

namespace Settings

def standard : Settings where
  penUp := ⟨"M5", by decide⟩
  penDown := ⟨"M3", by decide⟩
  feedRate := 3000
  start := ⟨"G28", by decide⟩
  finish := ⟨"M2", by decide⟩
  scalePercent := 100
  feed_pos := by decide
  scale_finite := by decide +kernel
  scale_pos := by decide +kernel

instance : Inhabited Settings := ⟨standard⟩

def scale (s : Settings) : Double := s.scalePercent / 100

end Settings

end PenPlotter
