import PenPlotter.Program.Line
import PenPlotter.Drawing.Placement

/-!
# Compiling a drawing

The drawing is placed first, as a whole; then its segments are traced in order, while the tool's
place and the state of the pen are kept.  The pen is lifted only to travel and lowered only to
draw, so segments that follow on from each other are drawn in one stroke.
-/

set_option autoImplicit false

namespace PenPlotter

structure Tool where
  x : Double
  y : Double
  penDown : Bool
deriving DecidableEq

def Tool.atRest : Tool := ⟨0, 0, false⟩

instance : Inhabited Tool := ⟨.atRest⟩

inductive Trouble where
  /-- A segment would be drawn from or to a point that is not finite. -/
  | notFinite (segment : Segment)
  /-- A coordinate is an integer too large for a double. -/
  | overflow
  /-- The feed has too many digits to be written into a line. -/
  | longFeed
deriving DecidableEq, Repr

inductive CompileError where
  | notFinite (segment : Segment)
  | overflow
  /-- A number has too many digits to be written, be it into a line or into what is said about a
  segment. -/
  | tooManyDigits
deriving DecidableEq, Repr

def CompileError.message : CompileError → String
  | .notFinite segment => "Non-finite output coordinate for segment " ++ segment.text
  | .overflow => "int too large to convert to float"
  | .tooManyDigits => NoText.tooManyDigits.message

def Trouble.error : Trouble → CompileError
  | .notFinite segment => if segment.isWritable then .notFinite segment else .tooManyDigits
  | .overflow => .overflow
  | .longFeed => .tooManyDigits

/-! ## 1. One segment -/

/-- The distance, along either axis, up to which the tool counts as being at a point. -/
def positionTolerance : Double := .ofDecimal false 1 (-2)

def Tool.isAwayFrom (t : Tool) (x y : Double) : Bool :=
  positionTolerance < (x - t.x).abs || positionTolerance < (y - t.y).abs

structure Stroke where
  x1 : Double
  y1 : Double
  x2 : Double
  y2 : Double
deriving DecidableEq

def Placement.stroke (p : Placement) (s : Segment) : Except Trouble Stroke :=
  let ends : Except Overflow Stroke := do
    let (x1, y1) ← p.apply s.x1 s.y1
    let (x2, y2) ← p.apply s.x2 s.y2
    return ⟨← x1.toDouble, ← y1.toDouble, ← x2.toDouble, ← y2.toDouble⟩
  match ends with
  | .error _ => .error .overflow
  | .ok k =>
    if k.x1.isFinite && k.y1.isFinite && k.x2.isFinite && k.y2.isFinite then .ok k
    else .error (.notFinite s)

/-- The lines that take the tool to the start of a stroke: none if it is there already. -/
def Tool.approach (settings : Settings) (t : Tool) (x y : Double) : List Line × Tool :=
  if t.isAwayFrom x y then
    ((if t.penDown then [.penUp settings.penUp] else []) ++ [.travel x y], ⟨x, y, false⟩)
  else ([], t)

def Tool.trace (settings : Settings) (t : Tool) (k : Stroke) : List Line × Tool :=
  let (approach, t) := t.approach settings k.x1 k.y1
  let lower := if t.penDown then [] else [.penDown settings.penDown]
  (approach ++ lower ++ [.draw k.x2 k.y2 settings.feedRate], ⟨k.x2, k.y2, true⟩)

def Tool.poised (settings : Settings) (t : Tool) (k : Stroke) : Tool :=
  { (t.approach settings k.x1 k.y1).2 with penDown := true }

/-! ## 2. The whole drawing -/

def Settings.isWritable (settings : Settings) : Bool := (Number.int settings.feedRate).isWritable

/-- Traces segments one after the other.  Where one cannot be placed the tool stays where it is, and
where its line cannot be written the tool stops short of drawing it. -/
def Tool.traceAll (settings : Settings) (p : Placement) (t : Tool) :
    List Segment → Tool × Except Trouble (List Line)
  | [] => (t, .ok [])
  | s :: rest =>
    match p.stroke s with
    | .error e => (t, .error e)
    | .ok k =>
      if settings.isWritable then
        let (lines, t) := t.trace settings k
        let (t, others) := t.traceAll settings p rest
        (t, others.map (lines ++ ·))
      else (t.poised settings k, .error .longFeed)

def header (settings : Settings) : List Line :=
  [.units, .absolute, .start settings.start, .blank]

def closing (settings : Settings) : List Line :=
  [.blank, .returnToOrigin, .finish settings.finish]

def body (settings : Settings) (segments : List Segment) :
    Tool × Except Trouble (List Line) :=
  match Extent.of? segments with
  | none => (.atRest, .ok [.noDrawing])
  | some box =>
    match Tool.atRest.traceAll settings (.grounding box settings.scale) segments with
    | (t, .error e) => (t, .error e)
    | (t, .ok lines) =>
      ({ t with penDown := false },
        .ok (lines ++ if t.penDown then [.penUp settings.penUp] else []))

def compile (settings : Settings) (segments : List Segment) :
    Tool × Except Trouble (List Line) :=
  let (t, lines) := body settings segments
  (t, lines.map fun lines => header settings ++ lines ++ closing settings)

end PenPlotter
