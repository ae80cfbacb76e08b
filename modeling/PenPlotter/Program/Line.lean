import PenPlotter.Settings.Basic
import PenPlotter.Number
import PenPlotter.Decimal.Fixed

/-!
# Lines

A program is a list of lines, each a command for the machine with a comment.  Coordinates are
written with three decimals.
-/

set_option autoImplicit false

namespace PenPlotter

/-- A coordinate with three decimals; what rounds to zero has no sign. -/
def coordinateText (x : Double) : String :=
  let s := x.fixed 3
  if s = "-0.000" then "0.000" else s

inductive Line where
  | units
  | absolute
  | start (command : Command)
  | blank
  /-- Stands for the drawing where there is none. -/
  | noDrawing
  | travel (x y : Double)
  | penDown (command : Command)
  | draw (x y : Double) (feed : Int)
  | penUp (command : Command)
  | returnToOrigin
  | finish (command : Command)
deriving DecidableEq

namespace Line

def text : Line → String
  | .units => "G21 ; Set units to millimeters"
  | .absolute => "G90 ; Absolute positioning"
  | .start c => c.text ++ " ;"
  | .blank => ""
  | .noDrawing => "; No drawing commands recorded"
  | .travel x y => "G0 X" ++ coordinateText x ++ " Y" ++ coordinateText y ++ " ;"
  | .penDown c => c.text ++ " ; Pen down"
  | .draw x y feed =>
    "G1 X" ++ coordinateText x ++ " Y" ++ coordinateText y ++ " F" ++ Number.intText feed ++ " ;"
  | .penUp c => c.text ++ " ; Pen up"
  | .returnToOrigin => "G0 X0 Y0 ; Return to origin"
  | .finish c => c.text ++ " ; End program"

end Line

def programText (lines : List Line) : String := "\n".intercalate (lines.map Line.text)

end PenPlotter
