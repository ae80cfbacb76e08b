import PenPlotter.Drawing.Segment
import PenPlotter.Double.Angle

/-!
# The turtle

A turtle walks over drawing space with a pen.  Its heading is in degrees, zero along `x`; turning
right makes it grow, which is clockwise since `y` grows downwards.  Every move with the pen down is
a line, which the turtle either collects or reports to a listener.
-/

set_option autoImplicit false

namespace PenPlotter

structure Turtle where
  x : Double
  y : Double
  heading : Double
  penDown : Bool
  /-- Whether somebody listens; lines are then reported and not collected. -/
  heard : Bool
  collected : List Segment
  reported : List Segment

namespace Turtle

inductive Error where
  /-- An integer is too large for a double, or a count of steps has no end. -/
  | overflow
  | divisionByZero
  | stepsNotANumber
  | stepsNotInteger
  /-- An infinite angle has no direction. -/
  | infiniteAngle
deriving DecidableEq, Repr

def Error.message : Error → String
  | .overflow => "int too large to convert to float"
  | .divisionByZero => "division by zero"
  | .stepsNotANumber => "cannot convert float NaN to integer"
  | .stepsNotInteger => "'float' object cannot be interpreted as an integer"
  | .infiniteAngle => "math domain error"

def measure (n : Number) : Except Error Double :=
  match n.toDouble with
  | .ok x => .ok x
  | .error _ => .error .overflow

def quotient (m n : Number) : Except Error Double :=
  match m.div n with
  | .ok x => .ok x
  | .error .byZero => .error .divisionByZero
  | .error .overflow => .error .overflow

def placed (x y : Double) (heard : Bool) : Turtle := ⟨x, y, 0, true, heard, [], []⟩

def start (x y : Number) (heard : Bool) : Except Error Turtle := do
  return placed (← measure x) (← measure y) heard

/-! ## 1. Moves -/

def line (t : Turtle) (s : Segment) : Turtle :=
  if t.heard then { t with reported := t.reported ++ [s] }
  else { t with collected := t.collected ++ [s] }

def moveTo (t : Turtle) (x y : Double) : Turtle :=
  let t := if t.penDown then t.line ⟨.double t.x, .double t.y, .double x, .double y⟩ else t
  { t with x, y }

def goto (t : Turtle) (x y : Number) : Except Error Turtle := do
  return t.moveTo (← measure x) (← measure y)

def jumpTo (t : Turtle) (x y : Double) : Turtle :=
  { { t with penDown := false }.moveTo x y with penDown := t.penDown }

def forward (t : Turtle) (distance : Number) : Except Error Turtle := do
  let angle := t.heading.radians
  match angle.cosine?, angle.sine? with
  | some c, some s =>
    let d ← measure distance
    return t.moveTo (t.x + c * d) (t.y + s * d)
  | _, _ => throw .infiniteAngle

def fullTurn : Double := 360

def right (t : Turtle) (angle : Number) : Except Error Turtle := do
  return { t with heading := (t.heading + (← measure angle)).modulo fullTurn }

def left (t : Turtle) (angle : Number) : Except Error Turtle := do
  return { t with heading := (t.heading - (← measure angle)).modulo fullTurn }

def setHeading (t : Turtle) (angle : Number) : Except Error Turtle := do
  return { t with heading := (← measure angle).modulo fullTurn }

def home (t : Turtle) : Turtle := { t.moveTo 0 0 with heading := 0 }

/-! ## 2. Arcs -/

/-- How many chords an arc gets: more for a larger radius, up to sixty for a full circle. -/
def chordCount (radius extent : Number) : Except Error Int := do
  let share ← quotient extent.abs (.double 360)
  let full := 11 + (← quotient radius.abs (.double 6))
  let full := if (59 : Double) < full then 59 else full
  match (full * share).truncate? with
  | some n => return 1 + n
  | none => throw (if (full * share).isNaN then .stepsNotANumber else .overflow)

structure Arc where
  steps : Number
  chord : Double
  turn : Double
  half : Double

-- The centre lies to the left, or to the right for a negative radius.
def arcOf (radius extent steps : Number) : Except Error Arc := do
  let turn ← quotient extent steps
  let half := .ofDecimal false 5 (-1) * turn
  let diameter := 2 * (← measure radius)
  match half.radians.sine? with
  | none => throw .infiniteAngle
  | some s =>
    let chord := diameter * s
    return if radius < 0 then ⟨steps, -chord, -turn, -half⟩ else ⟨steps, chord, turn, half⟩

def arc (radius extent : Number) (steps : Option Number) : Except Error Arc := do
  arcOf radius extent (← steps.elim ((chordCount radius extent).map .int) pure)

def chords (t : Turtle) (chord turn : Double) : Nat → Except Error Turtle
  | 0 => .ok t
  | n + 1 => do
    let t ← t.forward (.double chord)
    let t ← t.left (.double turn)
    t.chords chord turn n

def along (t : Turtle) (a : Arc) (steps : Nat) : Except Error Turtle := do
  let t ← t.left (.double a.half)
  let t ← t.chords a.chord a.turn steps
  t.right (.double a.half)

def facing (t : Turtle) (a : Arc) : Turtle :=
  { t with heading := (t.heading - a.half).modulo fullTurn }

/-! ## 3. Whatever a turtle is told -/

inductive Move where
  | penUp
  | penDown
  | forward (distance : Number)
  | backward (distance : Number)
  | right (angle : Number)
  | left (angle : Number)
  | setHeading (angle : Number)
  | goto (x y : Number)
  | jump (x y : Number)
  | home
  | circle (radius extent : Number) (steps : Option Number)
deriving DecidableEq, Repr

abbrev Outcome := Turtle × Option Error

def orElse (t : Turtle) : Except Error Turtle → Outcome
  | .ok t' => (t', none)
  | .error e => (t, some e)

/-- The turtle that an outcome gives, unless it could not do all. -/
def result : Outcome → Except Error Turtle
  | (t, none) => .ok t
  | (_, some e) => .error e

-- Only once the turtle has turned to the first chord does it matter that their number is no integer.
def circle (t : Turtle) (radius extent : Number) (steps : Option Number) : Outcome :=
  match arc radius extent steps with
  | .error e => (t, some e)
  | .ok a =>
    match a.steps with
    | .int n => t.orElse (t.along a n.toNat)
    | .double _ => (t.facing a, some .stepsNotInteger)

/-- Does as told.  A jump lifts the pen first, and it stays up if there is nowhere to jump to. -/
def perform (t : Turtle) : Move → Outcome
  | .penUp => ({ t with penDown := false }, none)
  | .penDown => ({ t with penDown := true }, none)
  | .forward d => t.orElse (t.forward d)
  | .backward d => t.orElse (t.forward d.neg)
  | .right a => t.orElse (t.right a)
  | .left a => t.orElse (t.left a)
  | .setHeading a => t.orElse (t.setHeading a)
  | .goto x y => t.orElse (t.goto x y)
  | .jump x y =>
    let lifted := { t with penDown := false }
    lifted.orElse ((lifted.goto x y).map fun t' => { t' with penDown := t.penDown })
  | .home => (t.home, none)
  | .circle radius extent steps => t.circle radius extent steps

end Turtle

end PenPlotter
