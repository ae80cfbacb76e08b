import PenPlotter.Replay.Instruction
import PenPlotter.Number

/-!
# The replaying machine

A machine that runs a program without hardware.  It follows the tool and the pen, measures what is
drawn and travelled, and notes what a sound program does not do: toggling the pen twice the same
way, drawing with the pen up, travelling with it down.
-/

set_option autoImplicit false

namespace PenPlotter.Replay

/-! ## 1. Violations -/

inductive Place where
  /-- The line of an index; lines are counted from one in messages. -/
  | line (index : Int)
  | text (line : List Char)
deriving DecidableEq, Repr

def Place.shown : Place → String
  | .line index => "line " ++ Number.intText (index + 1)
  | .text s => "'" ++ String.ofList (Text.trim s) ++ "'"

inductive Violation where
  | redundantPenDown (place : Place)
  | redundantPenUp (place : Place)
  | drawWithPenUp (place : Place)
  | travelWithPenDown (place : Place)
  | endsWithPenDown
deriving DecidableEq, Repr

def Violation.message : Violation → String
  | .redundantPenDown place => "Redundant pen down at " ++ place.shown
  | .redundantPenUp place => "Redundant pen up at " ++ place.shown
  | .drawWithPenUp place => "G1 with pen up at " ++ place.shown
  | .travelWithPenDown place => "G0 travel with pen down at " ++ place.shown
  | .endsWithPenDown => "Program ends with the pen down"

/-! ## 2. The machine -/

structure Point where
  x : Double
  y : Double
deriving DecidableEq, Repr

structure Reach where
  minX : Double
  minY : Double
  maxX : Double
  maxY : Double
deriving DecidableEq, Repr

def Reach.nothing : Reach := ⟨.inf false, .inf false, .inf true, .inf true⟩

def Reach.widen (r : Reach) (p : Point) : Reach where
  minX := if p.x < r.minX then p.x else r.minX
  minY := if p.y < r.minY then p.y else r.minY
  maxX := if r.maxX < p.x then p.x else r.maxX
  maxY := if r.maxY < p.y then p.y else r.maxY

structure Machine where
  position : Point
  penDown : Bool
  /-- The feed in force; it stays until the next. -/
  feed : Double
  /-- Whether coordinates count from the origin, and not from the position. -/
  absolute : Bool
  violations : List Violation
  penDowns : Nat
  penUps : Nat
  travels : Nat
  draws : Nat
  drawDistance : Double
  travelDistance : Double
  time : Double
  reach : Reach
  /-- What was drawn: for each lowering of the pen the point where it happened and those drawn to. -/
  paths : List (List Point)
deriving DecidableEq

namespace Machine

def initial : Machine where
  position := ⟨0, 0⟩
  penDown := false
  feed := 0
  absolute := true
  violations := []
  penDowns := 0
  penUps := 0
  travels := 0
  draws := 0
  drawDistance := 0
  travelDistance := 0
  time := 0
  reach := .nothing
  paths := []

instance : Inhabited Machine := ⟨initial⟩

def noteIf (m : Machine) (bad : Bool) (v : Violation) : Machine :=
  if bad then { m with violations := m.violations ++ [v] } else m

inductive Fault where
  | divisionByZero
  | overflow
deriving DecidableEq, Repr

abbrev Outcome := Machine × Option Fault

def wait (m : Machine) (seconds : Except Fault Double) (andThen : Machine → Machine) : Outcome :=
  match seconds with
  | .ok s => (andThen { m with time := m.time + s }, none)
  | .error e => (m, some e)

def penSeconds (setup : Setup) : Except Fault Double :=
  setup.penSeconds.toDouble.mapError fun _ => .overflow

def seconds (distance perMinute : Double) : Except Fault Double :=
  let perSecond := perMinute / 60
  if perSecond.isZero then .error .divisionByZero else .ok (distance / perSecond)

def travelSeconds (setup : Setup) (distance : Double) : Except Fault Double :=
  match setup.travelSpeed.toDouble with
  | .ok speed => seconds distance speed
  | .error _ => .error .overflow

/-- Seconds for drawing a distance; without a feed it takes none. -/
def drawSeconds (m : Machine) (distance : Double) : Except Fault Double :=
  if 0 < m.feed then seconds distance m.feed else .ok 0

def target (m : Machine) (w : Words) : Point :=
  if m.absolute then ⟨w.x?.getD m.position.x, w.y?.getD m.position.y⟩
  else ⟨m.position.x + w.x?.getD 0, m.position.y + w.y?.getD 0⟩

def distance (p q : Point) : Double := (p.x - q.x).hypot (p.y - q.y)

def arrive (p : Point) (m : Machine) : Machine :=
  { m with position := p, reach := m.reach.widen p }

def extendPaths (p : Point) : List (List Point) → List (List Point)
  | [] => []
  | [path] => [path ++ [p]]
  | path :: rest => path :: extendPaths p rest

def step (setup : Setup) (m : Machine) (place : Place) : Instruction → Outcome
  | .none | .other => (m, none)
  | .absolute => ({ m with absolute := true }, none)
  | .relative => ({ m with absolute := false }, none)
  | .penDown =>
    let m := m.noteIf m.penDown (.redundantPenDown place)
    { m with penDown := true, penDowns := m.penDowns + 1 }.wait (penSeconds setup) fun m =>
      { m with paths := m.paths ++ [[m.position]] }
  | .penUp =>
    let m := m.noteIf (!m.penDown) (.redundantPenUp place)
    { m with penDown := false, penUps := m.penUps + 1 }.wait (penSeconds setup) id
  | .draw w =>
    let m := { m with feed := w.feed?.getD m.feed }
    let goal := m.target w
    let length := distance m.position goal
    let m := m.noteIf (!m.penDown) (.drawWithPenUp place)
    { m with draws := m.draws + 1, drawDistance := m.drawDistance + length }.wait
      (m.drawSeconds length) fun m => arrive goal { m with paths := extendPaths goal m.paths }
  | .travel w =>
    let m := { m with feed := w.feed?.getD m.feed }
    let goal := m.target w
    let length := distance m.position goal
    let m := m.noteIf (m.penDown && decide (0 < length)) (.travelWithPenDown place)
    { m with travels := m.travels + 1, travelDistance := m.travelDistance + length }.wait
      (travelSeconds setup length) (arrive goal)

def runLine (setup : Setup) (m : Machine) (place : Place) (line : List Char) : Outcome :=
  m.step setup place (.ofLine setup line)

/-- Runs lines in order, from an index on, up to the first that cannot be run. -/
def runLines (setup : Setup) (m : Machine) (index : Nat) : List (List Char) → Outcome
  | [] => (m, none)
  | line :: rest =>
    match m.runLine setup (.line index) line with
    | (m, none) => m.runLines setup (index + 1) rest
    | (m, some fault) => (m, some fault)

end Machine

end PenPlotter.Replay
