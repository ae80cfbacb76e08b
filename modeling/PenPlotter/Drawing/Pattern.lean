import PenPlotter.Drawing.Turtle

/-!
# Patterns

Drawings that come with the library, each walked by a turtle.
-/

set_option autoImplicit false

namespace PenPlotter

structure Origin where
  x : Number
  y : Number
deriving DecidableEq, Repr

inductive Pattern where
  | polygon (sides : Int) (size : Number) (origin : Origin)
  | star (points : Int) (size : Number) (origin : Origin)
  | spiral (turns : Int) (step angle : Number) (origin : Origin)
  | grid (lines : Int) (size : Number) (origin : Origin)
  | circle (radius : Number) (origin : Origin)
deriving DecidableEq, Repr

namespace Pattern

def square (size : Number) (origin : Origin) : Pattern := .polygon 4 size origin

inductive Error where
  | tooFewSides (sides : Int)
  | badPoints (points : Int)
  | tooFewLines (lines : Int)
  | turtle (error : Turtle.Error)
deriving DecidableEq, Repr

def Error.message : Error → String
  | .tooFewSides n => (Number.int n).mentioned "polygon needs at least 3 sides, got "
  | .badPoints n => (Number.int n).mentioned "star needs an odd number of points >= 5, got "
  | .tooFewLines n => (Number.int n).mentioned "grid needs at least 2 lines, got "
  | .turtle e => e.message

/-! ## 1. Walks -/

def repeatFrom {α : Type} (step : α → Nat → Except Turtle.Error α) (a : α) (first : Nat) :
    Nat → Except Turtle.Error α
  | 0 => .ok a
  | n + 1 => do repeatFrom step (← step a first) (first + 1) n

def exactly (n : Except Overflow Number) : Except Turtle.Error Number :=
  n.mapError fun _ => .overflow

def turtleAt (origin : Origin) : Except Turtle.Error Turtle := do
  return (Turtle.placed 0 0 false).jumpTo (← Turtle.measure origin.x) (← Turtle.measure origin.y)

def sidesOf (n : Nat) (length : Number) (turn : Except Turtle.Error Double)
    (turned : Turtle → Number → Except Turtle.Error Turtle) (t : Turtle) :
    Except Turtle.Error Turtle :=
  repeatFrom (fun t _ => do turned (← t.forward length) (.double (← turn))) t 0 n

def walkSpiral (turns : Int) (step angle : Number) (t : Turtle) : Except Turtle.Error Turtle :=
  repeatFrom (fun t i => do
    let length ← exactly (Number.mul (.int i) step)
    (← t.forward length).right angle) t 1 turns.toNat

def drawLine (t : Turtle) (x1 y1 x2 y2 : Except Overflow Number) : Except Turtle.Error Turtle := do
  let t := t.jumpTo (← Turtle.measure (← exactly x1)) (← Turtle.measure (← exactly y1))
  t.goto (← exactly x2) (← exactly y2)

def walkGrid (lines : Int) (size : Number) (origin : Origin) : Except Turtle.Error Turtle := do
  let pitch ← Turtle.quotient size (.int (lines - 1))
  let offset (i : Nat) : Except Overflow Number := Number.mul (.int i) (.double pitch)
  let x := origin.x
  let y := origin.y
  let t ← repeatFrom (fun t i =>
    let level := do y.add (← offset i)
    drawLine t (.ok x) level (x.add size) level)
    (Turtle.placed 0 0 false) 0 lines.toNat
  repeatFrom (fun t i =>
    let level := do x.add (← offset i)
    drawLine t level (.ok y) level (y.add size)) t 0 lines.toNat

def walk : Pattern → Except Error Turtle
  | .polygon sides size origin =>
    if sides < 3 then .error (.tooFewSides sides)
    else
      ((turtleAt origin).bind (sidesOf sides.toNat size
        (Turtle.quotient (.double 360) (.int sides)) Turtle.left)).mapError .turtle
  | .star points size origin =>
    if points < 5 || points % 2 = 0 then .error (.badPoints points)
    else
      (do
        let t ← turtleAt origin
        let turn := 180 - (← Turtle.quotient (.double 180) (.int points))
        sidesOf points.toNat size (.ok turn) Turtle.right t).mapError .turtle
  | .spiral turns step angle origin =>
    ((turtleAt origin).bind (walkSpiral turns step angle)).mapError .turtle
  | .grid lines size origin =>
    if lines < 2 then .error (.tooFewLines lines)
    else (walkGrid lines size origin).mapError .turtle
  | .circle radius origin =>
    ((turtleAt origin).bind fun t => Turtle.result (t.circle radius (.double 360) none)).mapError
      .turtle

def segments (p : Pattern) : Except Error (List Segment) := p.walk.map Turtle.collected

/-! ## 2. Standard sizes -/

def names : List String := ["square", "polygon", "star", "spiral", "grid", "circle"]

def unitsOf (n : Int) : Number := .double (.ofInt n)

def named? (name : String) : Option Pattern :=
  if name = "square" then some (square (unitsOf 100) ⟨unitsOf (-50), unitsOf 50⟩)
  else if name = "polygon" then some (.polygon 6 (unitsOf 80) ⟨unitsOf (-40), unitsOf 40⟩)
  else if name = "star" then some (.star 5 (unitsOf 150) ⟨unitsOf (-75), unitsOf 25⟩)
  else if name = "spiral" then
    some (.spiral 40 (unitsOf 4) (unitsOf 91) ⟨unitsOf 0, unitsOf 0⟩)
  else if name = "grid" then some (.grid 5 (unitsOf 160) ⟨unitsOf (-80), unitsOf (-80)⟩)
  else if name = "circle" then some (.circle (unitsOf 60) ⟨unitsOf 0, unitsOf 60⟩)
  else none

end Pattern

end PenPlotter
