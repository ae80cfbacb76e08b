import PenPlotter.Replay.Machine
import PenPlotter.Settings.Basic
import PenPlotter.Files.Store

/-!
# Reports

What a replay of a whole program finds out.
-/

set_option autoImplicit false

namespace PenPlotter.Replay

structure Report where
  bounds : Option Reach
  penDowns : Nat
  penUps : Nat
  travels : Nat
  draws : Nat
  drawDistance : Double
  travelDistance : Double
  time : Double
  endsPenUp : Bool
  finish : Point
  violations : List Violation
deriving DecidableEq

def Report.ofMachine (m : Machine) : Report where
  bounds := if m.reach.minX ≤ m.reach.maxX then some m.reach else none
  penDowns := m.penDowns
  penUps := m.penUps
  travels := m.travels
  draws := m.draws
  drawDistance := m.drawDistance
  travelDistance := m.travelDistance
  time := m.time
  endsPenUp := !m.penDown
  finish := m.position
  violations := m.violations

inductive Error where
  | noProgram
  | fault (fault : Machine.Fault)
deriving DecidableEq, Repr

def Error.message : Error → String
  | .noProgram => "No G-code loaded, call load_file() or load_string() first"
  | .fault .divisionByZero => "float division by zero"
  | .fault .overflow => "int too large to convert to float"

inductive FileError where
  | missing (path : String)
  | text (error : Files.Store.TextError)
deriving DecidableEq, Repr

def FileError.message : FileError → String
  | .missing path => "G-code file not found: " ++ path
  | .text (.file e) => e.message
  | .text .notText => "invalid text"

structure Replayer where
  setup : Setup
  lines : List (List Char)
  machine : Machine

namespace Replayer

def new (setup : Setup) : Replayer := ⟨setup, [], .initial⟩

def load (r : Replayer) (program : String) : Replayer :=
  { r with lines := Text.splitLines program.toList }

def loadFile (r : Replayer) (files : Files.Store) (p : Files.Path) : Except FileError Replayer := do
  if ← (files.exists? p).mapError (.text ∘ .file) then
    return r.load (← (files.readText p).mapError .text)
  else throw (.missing p.text)

def reset (r : Replayer) : Replayer := { r with machine := .initial }

def runLine (r : Replayer) (place : Place) (line : String) : Replayer × Option Machine.Fault :=
  let (machine, fault) := r.machine.runLine r.setup place line.toList
  ({ r with machine }, fault)

def run (r : Replayer) : Replayer × Except Error Report :=
  if r.lines.isEmpty then (r, .error .noProgram)
  else
    match Machine.initial.runLines r.setup 0 r.lines with
    | (machine, some fault) => ({ r with machine }, .error (.fault fault))
    | (machine, none) =>
      let machine := machine.noteIf machine.penDown .endsWithPenDown
      ({ r with machine }, .ok (.ofMachine machine))

inductive Operation where
  | load (program : String)
  | loadFile (files : Files.Store) (p : Files.Path)
  | runLine (place : Place) (line : String)
  | reset
  | run

inductive Failure where
  | file (error : FileError)
  | replay (error : Error)
deriving DecidableEq, Repr

abbrev Answer := Except Failure (Option Report)

def perform (r : Replayer) : Operation → Replayer × Answer
  | .load program => (r.load program, .ok none)
  | .loadFile files p =>
    match r.loadFile files p with
    | .ok r => (r, .ok none)
    | .error e => (r, .error (.file e))
  | .runLine place line =>
    match r.runLine place line with
    | (r, none) => (r, .ok none)
    | (r, some fault) => (r, .error (.replay (.fault fault)))
  | .reset => (r.reset, .ok none)
  | .run =>
    match r.run with
    | (r, .ok report) => (r, .ok (some report))
    | (r, .error e) => (r, .error (.replay e))

end Replayer

def Replayer.of (settings : Settings) (program : String) (travelSpeed : Number) : Replayer :=
  let setup := { Setup.standard settings.penUp.text settings.penDown.text with travelSpeed }
  (Replayer.new setup).load program

def check (settings : Settings) (program : String) (travelSpeed : Number) : Except Error Report :=
  (Replayer.of settings program travelSpeed).run.2

end PenPlotter.Replay
