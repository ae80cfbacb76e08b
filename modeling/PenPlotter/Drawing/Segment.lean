import PenPlotter.Value.Text

/-!
# Segments

A segment is one straight pen-down stroke in drawing space, where `y` grows downwards.  A drawing
reports its segments one by one; a `History` keeps them in the order of arrival.
-/

set_option autoImplicit false

namespace PenPlotter

structure Segment where
  x1 : Number
  y1 : Number
  x2 : Number
  y2 : Number
deriving DecidableEq, Repr

namespace Segment

instance : Inhabited Segment := ⟨⟨0, 0, 0, 0⟩⟩

def start (s : Segment) : Number × Number := (s.x1, s.y1)

def finish (s : Segment) : Number × Number := (s.x2, s.y2)

def coordinates (s : Segment) : List Number := [s.x1, s.y1, s.x2, s.y2]

def length (s : Segment) : Except Overflow Double := do
  let dx ← s.x2.sub s.x1
  let dy ← s.y2.sub s.y1
  return (← dx.toDouble).hypot (← dy.toDouble)

def isWritable (s : Segment) : Bool := s.coordinates.all Number.isWritable

def text (s : Segment) : String :=
  "Segment(x1=" ++ s.x1.text ++ ", y1=" ++ s.y1.text ++ ", x2=" ++ s.x2.text ++ ", y2="
    ++ s.y2.text ++ ")"

/-! ## Reading an entry -/

inductive Fault where
  | missing (names : List String) (entry : Value)
  | count (length : Nat)
  | unsupported (entry : Value)
  | notNumber (coordinate : Value)
  /-- A coordinate is an integer too large for a double. -/
  | overflow
deriving Repr

def Fault.message (room : Nat) : Fault → Except NoText String
  | .missing names entry => do
    let shown ← entry.shown room
    return "segment mapping is missing " ++ ", ".intercalate names ++ ": " ++ shown
  | .count length => .ok ("segment needs 4 values [x1, y1, x2, y2], got " ++ Number.intText length)
  | .unsupported entry => do return "unsupported segment entry: " ++ (← entry.shown room)
  | .notNumber coordinate => do
    return "segment coordinate must be a number, got " ++ (← coordinate.shown room)
  | .overflow => .ok "int too large to convert to float"

inductive Error where
  | format (message : String)
  /-- A coordinate is an integer too large for a double. -/
  | overflow
  | noText (reason : NoText)
deriving DecidableEq, Repr

def Error.message : Error → String
  | .format message => message
  | .overflow => "int too large to convert to float"
  | .noText reason => reason.message

def Fault.error (room : Nat) : Fault → Error
  | .overflow => .overflow
  | fault =>
    match fault.message room with
    | .ok message => .format message
    | .error reason => .noText reason

def names : List String := ["x1", "y1", "x2", "y2"]

def valuesOf (entry : Value) : Except Fault (List Value) :=
  match entry with
  | .mapping _ =>
    let missing := names.filter fun k => (entry.get? k).isNone
    if missing.isEmpty then .ok (names.filterMap entry.get?) else .error (.missing missing entry)
  | .list items | .tuple items =>
    if items.length = 4 then .ok (entry.items?.getD []) else .error (.count items.length)
  | .bytes bs =>
    if bs.length = 4 then .ok (bs.map fun b => .number (.int b.toNat)) else .error (.count bs.length)
  | _ => .error (.unsupported entry)

def coordinateOf : Value → Except Fault Number
  | .number n => .ok n
  | v => .error (.notNumber v)

def rounded (n : Number) : Except Fault Number :=
  match n.toDouble with
  | .ok x => .ok (.double x)
  | .error _ => .error .overflow

def ofEntry (entry : Value) : Except Fault Segment := do
  let numbers ← (← valuesOf entry).mapM coordinateOf
  match ← numbers.mapM rounded with
  | [x1, y1, x2, y2] => return ⟨x1, y1, x2, y2⟩
  | other => throw (.count other.length)

def ofValue (room : Nat) (entry : Value) : Except Error Segment :=
  (ofEntry entry).mapError (Fault.error room)

end Segment

/-! ## History -/

structure History where
  segments : List Segment
deriving DecidableEq, Repr

namespace History

def empty : History := ⟨[]⟩

def record (h : History) (s : Segment) : History := ⟨h.segments ++ [s]⟩

def size (h : History) : Nat := h.segments.length

@[simp] theorem segments_record (h : History) (s : Segment) :
    (h.record s).segments = h.segments ++ [s] := rfl

@[simp] theorem size_record (h : History) (s : Segment) : (h.record s).size = h.size + 1 := by
  simp [size]

end History

end PenPlotter
