import PenPlotter.Drawing.Segment
import PenPlotter.Files.Document

/-!
# Segment files

A drawing as a file: a list of segments, or a mapping with such a list under the name `segments`.
-/

set_option autoImplicit false

namespace PenPlotter

open Files

inductive DrawingError where
  | document (error : DocumentError)
  | noSegments (path : String)
  | notList (path typeName : String)
  | entry (path : String) (index : Nat) (error : Segment.Error)

def DrawingError.message : DrawingError → String
  | .document e => e.message
  | .noSegments path => path ++ ": mapping has no 'segments' key"
  | .notList path typeName => path ++ ": expected a list of segments, got " ++ typeName
  | .entry path index (.format message) =>
    path ++ ": entry " ++ Number.intText index ++ ": " ++ message
  | .entry _ _ e => e.message

def drawingEntries (path : String) (v : Value) : Except DrawingError (List Value) :=
  let entriesOf (v : Value) : Except DrawingError (List Value) :=
    match v with
    | .list _ => .ok (v.items?.getD [])
    | v => .error (.notList path v.typeName)
  match v with
  | .null => .ok []
  | .mapping _ =>
    match v.get? "segments" with
    | none => .error (.noSegments path)
    | some segments => if segments.isVoid then .ok [] else entriesOf segments
  | v => entriesOf v

def segmentsOf (room : Nat) (path : String) (index : Nat) :
    List Value → Except DrawingError (List Segment)
  | [] => .ok []
  | entry :: rest => do
    let s ← (Segment.ofValue room entry).mapError (.entry path index)
    return s :: (← segmentsOf room path (index + 1) rest)

def readDrawing (files : Store) (p : Runtime) (path : Path) : Except DrawingError (List Segment) := do
  let v ← (files.readValue p path).mapError .document
  segmentsOf p.room path.text 0 (← drawingEntries path.text v)

end PenPlotter
