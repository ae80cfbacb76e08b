import PenPlotter.Files.WriteText
import PenPlotter.Calendar

/-!
# Export

A program as a file.  It is written at once, so a machine that watches the directory never takes up
half a program.
-/

set_option autoImplicit false

namespace PenPlotter

open Files

inductive ExportError where
  | blank
  | write (error : WriteTextError)
deriving DecidableEq, Repr

def ExportError.message : ExportError → String
  | .blank => "G-code program is empty; wait for the drawing to finish"
  | .write e => e.message

def withFinalNewline (text : String) : String :=
  if text.toList.getLast? = some '\n' then text else text ++ "\n"

def exportProgram (s : Store) (text : String) (p : Path) : Store × Except ExportError Unit :=
  if text.toList.all Text.isBlank then (s, .error .blank)
  else
    let (s, r) := writeText s p (withFinalNewline text) "utf-8"
    (s, r.mapError .write)

def defaultFileName (m : Calendar.Moment) : String :=
  "turtletoy-" ++ Number.intText m.date.year ++ "-" ++ Calendar.padded 2 m.date.month ++ "-"
    ++ Calendar.padded 2 m.date.day ++ "T" ++ Calendar.padded 2 m.time.hour ++ "-"
    ++ Calendar.padded 2 m.time.minute ++ "-" ++ Calendar.padded 2 m.time.second ++ ".gcode"

end PenPlotter
