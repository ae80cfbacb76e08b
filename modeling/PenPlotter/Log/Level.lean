import PenPlotter.Number

/-!
# Levels

How grave a record is.  Every whole number is a level; some have names.
-/

set_option autoImplicit false

namespace PenPlotter.Log

structure Level where
  weight : Int
deriving DecidableEq, Repr

namespace Level

def unset : Level := ⟨0⟩

def debug : Level := ⟨10⟩

def info : Level := ⟨20⟩

def warning : Level := ⟨30⟩

def error : Level := ⟨40⟩

def critical : Level := ⟨50⟩

/-- The name of a level; a level without one is shown by its number. -/
def name (l : Level) : String :=
  if l = critical then "CRITICAL"
  else if l = error then "ERROR"
  else if l = warning then "WARNING"
  else if l = info then "INFO"
  else if l = debug then "DEBUG"
  else if l = unset then "NOTSET"
  else "Level " ++ Number.intText l.weight

def named? : String → Option Level
  | "CRITICAL" | "FATAL" => some critical
  | "ERROR" => some error
  | "WARNING" | "WARN" => some warning
  | "INFO" => some info
  | "DEBUG" => some debug
  | "NOTSET" => some unset
  | _ => none

end Level

end PenPlotter.Log
