/-!
# Parameters

What can be set on the command line.
-/

set_option autoImplicit false

namespace PenPlotter.CommandLine

inductive Parameter where
  | help
  | segments
  | pattern
  | config
  | profile
  | penUp
  | penDown
  | feedRate
  | start
  | finish
  | scale
  | output
  | stdout
  | check
  | logLevel
  | logFile
deriving DecidableEq, Repr

namespace Parameter

def all : List Parameter :=
  [.help, .segments, .pattern, .config, .profile, .penUp, .penDown, .feedRate, .start, .finish,
    .scale, .output, .stdout, .check, .logLevel, .logFile]

/-- The names of a parameter; those with one dash have one letter. -/
def names : Parameter → List String
  | .help => ["-h", "--help"]
  | .segments => ["--segments", "-s"]
  | .pattern => ["--pattern", "-p"]
  | .config => ["--config", "-c"]
  | .profile => ["--profile"]
  | .penUp => ["--pen-up"]
  | .penDown => ["--pen-down"]
  | .feedRate => ["--feed-rate"]
  | .start => ["--start"]
  | .finish => ["--end"]
  | .scale => ["--scale"]
  | .output => ["--output", "-o"]
  | .stdout => ["--stdout"]
  | .check => ["--check"]
  | .logLevel => ["--log-level"]
  | .logFile => ["--log-file"]

def label (p : Parameter) : String := "/".intercalate p.names

def takesValue : Parameter → Bool
  | .help | .stdout | .check => false
  | _ => true

def table : List (String × Parameter) := all.flatMap fun p => p.names.map (·, p)

def named? (name : String) : Option Parameter := (table.find? (·.1 = name)).map (·.2)

end Parameter

end PenPlotter.CommandLine
