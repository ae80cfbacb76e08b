import PenPlotter.CommandLine.Run
import Std.Time.DateTime.Timestamp

/-!
# The command

Brings the files that the command line names to a desk, runs the command there, and carries out what
has changed.
-/

set_option autoImplicit false

open PenPlotter PenPlotter.Files PenPlotter.CommandLine

def namedPaths (r : Request) : List Path :=
  let path (g : Given String) : List Path := g.value?.toList.map Path.ofText
  let output := path r.output
  let beside := output.filterMap fun p => (p.withSuffix (p.suffix ++ besideSuffix)).toOption
  path r.config ++ path r.segments ++ output ++ beside ++ path r.logFile

def placesAlong (here : Place) (p : Path) : List Place :=
  let ends := (List.range (p.parts.length + 1)).map fun n =>
    (Log.basePath here { p with parts := p.parts.take n }).parts
  ends.flatMap fun place => (List.range place.length).map fun n => place.take (n + 1)

def textOf (place : Place) : String := "/" ++ "/".intercalate place

def readPlace (place : Place) : IO (Option (Option (List UInt8))) := do
  let file := (← IO.currentDir) / textOf place
  try
    match (← file.metadata).type with
    | .dir => return some none
    | _ => return some (some (← IO.FS.readBinFile file).data.toList)
  catch _ => return none

def readStore (here : Place) (places : List Place) : IO Store := do
  let mut directories : List Place := []
  let mut files : List (Place × List UInt8) := []
  for place in places do
    match ← readPlace place with
    | none => pure ()
    | some none => directories := directories ++ [place]
    | some (some bytes) => files := files ++ [(place, bytes)]
  return .plain here directories files

def writePlace (place : Place) (bytes : List UInt8) : IO Unit := do
  let file := (← IO.currentDir) / textOf place
  let beside := file.addExtension "tmp"
  IO.FS.writeBinFile beside ⟨bytes.toArray⟩
  IO.FS.rename beside file

def carryOut (before after : Store) : IO Unit := do
  for (place, e) in before.entries do
    if e ≠ .directory && (after.entryAt? place).isNone then IO.FS.removeFile (textOf place)
  for (place, e) in after.entries do
    if e = .directory && (before.entryAt? place).isNone then IO.FS.createDirAll (textOf place)
  for (place, e) in after.entries do
    if let .file number := e then
      let kept := before.entryAt? place = some e && before.content number = after.content number
      unless kept do writePlace place (after.content number)

def readClock : IO Double := do
  let t ← Std.Time.Timestamp.now
  return .ofDecimal false t.toNanosecondsSinceUnixEpoch.val.toNat (-9)

def usageText : String :=
  "usage: compile_program (" ++ " | ".intercalate
      ([Parameter.segments, .pattern].map Parameter.label) ++ ") [options]\noptions: "
    ++ " ".intercalate (Parameter.all.map Parameter.label) ++ "\npatterns: "
    ++ ", ".intercalate Pattern.names

def main (arguments : List String) : IO UInt32 := do
  let here := (Path.ofText (← IO.currentDir).toString).parts
  let places : List Place :=
    match Request.ofArguments arguments with
    | .ok r => ((namedPaths r).flatMap (placesAlong here)).eraseDups
    | .error _ => []
  let files ← readStore here places
  -- The command lays records out for people, who are not shown the number of a process.
  let o := run files .standard (← readClock) arguments
  carryOut files o.desk.files
  IO.eprint o.desk.console
  IO.print o.desk.output
  match o.ending with
  | .exit code => return code.toUInt32
  | .usage .helpWanted =>
    IO.println usageText
    return 0
  | .usage e =>
    IO.eprintln e.report
    return 2
  | .crash e =>
    IO.eprintln e.message
    return 1
