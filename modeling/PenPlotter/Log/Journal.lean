import PenPlotter.Log.Handler
import PenPlotter.Text.Upper

/-!
# Journals

A journal takes records from all parts of a program: it leaves out those below its level, and gives
the others with its context to its handlers.  Setting it up replaces the handlers of the setup
before, so however often that happens no record is written twice.
-/

set_option autoImplicit false

namespace PenPlotter.Log

open Files

structure Journal where
  level : Level
  context : Context
  attached : List Handler
  installed : List Handler
  /-- The files that handlers have open, by the numbers of the handlers. -/
  streams : List (Nat × Stream)
  next : Nat

namespace Journal

/-- A journal without handlers, which takes warnings and graver records. -/
def initial : Journal := ⟨.warning, [], [], [], [], 0⟩

/-! ## 1. Level and context -/

/-- Sets the level by name, in capitals or not; an unknown name changes nothing. -/
def setLevel (j : Journal) (name : String) : Option Journal :=
  (Level.named? (Text.upper name)).map fun level => { j with level }

def push (j : Journal) (entries : List (String × Value)) : Journal :=
  { j with context := j.context.push entries }

def pop (j : Journal) (names : Option (List String)) : Journal :=
  { j with context := (names.map j.context.pop).getD [] }

/-! ## 2. Setting up -/

structure Setup where
  level : String
  logFile : Option String
  json : Bool
  coloured : Bool
  console : Bool
  rotation : Value
  clock : Calendar.Clock
  context : Value
  terminal : Bool

def Setup.standard : Setup := ⟨"INFO", none, false, true, true, .null, .universal, .null, false⟩

inductive SetupError where
  /-- What a file of the last setup could not take is lost when it is closed. -/
  | closing (reason : Refusal)
  | unknownLevel (name : String)
  | file (error : Files.Error)
  | unknownRotation (mode : String)
  | modeNotShown (reason : NoText)
  | unknownTimes (times : String)
  | noWeekday (times : String)
  | unknownWeekday (times : String)
  | wrongType
  /-- The rotation is no mapping, or its times are no text. -/
  | noSuchPart
  /-- The context is no mapping with texts as keys. -/
  | contextNotNamed
deriving DecidableEq, Repr

def SetupError.message : SetupError → String
  | .closing reason => reason.text
  | .unknownLevel name => "no level is called " ++ name
  | .file e => e.message
  | .unknownRotation mode => "Unknown rotation mode: " ++ mode ++ ". Use 'size' or 'time'."
  | .modeNotShown reason => reason.message
  | .unknownTimes times => "Invalid rollover interval specified: " ++ times
  | .noWeekday times =>
    "You must specify a day for weekly rollover from 0 to 6 (0 is Monday): " ++ times
  | .unknownWeekday times => "Invalid day specified for weekly rollover: " ++ times
  | .wrongType => "a number is expected"
  | .noSuchPart => "the rotation lacks a part"
  | .contextNotNamed => "keywords must be strings"

/-- Checks the times at which a file is changed: every second, minute, hour or day, at midnight, or
on a weekday from `W0` to `W6`. -/
def checkTimes (times : String) : Except SetupError Unit :=
  if ["S", "M", "H", "D", "MIDNIGHT"].contains times then .ok ()
  else
    match times.toList with
    | ['W', day] => if '0' ≤ day ∧ day ≤ '6' then .ok () else .error (.unknownWeekday times)
    | 'W' :: _ => .error (.noWeekday times)
    | _ => .error (.unknownTimes times)

/-- How a file is changed, from the entries that say so: at a size or at times.  What can be checked
before the file is opened comes first; the rest is checked when it is open. -/
structure RotationPlan where
  rotation : Rotation
  afterOpening : Except SetupError Unit

def planRotation (room : Nat) (entries : List (Value × Value)) : Except SetupError RotationPlan :=
  let get (key : String) (standard : Value) : Value :=
    (Value.find? entries (.text key)).getD standard
  let mode := get "mode" (.text "size")
  match mode with
  | .text "size" =>
    let limit := get "max_bytes" (.number (.int 5000000))
    if limit.asNumber?.isNone then .error .wrongType
    else .ok ⟨.atSize limit (get "backup_count" (.number (.int 5))), .ok ()⟩
  | .text "time" =>
    let backups := get "backup_count" (.number (.int 7))
    match get "when" (.text "D") with
    | .text times =>
      let times := Text.upper times
      let interval := get "interval" (.number (.int 1))
      let check : Except SetupError Unit := do
        checkTimes times
        if interval.asNumber?.isNone then throw .wrongType
      .ok ⟨.atTimes times backups, check⟩
    | _ => .ok ⟨.never, .error .noSuchPart⟩
  | mode =>
    match mode.display room with
    | .ok mode => .error (.unknownRotation mode)
    | .error reason => .error (.modeNotShown reason)

def planOf (room : Nat) (rotation : Value) : Except SetupError RotationPlan :=
  if rotation.isVoid then .ok ⟨.never, .ok ()⟩
  else
    match rotation.entries? with
    | some entries => planRotation room entries
    | none => .error .noSuchPart

def stream? (j : Journal) (h : Handler) : Option Stream :=
  (j.streams.find? (·.1 = h.number)).map (·.2)

def putStream (j : Journal) (h : Handler) (stream : Option Stream) : Journal :=
  { j with
    streams := stream.toList.map (h.number, ·) ++ j.streams.filter (·.1 ≠ h.number) }

def install (j : Journal) (formatter : Formatter) (sink : Sink) (stream : Option Stream) : Journal :=
  let h : Handler := ⟨j.next, formatter, sink⟩
  { j.putStream h stream with
    attached := j.attached ++ [h]
    installed := j.installed ++ [h]
    next := j.next + 1 }

/-- Closes the file of a handler, which fails if there are bytes that it cannot take. -/
def close (j : Journal) (s : Store) (h : Handler) : Journal × Store × Option Refusal :=
  match j.stream? h with
  | none => (j, s, none)
  | some st =>
    let (s, _, refusal) := st.flush s
    (j.putStream h none, s, refusal)

/-- Takes handlers away and closes their files, up to the first that cannot be closed. -/
def dismiss (j : Journal) (s : Store) : List Handler → Journal × Store × Option Refusal
  | [] => ({ j with installed := [] }, s, none)
  | h :: rest =>
    let j := { j with attached := j.attached.filter (·.number ≠ h.number) }
    match j.close s h with
    | (j, s, some reason) => (j, s, some reason)
    | (j, s, none) => j.dismiss s rest

def openFile (s : Store) (room : Nat) (path : String) (rotation : Value) :
    Store × Except SetupError (Path × Rotation × Stream) :=
  let p := Path.ofText path
  match ensureDirectory s p.parent with
  | (s, .error e) => (s, .error (.file e))
  | (s, .ok ()) =>
    match planOf room rotation with
    | .error e => (s, .error e)
    | .ok plan =>
      let base := basePath s.here p
      match openStream s base with
      | (s, .error e) => (s, .error (.file e))
      | (s, .ok st) =>
        match plan.afterOpening with
        | .error e => (s, .error e)
        | .ok () => (s, .ok (base, plan.rotation, st))

def installFile (j : Journal) (s : Store) (room : Nat) (o : Setup) :
    Journal × Store × Except SetupError Unit :=
  match o.logFile with
  | none => (j, s, .ok ())
  | some path =>
    if path.isEmpty then (j, s, .ok ())
    else
      match openFile s room path o.rotation with
      | (s, .error e) => (j, s, .error e)
      | (s, .ok (base, rotation, st)) =>
        let layout := if o.json then Layout.json else .human false
        (j.install ⟨layout, o.clock⟩ (.file base rotation) st, s, .ok ())

def pushValue (j : Journal) (context : Value) : Except SetupError Journal :=
  if context.isVoid then .ok j
  else
    match context.entries?.bind Context.ofEntries? with
    | some entries => .ok (j.push entries)
    | none => .error .contextNotNamed

/-- Sets a journal up without its former handlers: level, console, file and context are set in turn, up
to the first that fails.  Gives the handlers that were made. -/
def setupAnew (j : Journal) (s : Store) (room : Nat) (o : Setup) :
    Journal × Store × Except SetupError (List Handler) :=
  match j.setLevel o.level with
  | none => (j, s, .error (.unknownLevel o.level))
  | some j =>
    let j :=
      if o.console then j.install ⟨.human (o.coloured && o.terminal), o.clock⟩ .console none else j
    match j.installFile s room o with
    | (j, s, .error e) => (j, s, .error e)
    | (j, s, .ok ()) =>
      match j.pushValue o.context with
      | .error e => (j, s, .error e)
      | .ok j => (j, s, .ok j.installed)

/-- Sets a journal up.  The handlers of the last setup go first; one that cannot be closed ends the
setup. -/
def setup (j : Journal) (s : Store) (room : Nat) (o : Setup) :
    Journal × Store × Except SetupError (List Handler) :=
  match j.dismiss s j.installed with
  | (j, s, some reason) => (j, s, .error (.closing reason))
  | (j, s, none) => j.setupAnew s room o

/-! ## 3. Records -/

def takes (j : Journal) (level : Level) : Bool :=
  0 < level.weight && j.level.weight ≤ level.weight

abbrev Written := Journal × Store × String

def writeWith (p : Runtime) (r : Record) (w : Written) (h : Handler) : Written :=
  let (j, s, shown) := w
  let (s, stream, more) := h.write (j.stream? h) s p j.context r
  (j.putStream h stream, s, shown ++ more)

def write (j : Journal) (s : Store) (p : Runtime) (r : Record) : Written :=
  if j.takes r.level then j.attached.foldl (writeWith p r) (j, s, "") else (j, s, "")

def lastLogger : String := "turtle_plotter.utils.logging_config"

def unhandled? (process : Int) (created : Double) (f : Failure) : Option Record :=
  if f.kind = "KeyboardInterrupt" then none
  else some ⟨lastLogger, .critical, process, created, "Uncaught exception", [], some f⟩

end Journal

end PenPlotter.Log
