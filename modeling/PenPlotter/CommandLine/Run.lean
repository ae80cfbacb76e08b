import PenPlotter.CommandLine.Desk
import PenPlotter.CommandLine.Request
import PenPlotter.Drawing.File
import PenPlotter.Program.Draft
import PenPlotter.Program.Export
import PenPlotter.Replay.Report
import PenPlotter.Settings.Profiles

/-!
# Running the command

The command reads settings and a drawing, compiles the drawing, checks the program if asked to, and
delivers it.  It ends with exit code 0 if all that works and with 1 if it fails in a way that it
reports; what it does not expect ends it without an exit code.
-/

set_option autoImplicit false

namespace PenPlotter.CommandLine

open Files

/-! ## 1. Endings -/

inductive Crash where
  | setup (error : Log.Journal.SetupError)
  | profile (error : ProfileError)
  | drawing (error : DrawingError)
  | pattern (error : Pattern.Error)
  | compile (error : CompileError)
  | replay (error : Replay.Error)
  | delivery (error : ExportError)
  | clock (error : Calendar.InstantError)
  | noPath

def Crash.message : Crash → String
  | .setup e => e.message
  | .profile e => e.message
  | .drawing e => e.message
  | .pattern e => e.message
  | .compile e => e.message
  | .replay e => e.message
  | .delivery e => e.message
  | .clock e => e.message
  | .noPath => "a path is missing"

inductive Stop where
  | failed (message : String)
  | reported
  | crash (error : Crash)

inductive Ending where
  | exit (code : Nat)
  | usage (error : UsageError)
  | crash (error : Crash)

structure Outcome where
  ending : Ending
  desk : Desk

def saysMissing : Store.TextError → Bool
  | .file (.obstacle .missing _) => true
  | _ => false

def isReported : DocumentError → Bool
  | .missing _ | .malformed _ => true
  | .text e => saysMissing e
  | .value _ => false

def stopForProfile (e : ProfileError) : Stop :=
  let reported : Bool :=
    match e with
    | .document d => isReported d
    | .namesNotText | .nameNotKey | .nameNotShown _ => false
    | _ => true
  if reported then .failed e.message else .crash (.profile e)

def stopForDrawing (e : DrawingError) : Stop :=
  let reported : Bool :=
    match e with
    | .document d => isReported d
    | .entry _ _ (.format _) => true
    | .entry _ _ _ => false
    | _ => true
  if reported then .failed e.message else .crash (.drawing e)

def stopForCompile (e : CompileError) : Stop :=
  match e with
  | .notFinite _ => .failed e.message
  | _ => .crash (.compile e)

def stopForRejection (rs : List Rejection) : Stop := .failed (rejectionMessage rs)

/-- Whether the command reports a failed export: the file cannot be written, but its path can be
one. -/
def isReportedExport : ExportError → Bool
  | .blank | .write (.unknownEncoding _) | .write .notEncodable => false
  | .write (.write (.suffix _)) => false
  | .write (.write (.directory e)) | .write (.write (.cleanup e)) => e ≠ .nullCharacter
  | .write (.write (.failed _ _)) => true

/-! ## 2. Settings and drawing -/

def sourceOf : Given String → Task Stop SettingsSource
  | .absent => pure .shipped
  | .blank => throw (.crash .noPath)
  | .value path => pure (.file (.ofText path))

def profileOf : Given String → Option Value
  | .absent => none
  | g => some (g.toValue .text)

def overrides (r : Request) : Patch :=
  .ofEntries [
    (.text "pen_up", r.penUp.toValue .text),
    (.text "pen_down", r.penDown.toValue .text),
    (.text "feed_rate", r.feedRate.toValue fun n => .number (.int n)),
    (.text "start", r.start.toValue .text),
    (.text "end", r.finish.toValue .text),
    (.text "scale_percent", r.scale.toValue fun x => .number (.double x))]

def loadSettings (r : Request) : Task Stop Settings := do
  let source ← sourceOf r.config
  let d ← get
  let entries ← Task.take stopForProfile (source.entries d.files d.process)
  Task.info "Loading configuration from %s" [.text source.shown]
  let choice ← Task.take stopForProfile
    (choose d.process.room source.shown entries (profileOf r.profile))
  if let some name := choice.name then
    Task.info "Using profile '%s'" [name]
  for key in Patch.unknownKeys choice.entries do
    Task.debug "Ignoring unrecognised configuration key %r" [key]
  let settings ← Task.take stopForRejection (Settings.ofEntries choice.entries)
  Task.info "Configuration loaded successfully" []
  Task.take stopForRejection (settings.revise (overrides r))

def loadDrawing (r : Request) : Task Stop (List Segment) := do
  match r.pattern.value?.bind Pattern.named?, r.segments with
  | some pattern, _ =>
    modify (·.push "source" (r.pattern.value?.getD ""))
    Task.take (.crash ∘ .pattern) pattern.segments
  | none, .value text =>
    let path := Path.ofText text
    modify (·.push "source" path.name)
    let d ← get
    Task.take stopForDrawing (readDrawing d.files d.process path)
  | none, _ => throw (.crash .noPath)

/-! ## 3. Program -/

def count (n : Nat) : Value := .number (.int n)

def measure (x : Double) : Value := .number (.double x)

def summarize (d : Draft) : Task Stop Unit :=
  match Extent.of? d.history.segments with
  | none => Task.debug "Rebuilt empty program" []
  | some box =>
    Task.debug ("Rebuilt program: %d segments, %d lines, extent "
        ++ "x=[%.3f, %.3f] y=[%.3f, %.3f], scale=%.3f")
      [count d.history.size, count d.lines.length, .number box.minX, .number box.maxX,
        .number box.minY, .number box.maxY, measure d.settings.scale]

def makeProgram (settings : Settings) (segments : List Segment) : Task Stop String := do
  let (d, program) := (segments.foldl Draft.record (.new settings)).rebuild
  let text ← Task.take stopForCompile program
  summarize d
  return text

/-- Replays a program and reports on it; the program must have no violations. -/
def checkProgram (settings : Settings) (program : String) : Task Stop Unit := do
  let r := Replay.Replayer.of settings program (.double 6000)
  Task.debug "Loaded %d G-code lines from string" [count r.lines.length]
  let (r, report) := r.run
  for v in r.machine.violations do
    Task.note .warning v.message []
  let report ← Task.take (.crash ∘ .replay) report
  Task.debug "VM execution complete: %d draws, %d rapids, %.1fs estimated"
    [count report.draws, count report.travels, measure report.time]
  if let some box := report.bounds then
    Task.info "Bounds: X [%.3f, %.3f]  Y [%.3f, %.3f]"
      [measure box.minX, measure box.maxX, measure box.minY, measure box.maxY]
  Task.info "%d draws, %d rapids, %d pen downs, est. %.1fs"
    [count report.draws, count report.travels, count report.penDowns, measure report.time]
  unless report.violations.isEmpty do
    Task.note .error "Program check failed: %s"
      [.text ("; ".intercalate (report.violations.map Replay.Violation.message))]
    throw .reported

/-! ## 4. Delivery -/

def targetOf (output : Given String) : Task Stop Path := do
  match output.value?.filter (!·.isEmpty) with
  | some path => return .ofText path
  | none =>
    let m ← Task.take (.crash ∘ .clock) (Calendar.Moment.ofInstant .here (← get).now)
    return .ofText (defaultFileName m)

def deliver (program : String) (target : Path) : Task Stop Unit := do
  match exportProgram (← get).files program target with
  | (files, .ok ()) =>
    modify ({ · with files })
    Task.info "Wrote G-code to %s (%d bytes)" [.text target.text, count program.length]
  | (files, .error e) =>
    modify ({ · with files })
    if isReportedExport e then
      Task.note .error "Failed to write %s: %s" [.text target.text, .text e.message]
      throw .reported
    else throw (.crash (.delivery e))

/-! ## 5. The command -/

def fulfil (r : Request) : Task Stop Unit := do
  let settings ← loadSettings r
  let segments ← loadDrawing r
  Task.info "Loaded %d segments" [count segments.length]
  let program ← makeProgram settings segments
  if r.check then checkProgram settings program
  if r.toOutput then modify (·.print program)
  else
    let target ← targetOf r.output
    deliver program target
    modify (·.print ("G-code written to: " ++ target.text))

def journalSetup (r : Request) : Log.Journal.Setup :=
  { Log.Journal.Setup.standard with
    level :=
      match r.logLevel with
      | .absent => "INFO"
      | .blank => ""
      | .value level => level
    logFile := r.logFile.value?
    context := .mapping [(.text "app", .text "compile")] }

def Desk.finish (d : Desk) : Except Stop Unit → Outcome
  | .ok () => ⟨.exit 0, d⟩
  | .error .reported => ⟨.exit 1, d⟩
  | .error (.failed message) =>
    ⟨.exit 1, (d.note .error "%s" [.text message]).note .debug "Compilation failed" []⟩
  | .error (.crash e) => ⟨.crash e, d⟩

def Desk.run (d : Desk) (r : Request) : Outcome :=
  match d.journal.setup d.files d.process.room (journalSetup r) with
  | (journal, files, .error e) => ⟨.crash (.setup e), { d with journal, files }⟩
  | (journal, files, .ok _) =>
    let (result, d) := (fulfil r).run { d with journal, files }
    let o := d.finish result
    { o with desk := { o.desk with journal := o.desk.journal.pop none } }

def run (files : Store) (process : Runtime) (now : Double) (arguments : List String) : Outcome :=
  let d := Desk.new files process now
  match Request.ofArguments arguments with
  | .error e => ⟨.usage e, d⟩
  | .ok r => d.run r

end PenPlotter.CommandLine
