import PenPlotter.Proofs.CommandLine.Crashes

/-!
# What the command does not handle

The command ends with an exit code, except for some causes that it does not handle.  These are
listed here, and nothing else keeps it from an exit code.
-/

set_option autoImplicit false

namespace PenPlotter.CommandLine

open Files

/-! ## 1. The causes -/

inductive Obstructed (files : Store) (process : Runtime) (r : Request) : Prop where
  /-- Two dashes stand for the path of the settings. -/
  | noConfig (config : r.config = .blank)
  /-- There is too little room to read the settings that come with the library. -/
  | noRoom (config : r.config = .absent)
    (room : process.exhausts SettingsSource.shippedText = true)
  | settingsFile {path : String} (config : r.config = .value path)
    (unreadable : Unreadable files process (.ofText path))
  /-- The name of a profile is a collection, or it is unknown and the names that there are cannot be
  listed, since not all are texts, or it is an integer that is too long for a message about it. -/
  | profile {source : SettingsSource} {e : ProfileError} (origin : r.source = .ok source)
    (read : readSettings files process source (profileOf r.profile) = .error e)
    (unnamed : e = .namesNotText ∨ e = .nameNotKey ∨ ∃ reason, e = .nameNotShown reason)
  /-- Two dashes stand for the pattern, or for the path of the drawing. -/
  | noDrawing {settings : Settings} (success : r.settings files process = .ok settings)
    (drawing : r.pattern = .blank ∨ r.segments = .blank)
  | drawingFile {settings : Settings} {path : String}
    (success : r.settings files process = .ok settings) (drawing : r.segments = .value path)
    (unreadable : Unreadable files process (.ofText path))
  | entry {settings : Settings} {path : String}
    (success : r.settings files process = .ok settings) (drawing : r.segments = .value path)
    (bad : BadEntry files process (.ofText path))
  | feed {settings : Settings} {segments : List Segment}
    (success : r.settings files process = .ok settings)
    (drawing : r.drawing files process = .ok segments) (long : LongFeed settings segments)
  /-- The program is to be checked, and has a feed for which there is no time. -/
  | untimed {settings : Settings} {program : String}
    (success : r.Makes files process settings program) (check : r.check = true)
    (replay : replayOf settings program = .error (.fault .divisionByZero))

/-- What keeps the command from ending with an exit code. -/
inductive Unhandled (files : Store) (process : Runtime) (now : Double) (r : Request) : Prop where
  /-- Two dashes stand for the level of the journal. -/
  | noLevel (level : r.logLevel = .blank)
  | obstructed (cause : Obstructed files process r)
  /-- The program needs a file name that is made of the time, and no calendar has that time. -/
  | clock {program : String} {e : Calendar.InstantError}
    (success : r.program files process = .ok program) (toFile : r.toOutput = false)
    (clock : r.target now = .error e)
  /-- The path that the program goes to is unfit for a file. -/
  | unfit {program : String} {target : Path} (success : r.program files process = .ok program)
    (toFile : r.toOutput = false) (clock : r.target now = .ok target) (path : Unfit files target)

/-! ## 2. Crashes -/

variable {files files' : Store} {process : Runtime} {now : Double} {arguments : List String}
  {r : Request} {settings : Settings} {program output : String} {target : Path} {ending : Ending}

theorem crashes_checked : Crashes (do
      if r.check then verdict settings program
      return program : Except Stop String) ↔
    r.check = true ∧ Crashes (verdict settings program) := by
  cases r.check with
  | true =>
    rw [if_pos rfl, crashes_bind]
    simp [not_crashes_ok, pure, Except.pure]
  | false =>
    rw [if_neg Bool.false_ne_true]
    exact iff_of_false (not_crashes_ok program) (by simp)

/-- The way to a program crashes exactly where it is obstructed. -/
theorem crashes_program (hr : r.Sensible)
    (hgiven : r.segments ≠ .absent ∨ r.pattern ≠ .absent) (hpaired : r.Paired files process) :
    Crashes (r.program files process) ↔ Obstructed files process r := by
  rw [Request.program, crashes_bind, crashes_settings hpaired]
  simp only [crashes_bind, crashes_drawing hr hgiven hpaired, crashes_checked]
  constructor
  · rintro ((hconfig | (⟨hconfig, hroom⟩ | ⟨path, hpath, hfile⟩) |
        ⟨source, e, hsource, hread, hunnamed⟩) |
      ⟨settings, hsettings, (hnone | ⟨path, hpath, hfile | hbad⟩) |
        ⟨segments, hsegments, hcrash | ⟨program, hmade, hcheck, hcrash⟩⟩⟩)
    · exact .noConfig hconfig
    · exact .noRoom hconfig hroom
    · exact .settingsFile hpath hfile
    · exact .profile hsource hread hunnamed
    · exact .noDrawing hsettings hnone
    · exact .drawingFile hsettings hpath hfile
    · exact .entry hsettings hpath hbad
    · exact .feed hsettings hsegments ((crashes_programOf hr hsegments).mp hcrash)
    · have hprogram := ne_empty_of_rebuild (programOf_eq_ok.mp hmade)
      exact .untimed (makes_iff.mpr ⟨hsettings, segments, hsegments, hmade⟩) hcheck
        ((crashes_verdict hprogram).mp hcrash)
  · rintro (hconfig | ⟨hconfig, hroom⟩ | ⟨hpath, hfile⟩ | ⟨hsource, hread, hunnamed⟩ |
      ⟨hsettings, hnone⟩ | ⟨hsettings, hpath, hfile⟩ | ⟨hsettings, hpath, hbad⟩ |
      ⟨hsettings, hsegments, hlong⟩ | ⟨hmakes, hcheck, hreplay⟩)
    · exact .inl (.inl hconfig)
    · exact .inl (.inr (.inl (.inl ⟨hconfig, hroom⟩)))
    · exact .inl (.inr (.inl (.inr ⟨_, hpath, hfile⟩)))
    · exact .inl (.inr (.inr ⟨_, _, hsource, hread, hunnamed⟩))
    · exact .inr ⟨_, hsettings, .inl (.inl hnone)⟩
    · exact .inr ⟨_, hsettings, .inl (.inr ⟨_, hpath, .inl hfile⟩)⟩
    · exact .inr ⟨_, hsettings, .inl (.inr ⟨_, hpath, .inr hbad⟩)⟩
    · exact .inr ⟨_, hsettings, .inr ⟨_, hsegments, .inl ((crashes_programOf hr hsegments).mpr hlong)⟩⟩
    · obtain ⟨hsettings, segments, hsegments, hmade⟩ := makes_iff.mp hmakes
      have hprogram := ne_empty_of_rebuild (programOf_eq_ok.mp hmade)
      exact .inr ⟨_, hsettings, .inr ⟨segments, hsegments, .inr ⟨_, hmade, hcheck,
        (crashes_verdict hprogram).mpr hreplay⟩⟩⟩

theorem isReportedExport_write (e : WriteError) :
    isReportedExport ((ExportError.write ∘ WriteTextError.write) e) = !e.isUnexpected := by
  cases e <;> simp [isReportedExport, WriteError.isUnexpected]

-- The export of a program crashes exactly where its path is unfit.
theorem unreported_export (hmade : r.program files process = .ok program)
    (htarget : r.target now = .ok target) :
    (∃ e, (exportProgram files program target).2 = .error e ∧ isReportedExport e = false) ↔
      Unfit files target := by
  obtain ⟨settings, ⟨source, read, segments, -, -, -, -, hrebuild⟩, -⟩ := program_eq_ok.mp hmade
  rw [exportProgram_eq (not_blank_of_rebuild hrebuild)]
  simp only [mapError_eq_error]
  rw [← unexpected_iff (plain_of_target htarget)]
  constructor
  · rintro ⟨_, ⟨e, he, rfl⟩, hunreported⟩
    rw [isReportedExport_write, Bool.not_eq_false'] at hunreported
    exact ⟨e, he, hunreported⟩
  · rintro ⟨e, he, hunexpected⟩
    refine ⟨_, ⟨e, he, rfl⟩, ?_⟩
    rw [isReportedExport_write, hunexpected, Bool.not_true]

/-! ## 3. Exit codes -/

theorem exits_ending (e : Stop) :
    (e.ending = .exit 0 ∨ e.ending = .exit 1) ↔ ¬e.isCrash = true := by
  cases e <;> simp [Stop.ending, Stop.isCrash]

-- Without a program only what was in its way can have been unhandled.
theorem unhandled_of_error {e : Stop} (hr : r.Sensible)
    (hgiven : r.segments ≠ .absent ∨ r.pattern ≠ .absent) (hpaired : r.Paired files process)
    (hlevel : r.logLevel ≠ .blank) (failure : r.program files process = .error e) :
    Unhandled files process now r ↔ e.isCrash = true := by
  have hcrash : Crashes (r.program files process) ↔ e.isCrash = true := by
    simp [Crashes, failure]
  rw [← hcrash, crashes_program hr hgiven hpaired]
  constructor
  · rintro (level | cause | ⟨success, -, -⟩ | ⟨success, -, -, -⟩)
    · exact absurd level hlevel
    · exact cause
    all_goals
      rw [failure] at success
      cases success
  · exact .obstructed

-- With one it is its delivery.
theorem unhandled_of_ok (hr : r.Sensible)
    (hgiven : r.segments ≠ .absent ∨ r.pattern ≠ .absent) (hpaired : r.Paired files process)
    (hlevel : r.logLevel ≠ .blank) (success : r.program files process = .ok program) :
    Unhandled files process now r ↔ r.toOutput = false ∧
      ∀ target, r.target now = .ok target → Unfit files target := by
  have hcrash := crashes_program hr hgiven hpaired
  constructor
  · rintro (level | cause | ⟨-, toFile, clock⟩ | ⟨-, toFile, clock, path⟩)
    · exact absurd level hlevel
    · rw [← hcrash, success] at cause
      exact absurd cause (not_crashes_ok program)
    · refine ⟨toFile, fun target htarget => ?_⟩
      rw [clock] at htarget
      cases htarget
    · refine ⟨toFile, fun target htarget => ?_⟩
      obtain rfl := Except.ok.inj (clock.symm.trans htarget)
      exact path
  · rintro ⟨toFile, hpath⟩
    cases clock : r.target now with
    | error e => exact .clock success toFile clock
    | ok target => exact .unfit success toFile clock (hpath target clock)

theorem Ends.exits_iff (hr : r.Sensible) (hgiven : r.segments ≠ .absent ∨ r.pattern ≠ .absent)
    (hpaired : r.Paired files process) (hlevel : r.logLevel ≠ .blank)
    (h : Ends files process now r ending files' output) :
    (ending = .exit 0 ∨ ending = .exit 1) ↔ ¬Unhandled files process now r := by
  cases h with
  | stopped failure => rw [exits_ending, unhandled_of_error hr hgiven hpaired hlevel failure]
  | printed success toOutput =>
    rw [unhandled_of_ok hr hgiven hpaired hlevel success, toOutput]
    simp
  | timeless success toFile clock =>
    rw [unhandled_of_ok hr hgiven hpaired hlevel success, toFile, clock]
    simp
  | @written program target success toFile clock delivery =>
    rw [unhandled_of_ok hr hgiven hpaired hlevel success]
    refine iff_of_true (.inl rfl) fun ⟨_, hpath⟩ => ?_
    obtain ⟨e, he, -⟩ := (unreported_export success clock).mpr (hpath target clock)
    rw [delivery] at he
    cases he
  | @unwritten program target e success toFile clock delivery =>
    have hexport := unreported_export success clock
    rw [exits_ending, isCrash_stopForExport, unhandled_of_ok hr hgiven hpaired hlevel success, toFile,
      clock]
    simp [← hexport, delivery]

theorem paired_sample (output : String) : (sampleRequest output).Paired sampleFiles .standard := by
  have hread : ∀ path ∈ ["c.yaml", "d.json"], ((sampleFiles.readText (.ofText path)).toOption.bind
      fun text => (Yaml.read .standard text).toOption).isSome = true := by decide +kernel
  intro path hpath text code htext hvalue
  have hmem : path ∈ ["c.yaml", "d.json"] := by obtain h | h := hpath <;> cases h <;> simp
  have hsome := hread path hmem
  simp only [htext, Except.toOption, Option.bind_some, hvalue] at hsome
  cases hsome

def misplacedFiles : Store := .plain [] [["d"]] [(["c.yaml"], "{}".toUTF8.toList)]

def misplacedArguments : List String := ["-c", "c.yaml", "-s", "d", "--stdout"]

def misplacedRequest : Request :=
  { Request.empty with config := .value "c.yaml", segments := .value "d", toOutput := true }

theorem accepted_misplaced : Request.ofArguments misplacedArguments = .ok misplacedRequest := by
  have hwords : (Word.ofTexts misplacedArguments).toOption = some [
      .parameter .config "-c" none, .plain "c.yaml", .parameter .segments "-s" none, .plain "d",
      .parameter .stdout "--stdout" none] := by decide +kernel
  rw [Request.ofArguments, eq_ok_of_toOption hwords, bind_eq_ok]
  refine ⟨_, rfl, bind_eq_ok.mpr ⟨(misplacedRequest, []), ?_, rfl⟩⟩
  simp only [Request.read, Request.put, Request.given, Parameter.takesValue, if_true]
  rfl

end PenPlotter.CommandLine
