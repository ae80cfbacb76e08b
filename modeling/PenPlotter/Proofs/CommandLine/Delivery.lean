import PenPlotter.Proofs.CommandLine.Endings
import PenPlotter.Proofs.Program.Export

/-!
# Exit code and output

The command exits with code 0 exactly if all that it was asked for works, and then it has delivered
the program that the library makes of the same settings and the same drawing.  With code 1 it has
written nothing to the output, and what was in the place of the program file is still there.
-/

set_option autoImplicit false

namespace PenPlotter.CommandLine

open Files

variable {files : Store} {process : Runtime} {now : Double} {arguments : List String} {r : Request}
  {settings : Settings} {program : String}

/-! ## 1. The program of a request -/

/-- The settings of a request are those that are read from its source, with those of the command
line on top; its program is what a fresh draft with these settings makes of its drawing, recorded
segment by segment. -/
def Request.Makes (files : Store) (process : Runtime) (r : Request) (settings : Settings)
    (program : String) : Prop :=
  ∃ source read segments,
    r.source = .ok source ∧ readSettings files process source (profileOf r.profile) = .ok read ∧
    read.revise (overrides r) = .ok settings ∧ r.drawing files process = .ok segments ∧
    (segments.foldl Draft.record (.new settings)).rebuild.2 = .ok program

def Request.Passes (r : Request) (settings : Settings) (program : String) : Prop :=
  r.check = true → ∃ report, replayOf settings program = .ok report ∧ report.violations = []

theorem verdict_eq_ok : verdict settings program = .ok () ↔
    ∃ report, replayOf settings program = .ok report ∧ report.violations = [] := by
  rw [verdict, bind_eq_ok]
  refine exists_congr fun report => ?_
  rw [mapError_eq_ok, ← List.isEmpty_iff]
  cases report.violations.isEmpty <;> simp [pure, Except.pure, throw, throwThe, MonadExceptOf.throw]

theorem programOf_eq_ok {segments : List Segment} : programOf settings segments = .ok program ↔
    (segments.foldl Draft.record (.new settings)).rebuild.2 = .ok program := by
  rw [programOf, mapError_eq_ok]
  rfl

theorem settings_eq_ok : r.settings files process = .ok settings ↔
    ∃ source read, r.source = .ok source ∧
      readSettings files process source (profileOf r.profile) = .ok read ∧
      read.revise (overrides r) = .ok settings := by
  simp only [Request.settings, bind_eq_ok, mapError_eq_ok, exists_and_left]

theorem makes_iff : r.Makes files process settings program ↔
    r.settings files process = .ok settings ∧
      ∃ segments, r.drawing files process = .ok segments ∧ programOf settings segments = .ok program := by
  simp only [settings_eq_ok, programOf_eq_ok]
  constructor
  · rintro ⟨source, read, segments, hsource, hread, hsettings, hsegments, hmade⟩
    exact ⟨⟨source, read, hsource, hread, hsettings⟩, segments, hsegments, hmade⟩
  · rintro ⟨⟨source, read, hsource, hread, hsettings⟩, segments, hsegments, hmade⟩
    exact ⟨source, read, segments, hsource, hread, hsettings, hsegments, hmade⟩

theorem checked_eq_ok {made : String} :
    (do
      if r.check then verdict settings made
      return made : Except Stop String) = .ok program ↔
    made = program ∧ r.Passes settings made := by
  rw [Request.Passes, ← verdict_eq_ok]
  cases r.check with
  | true =>
    rw [if_pos rfl, bind_eq_ok]
    constructor
    · rintro ⟨_, hpassed, hreturn⟩
      exact ⟨Except.ok.inj hreturn, fun _ => hpassed⟩
    · rintro ⟨rfl, hpassed⟩
      exact ⟨(), hpassed rfl, rfl⟩
  | false =>
    rw [if_neg Bool.false_ne_true]
    exact ⟨fun h => ⟨Except.ok.inj h, nofun⟩, fun h => congrArg _ h.1⟩

theorem program_eq_ok : r.program files process = .ok program ↔
    ∃ settings, r.Makes files process settings program ∧ r.Passes settings program := by
  simp only [Request.program, bind_eq_ok, checked_eq_ok, makes_iff]
  constructor
  · rintro ⟨settings, hsettings, segments, hsegments, _, hmade, rfl, hpassed⟩
    exact ⟨settings, ⟨hsettings, segments, hsegments, hmade⟩, hpassed⟩
  · rintro ⟨settings, ⟨hsettings, segments, hsegments, hmade⟩, hpassed⟩
    exact ⟨settings, hsettings, segments, hsegments, _, hmade, rfl, hpassed⟩

/-! ## 2. Exit codes -/

/-- The program of a request is made and passes its check, and its file can be written if there is
to be one. -/
def Request.Works (files : Store) (process : Runtime) (now : Double) (r : Request) : Prop :=
  ∃ settings program, r.Makes files process settings program ∧ r.Passes settings program ∧
    (r.toOutput = false → ∃ target, r.target now = .ok target ∧
      (exportProgram files program target).2 = .ok ())

/-- A program is delivered either to the output or to a file, and then the output says to which.
From the files before these are the files and the output after it.  A file is read as it was written;
only links can keep it from being found. -/
def Request.Delivers (files : Store) (now : Double) (r : Request) (program : String)
    (files' : Store) (output : String) : Prop :=
  if r.toOutput then output = program ++ "\n" ∧ files' = files
  else ∃ target, r.target now = .ok target ∧
    output = "G-code written to: " ++ target.text ++ "\n" ∧
    Holds target (program ++ "\n").toUTF8.toList (ensureDirectory files target.parent).1 files'

variable {files' : Store} {output : String}

theorem works_iff : r.Works files process now ↔
    ∃ program, r.program files process = .ok program ∧ (r.toOutput = false → ∃ target,
      r.target now = .ok target ∧ (exportProgram files program target).2 = .ok ()) := by
  simp only [Request.Works, program_eq_ok]
  constructor
  · rintro ⟨settings, program, hmakes, hpasses, hfile⟩
    exact ⟨program, ⟨settings, hmakes, hpasses⟩, hfile⟩
  · rintro ⟨program, ⟨settings, hmakes, hpasses⟩, hfile⟩
    exact ⟨settings, program, hmakes, hpasses, hfile⟩

theorem plain_of_target {target : Path} (h : r.target now = .ok target) : target.Plain := by
  rw [Request.target] at h
  split at h
  · obtain rfl := Except.ok.inj h
    exact Path.plain_ofText _
  · cases hnow : Calendar.Moment.ofInstant .here now with
    | error e => simp [hnow, Except.map] at h
    | ok m =>
      rw [hnow] at h
      obtain rfl := Except.ok.inj h
      exact Path.plain_ofText _

theorem stop_ending_ne_exit_zero (e : Stop) : e.ending ≠ .exit 0 := by
  cases e <;> simp [Stop.ending]

theorem Ends.code {code : Nat} (h : Ends files process now r (.exit code) files' output) :
    code = 0 ∨ code = 1 := by
  have hstop : ∀ e : Stop, .exit code = e.ending → code = 1 := by
    intro e he
    cases e with
    | crash e => cases he
    | failed message | reported => exact Ending.exit.inj he
  generalize hexit : Ending.exit code = ending at h
  cases h with
  | stopped | unwritten => exact .inr (hstop _ hexit)
  | printed | written => exact .inl (Ending.exit.inj hexit)
  | timeless => cases hexit

-- The code 0 stands for a program that was delivered.
theorem Ends.of_zero (h : Ends files process now r (.exit 0) files' output) :
    r.Works files process now ∧
      ∃ settings program, r.Makes files process settings program ∧
        r.Delivers files now program files' output := by
  generalize hexit : Ending.exit 0 = ending at h
  cases h with
  | stopped | unwritten => exact absurd hexit.symm (stop_ending_ne_exit_zero _)
  | timeless => cases hexit
  | @printed program success toOutput =>
    have hnoFile : ¬r.toOutput = false := by rw [toOutput]; nofun
    refine ⟨works_iff.mpr ⟨program, success, fun h => absurd h hnoFile⟩, ?_⟩
    obtain ⟨settings, hmakes, -⟩ := program_eq_ok.mp success
    refine ⟨settings, program, hmakes, ?_⟩
    rw [Request.Delivers, if_pos toOutput]
    exact ⟨rfl, rfl⟩
  | @written program target success toFile clock delivery =>
    refine ⟨works_iff.mpr ⟨program, success, fun _ => ⟨target, clock, delivery⟩⟩, ?_⟩
    obtain ⟨settings, hmakes, -⟩ := program_eq_ok.mp success
    refine ⟨settings, program, hmakes, ?_⟩
    obtain ⟨source, read, segments, -, -, -, -, hmade⟩ := hmakes
    rw [Request.Delivers, if_neg (by rw [toFile]; nofun), ← withFinalNewline_of_rebuild hmade]
    exact ⟨target, clock, rfl, holds_of_exportProgram (Prod.ext rfl delivery)⟩

-- The code 1 stands for something that did not work, and nothing was delivered then.
theorem Ends.of_one (h : Ends files process now r (.exit 1) files' output) :
    ¬r.Works files process now ∧ output = "" ∧ (r.toOutput = true → files' = files) ∧
      ∀ target, r.target now = .ok target → files.Exposed target ∨ Keeps files files' target := by
  rw [works_iff]
  generalize hexit : Ending.exit 1 = ending at h
  cases h with
  | printed | written | timeless => cases hexit
  | stopped failure =>
    refine ⟨?_, rfl, fun _ => rfl, fun target _ => .inr (.refl _ target)⟩
    rintro ⟨program, hprogram, -⟩
    rw [failure] at hprogram
    cases hprogram
  | @unwritten program target e success toFile clock delivery =>
    refine ⟨?_, rfl, ?_, ?_⟩
    · rintro ⟨program', hprogram, hfile⟩
      obtain rfl := Except.ok.inj (success.symm.trans hprogram)
      obtain ⟨target', htarget, hwritten⟩ := hfile toFile
      obtain rfl := Except.ok.inj (clock.symm.trans htarget)
      rw [delivery] at hwritten
      cases hwritten
    · intro toOutput
      rw [toFile] at toOutput
      cases toOutput
    · intro target' htarget
      obtain rfl := Except.ok.inj (clock.symm.trans htarget)
      exact or_iff_not_imp_left.mpr fun hno =>
        keeps_of_exportProgram (plain_of_target clock) hno (Prod.ext rfl delivery)

def sampleFiles : Store :=
  .ofTexts [("c.yaml", "{}"), ("d.json", "[[0, 0, 1, 0]]")]

def sampleArguments (output : String) : List String :=
  ["-c", "c.yaml", "-s", "d.json", "-o", output]

def sampleRequest (output : String) : Request :=
  { Request.empty with
    config := .value "c.yaml", segments := .value "d.json", output := .value output }

theorem accepted_sample : ∀ output ∈ ["/tmp/p.gcode", "new/../new"],
    Request.ofArguments (sampleArguments output) = .ok (sampleRequest output) := by
  intro output houtput
  have hwords : (Word.ofTexts (sampleArguments output)).toOption = some [
      .parameter .config "-c" none, .plain "c.yaml", .parameter .segments "-s" none,
      .plain "d.json", .parameter .output "-o" none, .plain output] := by
    revert output
    decide +kernel
  have hdashes : output ≠ "--" := by
    revert output
    decide
  rw [Request.ofArguments, eq_ok_of_toOption hwords, bind_eq_ok]
  refine ⟨_, rfl, bind_eq_ok.mpr ⟨(sampleRequest output, []), ?_, rfl⟩⟩
  simp only [Request.read, Request.put, Request.given, Parameter.takesValue, if_true, hdashes]
  rfl

def sampleProgram : String := ((sampleRequest "").program sampleFiles .standard).toOption.getD ""

theorem program_sample (output : String) :
    (sampleRequest output).program sampleFiles .standard = .ok sampleProgram := by
  have hmade : ((sampleRequest "").program sampleFiles .standard).toOption.isSome = true := by
    decide +kernel
  obtain ⟨program, hprogram⟩ := Option.isSome_iff_exists.mp hmade
  have hsame : (sampleRequest output).program sampleFiles .standard =
      (sampleRequest "").program sampleFiles .standard := rfl
  rw [hsame, eq_ok_of_toOption hprogram, sampleProgram, hprogram, Option.getD_some]

def sampleWritten (output : String) : Store × Except WriteError Unit :=
  writeAtOnce sampleFiles (.ofText output) (withFinalNewline sampleProgram).toUTF8.toList
    besideSuffix

-- A run on the sample comes down to writing its program.
theorem run_sample : ∀ output ∈ ["/tmp/p.gcode", "new/../new"],
    (run sampleFiles .standard 0 (sampleArguments output)).ending =
      endingOf (((sampleWritten output).2.mapError (.write ∘ .write)).mapError stopForExport) ∧
    (run sampleFiles .standard 0 (sampleArguments output)).desk.files =
      (sampleWritten output).1 := by
  intro output houtput
  have htarget : (sampleRequest output).target 0 = .ok (.ofText output) := by
    have hgiven : (sampleRequest output).output.value?.filter (!·.isEmpty) = some output := by
      revert output
      decide
    rw [Request.target, hgiven]
  have hlevel : (sampleRequest output).logLevel ≠ .blank := by simp [sampleRequest, Request.empty]
  obtain ⟨hends, -⟩ :=
    ends_run_of_level sampleFiles .standard 0 (accepted_sample output houtput) rfl hlevel
  obtain ⟨settings, ⟨source, read, segments, -, -, -, -, hrebuild⟩, -⟩ :=
    program_eq_ok.mp (program_sample output)
  have hexport := exportProgram_eq (s := sampleFiles) (p := .ofText output)
    (not_blank_of_rebuild hrebuild)
  obtain ⟨hending, hfiles⟩ := hends.of_target (program_sample output) rfl htarget
  rw [hexport] at hending
  rw [exported, hexport] at hfiles
  rw [sampleWritten]
  exact ⟨hending, hfiles⟩

theorem ending_sample :
    (run sampleFiles .standard 0 (sampleArguments "/tmp/p.gcode")).ending = .exit 0 := by
  have hwritten : (sampleWritten "/tmp/p.gcode").2.toOption = some () := by decide +kernel
  rw [(run_sample "/tmp/p.gcode" (by simp)).1, eq_ok_of_toOption hwritten]
  rfl

end PenPlotter.CommandLine
