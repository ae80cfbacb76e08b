import PenPlotter.Proofs.CommandLine.Accepted
import PenPlotter.Proofs.CommandLine.Stages

/-!
# How the command ends

Everything that can come of a request: the command stops before there is a program, or it prints the
program, or it writes a file or fails to.
-/

set_option autoImplicit false

namespace PenPlotter.CommandLine

open Files

variable {files : Store} {process : Runtime} {now : Double} {arguments : List String} {r : Request}

/-! ## 1. Program and delivery -/

def prepare (r : Request) : Task Stop String := do
  let settings ← loadSettings r
  let segments ← loadDrawing r
  Task.info "Loaded %d segments" [count segments.length]
  let program ← makeProgram settings segments
  if r.check then checkProgram settings program
  return program

def conclude (r : Request) (program : String) : Task Stop Unit := do
  if r.toOutput then modify (·.print program)
  else
    let target ← targetOf r.output
    deliver program target
    modify (·.print ("G-code written to: " ++ target.text))

theorem fulfil_eq (r : Request) : fulfil r = prepare r >>= conclude r := by
  simp only [fulfil, prepare, bind_assoc]
  congr 1
  funext settings
  congr 1
  funext segments
  congr 1
  funext _
  congr 1
  funext program
  cases r.check with
  | true => simp only [if_true, bind_assoc, pure_bind]; rfl
  | false => rfl

theorem gives_prepare {d : Desk} (r : Request) (hd : d.Unfiled) :
    (prepare r).Gives d (r.program d.files d.process) := by
  rw [prepare, Request.program]
  refine (Task.gives_loadSettings r hd).bind hd fun settings d₁ h₁ hd₁ => ?_
  rw [← h₁.files, ← h₁.process]
  refine (Task.gives_loadDrawing r hd₁).bind hd₁ fun segments d₂ _ hd₂ => ?_
  refine (Task.gives_note hd₂ _ _ _).then hd₂ fun d₃ _ hd₃ => ?_
  refine (Task.gives_makeProgram _ _ hd₃).bind hd₃ fun program d₄ _ hd₄ => ?_
  cases r.check with
  | true =>
    exact (Task.gives_checkProgram _ _ hd₄).bind hd₄ fun _ d₅ _ _ => .pure d₅ _
  | false => exact .pure d₄ _

def Request.target (now : Double) (r : Request) : Except Calendar.InstantError Path :=
  match r.output.value?.filter (!·.isEmpty) with
  | some path => .ok (.ofText path)
  | none => (Calendar.Moment.ofInstant .here now).map fun m => .ofText (defaultFileName m)

theorem gives_targetOf (r : Request) (d : Desk) :
    (targetOf r.output).Gives d ((r.target d.now).mapError (.crash ∘ .clock)) := by
  rw [targetOf, Request.target]
  cases r.output.value?.filter (!·.isEmpty) with
  | some path => exact .pure d _
  | none =>
    refine .get ?_
    cases Calendar.Moment.ofInstant .here d.now with
    | ok m => exact .pure d _
    | error e => exact .throw d nofun

def exported (files : Store) (program : String) (target : Path) : Store :=
  (exportProgram files program target).1

def stopForExport (e : ExportError) : Stop :=
  if isReportedExport e then .reported else .crash (.delivery e)

theorem run_deliver {d : Desk} (hd : d.Unfiled) (program : String) (target : Path) :
    ∃ d', (deliver program target).run d =
        ((exportProgram d.files program target).2.mapError stopForExport, d') ∧
      d'.files = exported d.files program target ∧ d'.output = d.output ∧
      ((exportProgram d.files program target).2.mapError stopForExport = .error .reported →
        d.Tells d') := by
  have hget : (get : Task Stop Desk).run d = (.ok d, d) := rfl
  rw [deliver, Task.run_bind, hget, exported]
  dsimp only
  obtain ⟨files, x⟩ := exportProgram d.files program target
  cases x with
  | ok =>
    have hd' : Desk.Unfiled { d with files } := hd
    have hfollows := Desk.follows_note hd' .info "Wrote G-code to %s (%d bytes)"
      [.text target.text, count program.length]
    exact ⟨_, rfl, hfollows.files, hfollows.output, by simp⟩
  | error e =>
    dsimp only
    rw [mapError_error, stopForExport]
    cases isReportedExport e with
    | true =>
      have hd' : Desk.Unfiled { d with files } := hd
      have hfollows := Desk.follows_note hd' .error "Failed to write %s: %s"
        [.text target.text, .text e.message]
      refine ⟨_, rfl, hfollows.files, hfollows.output, fun _ => ?_⟩
      exact Desk.tells_note { d with files } _ _
    | false => exact ⟨_, rfl, rfl, rfl, by simp⟩

/-! ## 2. Everything that can come of a request -/

def Ending.code? : Ending → Option Nat
  | .exit code => some code
  | _ => none

theorem Ending.code?_eq_some {ending : Ending} {code : Nat} :
    ending.code? = some code ↔ ending = .exit code := by
  cases ending <;> simp [code?]

def Stop.ending : Stop → Ending
  | .failed _ | .reported => .exit 1
  | .crash e => .crash e

def endingOf : Except Stop Unit → Ending
  | .ok () => .exit 0
  | .error e => e.ending

inductive Ends (files : Store) (process : Runtime) (now : Double) (r : Request) :
    Ending → Store → String → Prop where
  | stopped {e : Stop} (failure : r.program files process = .error e) :
    Ends files process now r e.ending files ""
  | printed {program : String} (success : r.program files process = .ok program)
      (toOutput : r.toOutput = true) :
    Ends files process now r (.exit 0) files (program ++ "\n")
  | timeless {program : String} {e : Calendar.InstantError}
      (success : r.program files process = .ok program) (toFile : r.toOutput = false)
      (clock : r.target now = .error e) :
    Ends files process now r (.crash (.clock e)) files ""
  | written {program : String} {target : Path} (success : r.program files process = .ok program)
      (toFile : r.toOutput = false) (clock : r.target now = .ok target)
      (delivery : (exportProgram files program target).2 = .ok ()) :
    Ends files process now r (.exit 0) (exported files program target)
      ("G-code written to: " ++ target.text ++ "\n")
  | unwritten {program : String} {target : Path} {e : ExportError}
      (success : r.program files process = .ok program) (toFile : r.toOutput = false)
      (clock : r.target now = .ok target)
      (delivery : (exportProgram files program target).2 = .error e) :
    Ends files process now r (stopForExport e).ending (exported files program target) ""

-- With a program and a path for it, all is up to the export.
theorem Ends.of_target {ending : Ending} {files' : Store} {output program : String} {target : Path}
    (h : Ends files process now r ending files' output) (success : r.program files process = .ok program)
    (toFile : r.toOutput = false) (clock : r.target now = .ok target) :
    ending = endingOf ((exportProgram files program target).2.mapError stopForExport) ∧
      files' = exported files program target := by
  cases h with
  | stopped failure =>
    rw [success] at failure
    cases failure
  | printed _ toOutput =>
    rw [toFile] at toOutput
    cases toOutput
  | timeless _ _ failure =>
    rw [clock] at failure
    cases failure
  | written success' _ clock' delivery =>
    obtain rfl := Except.ok.inj (success.symm.trans success')
    obtain rfl := Except.ok.inj (clock.symm.trans clock')
    exact ⟨by rw [delivery]; rfl, rfl⟩
  | unwritten success' _ clock' delivery =>
    obtain rfl := Except.ok.inj (success.symm.trans success')
    obtain rfl := Except.ok.inj (clock.symm.trans clock')
    exact ⟨by rw [delivery]; rfl, rfl⟩

-- With a program, and a path for it.
theorem ends_written {d d' : Desk} {x : Except Stop Unit} {program : String} {target : Path}
    (hd : d.Unfiled) (hempty : d.output = "") (success : r.program d.files d.process = .ok program)
    (toFile : r.toOutput = false) (clock : r.target d.now = .ok target)
    (h : (deliver program target >>= fun _ =>
      modify (·.print ("G-code written to: " ++ target.text))).run d = (x, d')) :
    Ends d.files d.process d.now r (endingOf x) d'.files d'.output ∧ (x = .error .reported → d.Tells d') ∧
      ∀ message, x ≠ .error (.failed message) := by
  obtain ⟨d₁, hdeliver, hfiles, houtput, htells⟩ := run_deliver hd program target
  rw [hempty] at houtput
  rw [Task.run_bind, hdeliver] at h
  cases hexport : (exportProgram d.files program target).2 with
  | ok =>
    rw [hexport] at h
    obtain ⟨rfl, rfl⟩ := Prod.mk.inj h
    have hfiles' : (d₁.print ("G-code written to: " ++ target.text)).files =
        exported d.files program target := hfiles
    have houtput' : (d₁.print ("G-code written to: " ++ target.text)).output =
        "G-code written to: " ++ target.text ++ "\n" := by
      rw [Desk.print, houtput, String.empty_append]
    rw [hfiles', houtput']
    exact ⟨.written success toFile clock hexport, nofun, nofun⟩
  | error e =>
    rw [hexport] at h htells
    obtain ⟨rfl, rfl⟩ := Prod.mk.inj h
    rw [hfiles, houtput]
    refine ⟨.unwritten success toFile clock hexport, fun he => htells he, fun message he => ?_⟩
    have hstop := Except.error.inj he
    rw [stopForExport] at hstop
    split at hstop <;> cases hstop

-- With a program.
theorem ends_conclude {d d' : Desk} {x : Except Stop Unit} {program : String} (hd : d.Unfiled)
    (hempty : d.output = "") (success : r.program d.files d.process = .ok program)
    (h : (conclude r program).run d = (x, d')) :
    Ends d.files d.process d.now r (endingOf x) d'.files d'.output ∧ (x = .error .reported → d.Tells d') ∧
      ∀ message, x ≠ .error (.failed message) := by
  rw [conclude] at h
  cases htoOutput : r.toOutput with
  | true =>
    rw [htoOutput, if_pos rfl] at h
    obtain ⟨rfl, rfl⟩ := Prod.mk.inj h
    have houtput : (d.print program).output = program ++ "\n" := by
      rw [Desk.print, hempty, String.empty_append]
    rw [houtput]
    exact ⟨.printed success htoOutput, nofun, nofun⟩
  | false =>
    rw [htoOutput, if_neg Bool.false_ne_true] at h
    obtain ⟨d₁, htarget, h₁, -⟩ := gives_targetOf r d
    rw [Task.run_bind, htarget] at h
    cases hclock : r.target d.now with
    | error e =>
      rw [hclock] at h
      obtain ⟨rfl, rfl⟩ := Prod.mk.inj h
      rw [h₁.files, h₁.output, hempty]
      exact ⟨.timeless success htoOutput hclock, nofun, nofun⟩
    | ok target =>
      rw [hclock] at h
      rw [← h₁.files, ← h₁.process] at success
      rw [← h₁.now] at hclock
      obtain ⟨hends, htells, hother⟩ := ends_written (h₁.unfiled hd) (h₁.output.trans hempty)
        success htoOutput hclock h
      rw [h₁.files, h₁.process, h₁.now] at hends
      exact ⟨hends, fun he => (htells he).before h₁, hother⟩

theorem ends_fulfil {d d' : Desk} {x : Except Stop Unit} (hd : d.Unfiled) (hempty : d.output = "")
    (h : (fulfil r).run d = (x, d')) :
    Ends d.files d.process d.now r (endingOf x) d'.files d'.output ∧
      (x = .error .reported → d.Tells d') ∧ (∀ message, x = .error (.failed message) →
        d.Follows d') := by
  obtain ⟨d₁, hprepare, h₁, htells⟩ := gives_prepare r hd
  rw [fulfil_eq, Task.run_bind, hprepare] at h
  cases hprogram : r.program d.files d.process with
  | error e =>
    rw [hprogram] at h htells
    obtain ⟨rfl, rfl⟩ := Prod.mk.inj h
    rw [h₁.files, h₁.output, hempty]
    exact ⟨.stopped hprogram, fun he => htells (by cases he; rfl), fun _ _ => h₁⟩
  | ok program =>
    rw [hprogram] at h
    rw [← h₁.files, ← h₁.process] at hprogram
    obtain ⟨hends, htells, hother⟩ :=
      ends_conclude (h₁.unfiled hd) (h₁.output.trans hempty) hprogram h
    rw [h₁.files, h₁.process, h₁.now] at hends
    exact ⟨hends, fun he => (htells he).before h₁, fun message he => absurd he (hother message)⟩

/-! ## 3. The journal -/

theorem named?_of_mem_levels : ∀ name ∈ Request.levels, ∃ level,
    Log.Level.named? (Text.upper name) = some level ∧
      (name ≠ "CRITICAL" → level.weight ≤ Log.Level.error.weight) := by
  simp only [Request.levels, List.forall_mem_cons]
  exact ⟨⟨.debug, by decide +kernel, by decide⟩,
    ⟨.info, by decide +kernel, by decide⟩,
    ⟨.warning, by decide +kernel, by decide⟩,
    ⟨.error, by decide +kernel, by decide⟩,
    ⟨.critical, by decide +kernel, by decide⟩, by simp⟩

theorem level_of_blank (h : r.logLevel = .blank) : (journalSetup r).level = "" := by
  rw [journalSetup, h]

-- What is not given has the level of informative records.
theorem exists_level (hr : r.Sensible) (hblank : r.logLevel ≠ .blank) : ∃ level,
    Log.Level.named? (Text.upper (journalSetup r).level) = some level ∧
      (r.logLevel ≠ .value "CRITICAL" → level.weight ≤ Log.Level.error.weight) := by
  cases hlevel : r.logLevel with
  | blank => exact absurd hlevel hblank
  | absent =>
    have hname : (journalSetup r).level = "INFO" := by rw [journalSetup, hlevel]
    obtain ⟨level, hnamed, hgrave⟩ := named?_of_mem_levels "INFO" (by simp [Request.levels])
    exact ⟨level, hname ▸ hnamed, fun _ => hgrave (by decide)⟩
  | value name =>
    have hname : (journalSetup r).level = name := by rw [journalSetup, hlevel]
    obtain ⟨level, hnamed, hgrave⟩ := named?_of_mem_levels name (hr.logLevel name hlevel)
    refine ⟨level, hname ▸ hnamed, fun hcritical => hgrave ?_⟩
    rintro rfl
    exact hcritical rfl

-- Without a file a sensible setup fails only for want of a level.
variable (files) in
theorem setup_journal (room : Nat) (hr : r.Sensible) (unlogged : r.logFile = .absent) :
    (r.logLevel = .blank ∧
      ∃ j e, Log.Journal.initial.setup files room (journalSetup r) = (j, files, .error e)) ∨
    (r.logLevel ≠ .blank ∧
      ∃ j handlers,
        Log.Journal.initial.setup files room (journalSetup r) = (j, files, .ok handlers) ∧
        (∀ h ∈ j.attached, h.isConsole = true) ∧
        (r.logLevel ≠ .value "CRITICAL" → j.takes .error = true)) := by
  have hlogFile : (journalSetup r).logFile = none := by rw [journalSetup, unlogged]; rfl
  have hanew : Log.Journal.initial.setup files room (journalSetup r) =
      Log.Journal.initial.setupAnew files room (journalSetup r) := rfl
  rw [hanew, Log.Journal.setupAnew, Log.Journal.setLevel]
  by_cases hblank : r.logLevel = .blank
  · have hlevel : Log.Level.named? (Text.upper "") = none := by decide +kernel
    rw [level_of_blank hblank, hlevel]
    exact .inl ⟨hblank, _, _, rfl⟩
  · obtain ⟨level, hlevel, hgrave⟩ := exists_level hr hblank
    rw [hlevel]
    simp only [Option.map_some, Log.Journal.installFile, hlogFile]
    refine .inr ⟨hblank, _, _, rfl, ?_, ?_⟩
    · intro h hh
      obtain rfl := List.mem_singleton.mp hh
      rfl
    · intro hcritical
      change (decide (0 < Log.Level.error.weight)
        && decide (level.weight ≤ Log.Level.error.weight)) = true
      rw [decide_eq_true (hgrave hcritical)]
      rfl

/-! ## 4. The command -/

-- A run whose journal was set up.
theorem ends_run {d : Desk} {j : Log.Journal} {handlers : List Log.Handler}
    (hempty : d.output = "")
    (hsetup : d.journal.setup d.files d.process.room (journalSetup r) =
      (j, d.files, .ok handlers))
    (hconsole : ∀ h ∈ j.attached, h.isConsole = true) :
    Ends d.files d.process d.now r (d.run r).ending (d.run r).desk.files (d.run r).desk.output ∧
      ((d.run r).ending = .exit 1 → j.takes .error = true →
        ∃ record ∈ (d.run r).desk.records, record.2.level = .error) := by
  have hunfiled : Desk.Unfiled { d with journal := j } := hconsole
  obtain ⟨⟨x, d'⟩, hrun⟩ : ∃ y, (fulfil r).run { d with journal := j } = y := ⟨_, rfl⟩
  obtain ⟨hends, htells, hfollows⟩ := ends_fulfil hunfiled hempty hrun
  rw [Desk.run, hsetup]
  dsimp only
  rw [hrun]
  cases x with
  | ok => exact ⟨hends, nofun⟩
  | error e =>
    cases e with
    | crash e => exact ⟨hends, nofun⟩
    | reported => exact ⟨hends, fun _ => htells rfl⟩
    | failed message =>
      have hd' := (hfollows message rfl).unfiled hunfiled
      have hshown := Desk.follows_note hd' .error "%s" [.text message]
      have hfinal := Desk.follows_note (hshown.unfiled hd') .debug "Compilation failed" []
      have htold : Desk.Tells { d with journal := j }
          ((d'.note .error "%s" [.text message]).note .debug "Compilation failed" []) :=
        ((Desk.tells_note d' "%s" [.text message]).before (hfollows message rfl)).after hfinal.records
      refine ⟨?_, fun _ => htold⟩
      change Ends d.files d.process d.now r (.exit 1)
        ((d'.note .error "%s" [.text message]).note .debug "Compilation failed" []).files
        ((d'.note .error "%s" [.text message]).note .debug "Compilation failed" []).output
      rw [hfinal.files, hshown.files, hfinal.output, hshown.output]
      exact hends

section Runs

variable (files process now) (accepted : Request.ofArguments arguments = .ok r)
  (unlogged : r.logFile = .absent)

include accepted unlogged

-- Without a level for the journal the command does not get anywhere.
theorem ending_run_of_blank (hblank : r.logLevel = .blank) :
    ∃ e, (run files process now arguments).ending = .crash (.setup e) := by
  obtain ⟨hr, -⟩ := Request.sensible_of_accepted accepted
  obtain ⟨-, j, e, hsetup⟩ | ⟨hlevel, -⟩ := setup_journal files process.room hr unlogged
  · have hdesk : (Desk.new files process now).journal.setup (Desk.new files process now).files
        (Desk.new files process now).process.room (journalSetup r) = (j, files, .error e) := hsetup
    rw [run, accepted]
    dsimp only
    rw [Desk.run, hdesk]
    exact ⟨e, rfl⟩
  · exact absurd hblank hlevel

-- With one it ends in one of the ways that there are.
theorem ends_run_of_level (hlevel : r.logLevel ≠ .blank) :
    Ends files process now r (run files process now arguments).ending
      (run files process now arguments).desk.files
      (run files process now arguments).desk.output ∧
    ((run files process now arguments).ending = .exit 1 → r.logLevel ≠ .value "CRITICAL" →
      ∃ record ∈ (run files process now arguments).desk.records, record.2.level = .error) := by
  obtain ⟨hr, -⟩ := Request.sensible_of_accepted accepted
  obtain ⟨hblank, -⟩ | ⟨-, j, handlers, hsetup, hconsole, htakes⟩ :=
    setup_journal files process.room hr unlogged
  · exact absurd hblank hlevel
  have hrun : run files process now arguments = (Desk.new files process now).run r := by
    rw [run, accepted]
  obtain ⟨hends, htells⟩ :=
    ends_run (d := Desk.new files process now) (j := j) rfl hsetup hconsole
  rw [hrun]
  exact ⟨hends, fun hexit hcritical => htells hexit (htakes hcritical)⟩

end Runs

end PenPlotter.CommandLine
