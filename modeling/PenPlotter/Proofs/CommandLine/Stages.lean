import PenPlotter.Proofs.CommandLine.Task
import PenPlotter.Proofs.Program.Purity

/-!
# The stages of the command

Up to the delivery of the program the command only reads its desk.  Each stage is given here by its
result, as a function of the files, the process and the request alone, and the tasks of the command
are shown to give these results.
-/

set_option autoImplicit false

namespace PenPlotter.CommandLine

open Files

/-! ## 1. Results -/

namespace Request

def source (r : Request) : Except Stop SettingsSource :=
  match r.config with
  | .absent => .ok .shipped
  | .blank => .error (.crash .noPath)
  | .value path => .ok (.file (.ofText path))

def settings (files : Store) (process : Runtime) (r : Request) : Except Stop Settings := do
  let source ← r.source
  let read ← (readSettings files process source (profileOf r.profile)).mapError stopForProfile
  (read.revise (overrides r)).mapError stopForRejection

def drawing (files : Store) (process : Runtime) (r : Request) : Except Stop (List Segment) :=
  match r.pattern.value?.bind Pattern.named?, r.segments with
  | some pattern, _ => pattern.segments.mapError (.crash ∘ .pattern)
  | none, .value path => (readDrawing files process (.ofText path)).mapError stopForDrawing
  | none, _ => .error (.crash .noPath)

end Request

def programOf (settings : Settings) (segments : List Segment) : Except Stop String :=
  (Draft.ofDrawing settings segments).rebuild.2.mapError stopForCompile

def replayOf (settings : Settings) (program : String) : Except Replay.Error Replay.Report :=
  Replay.check settings program (.double 6000)

def verdict (settings : Settings) (program : String) : Except Stop Unit := do
  let report ← (replayOf settings program).mapError (.crash ∘ .replay)
  if report.violations.isEmpty then return () else throw .reported

def Request.program (files : Store) (process : Runtime) (r : Request) : Except Stop String := do
  let settings ← r.settings files process
  let segments ← r.drawing files process
  let program ← programOf settings segments
  if r.check then verdict settings program
  return program

-- Each part of the reading of settings stops the command on its own.
theorem Request.settings_eq (r : Request) (files : Store) (process : Runtime) :
    r.settings files process = (do
    let source ← r.source
    let entries ← (source.entries files process).mapError stopForProfile
    let choice ← (choose process.room source.shown entries (profileOf r.profile)).mapError
      stopForProfile
    let settings ← (Settings.ofEntries choice.entries).mapError stopForRejection
    (settings.revise (overrides r)).mapError stopForRejection) := by
  rw [Request.settings]
  congr 1
  funext source
  rw [readSettings, mapError_bind, bind_assoc]
  congr 1
  funext entries
  rw [mapError_bind, bind_assoc]
  congr 1
  funext choice
  cases Settings.ofEntries choice.entries <;> rfl

/-! ## 2. Tasks -/

namespace Task

variable {d : Desk}

theorem gives_sourceOf (r : Request) (d : Desk) : Gives (sourceOf r.config) d r.source := by
  unfold sourceOf Request.source
  cases r.config with
  | absent => exact .pure d _
  | blank => exact .throw d (by simp)
  | value path => exact .pure d _

theorem stopForProfile_ne_reported (e : ProfileError) : stopForProfile e ≠ .reported := by
  unfold stopForProfile
  dsimp only
  split
  · split <;> nofun
  all_goals nofun

theorem stopForDrawing_ne_reported (e : DrawingError) : stopForDrawing e ≠ .reported := by
  unfold stopForDrawing
  dsimp only
  split
  · split <;> nofun
  all_goals nofun

theorem stopForCompile_ne_reported (e : CompileError) : stopForCompile e ≠ .reported := by
  cases e <;> simp [stopForCompile]

theorem crash_ne_reported {δ : Type} (f : δ → Crash) (e : δ) :
    (Stop.crash ∘ f) e ≠ .reported := nofun

-- A choice of settings is validated, and then revised as the request asks.
theorem gives_revised (r : Request) (choice : Choice) (hd : d.Unfiled) :
    Gives (do
      for key in Patch.unknownKeys choice.entries do
        Task.debug "Ignoring unrecognised configuration key %r" [key]
      let settings ← Task.take stopForRejection (Settings.ofEntries choice.entries)
      Task.info "Configuration loaded successfully" []
      Task.take stopForRejection (settings.revise (overrides r))) d (do
    let settings ← (Settings.ofEntries choice.entries).mapError stopForRejection
    (settings.revise (overrides r)).mapError stopForRejection) := by
  refine (gives_notes _ _ _ _ hd).then hd fun d₁ _ hd₁ => ?_
  refine (gives_take (by simp [stopForRejection]) _ _).bind hd₁ fun settings d₂ _ hd₂ => ?_
  refine (gives_note hd₂ _ _ _).then hd₂ fun d₃ _ _ => ?_
  exact gives_take (by simp [stopForRejection]) _ _

theorem gives_loadSettings (r : Request) (hd : d.Unfiled) :
    Gives (loadSettings r) d (r.settings d.files d.process) := by
  rw [Request.settings_eq, loadSettings]
  refine (gives_sourceOf r d).bind hd fun source d₁ h₁ hd₁ => .get ?_
  rw [← h₁.files, ← h₁.process]
  refine (gives_take stopForProfile_ne_reported _ _).bind hd₁ fun entries d₂ _ hd₂ => ?_
  refine (gives_note hd₂ _ _ _).then hd₂ fun d₃ _ hd₃ => ?_
  refine (gives_take stopForProfile_ne_reported _ _).bind hd₃ fun choice d₄ _ hd₄ => ?_
  split
  · exact (gives_note hd₄ _ _ _).then hd₄ fun d₅ _ hd₅ => gives_revised r choice hd₅
  · exact gives_revised r choice hd₄

theorem gives_loadDrawing (r : Request) (hd : d.Unfiled) :
    Gives (loadDrawing r) d (r.drawing d.files d.process) := by
  unfold loadDrawing Request.drawing
  cases r.pattern.value?.bind Pattern.named? with
  | some pattern =>
    exact (gives_push d _ _).then hd fun d' _ _ => gives_take (crash_ne_reported _) _ d'
  | none =>
    cases r.segments with
    | value path =>
      refine (gives_push d _ _).then hd fun d' h _ => .get ?_
      rw [h.files, h.process]
      exact gives_take stopForDrawing_ne_reported _ d'
    | absent => exact .throw d (by simp)
    | blank => exact .throw d (by simp)

theorem gives_summarize (draft : Draft) (hd : d.Unfiled) : Gives (summarize draft) d (.ok ()) := by
  rw [summarize]
  split
  · exact gives_note hd _ _ _
  · exact gives_note hd _ _ _

theorem gives_makeProgram (settings : Settings) (segments : List Segment) (hd : d.Unfiled) :
    Gives (makeProgram settings segments) d (programOf settings segments) := by
  rw [makeProgram, programOf, Draft.ofDrawing]
  generalize (segments.foldl Draft.record (.new settings)).rebuild = made
  obtain ⟨draft, program⟩ := made
  have hresult : program.mapError stopForCompile =
      program.mapError stopForCompile >>= fun text => .ok text := (bind_pure _).symm
  rw [hresult]
  refine (gives_take stopForCompile_ne_reported _ d).bind hd fun text d₁ _ hd₁ => ?_
  exact (gives_summarize draft hd₁).then hd₁ fun d₂ _ _ => .pure d₂ _

theorem gives_checkProgram (settings : Settings) (program : String) (hd : d.Unfiled) :
    Gives (checkProgram settings program) d (verdict settings program) := by
  rw [checkProgram, verdict, replayOf, Replay.check]
  generalize Replay.Replayer.of settings program (.double 6000) = replayer
  refine (gives_note hd _ _ _).then hd fun d₁ _ hd₁ => ?_
  obtain ⟨after, report⟩ := replayer.run
  refine (gives_notes _ _ _ _ hd₁).then hd₁ fun d₂ _ hd₂ => ?_
  refine (gives_take (crash_ne_reported _) _ d₂).bind hd₂ fun report d₃ _ hd₃ => ?_
  refine (gives_note hd₃ _ _ _).then hd₃ fun d₄ _ hd₄ => ?_
  have hrest : ∀ {d' : Desk} (summary failure : String) (counts violations : List Value),
      d'.Unfiled → Gives (do
        Task.info summary counts
        if report.violations.isEmpty then pure ()
        else do
          Task.note .error failure violations
          throw .reported) d'
        (if report.violations.isEmpty then pure () else throw .reported) := by
    intro d' summary failure counts violations hd'
    refine (gives_note hd' _ _ _).then hd' fun d₅ _ hd₅ => ?_
    split
    · exact .pure d₅ _
    · exact ⟨_, rfl, Desk.follows_note hd₅ _ _ _, fun _ => Desk.tells_note _ _ _⟩
  dsimp only
  split
  · exact (gives_note hd₄ _ _ _).then hd₄ fun d' _ hd' => hrest _ _ _ _ hd'
  · exact hrest _ _ _ _ hd₄

end Task

end PenPlotter.CommandLine
