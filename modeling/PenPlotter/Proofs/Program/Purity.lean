import PenPlotter.Program.Draft
import PenPlotter.Proofs.Run

/-!
# Compiling anew

Whatever was done to a draft, and whatever of it failed, its program is that of a new draft of the
same drawing under the same settings.  The drawing, the settings and the text of a draft after a run
of operations are said here of the operations and their answers alone.
-/

set_option autoImplicit false

namespace PenPlotter

attribute [local irreducible] Tool.atRest

/-! ## 1. Settings in force -/

def Settings.acceptAll (s : Settings) (us : List Update) : Settings :=
  us.foldl (fun s u => (s.update u).toOption.getD s) s

theorem Settings.acceptAll_nil (s : Settings) : s.acceptAll [] = s := List.foldl_nil

theorem Settings.acceptAll_append (s : Settings) (us vs : List Update) :
    s.acceptAll (us ++ vs) = (s.acceptAll us).acceptAll vs :=
  List.foldl_append

theorem Settings.acceptAll_of_ok {s t : Settings} {u : Update} (h : s.update u = .ok t) :
    s.acceptAll [u] = t := by
  change (s.update u).toOption.getD s = t
  rw [h]
  rfl

theorem Settings.acceptAll_of_error {s : Settings} {u : Update} {rs : List Rejection}
    (h : s.update u = .error rs) : s.acceptAll [u] = s := by
  change (s.update u).toOption.getD s = s
  rw [h]
  rfl

namespace Draft

/-! ## 2. New drafts -/

def ofDrawing (settings : Settings) (segments : List Segment) : Draft :=
  segments.foldl record (new settings)

theorem foldl_record (d : Draft) (segments : List Segment) :
    segments.foldl record d = { d with history := ⟨d.history.segments ++ segments⟩ } := by
  induction segments generalizing d with
  | nil => simp
  | cons s segments ih =>
    rw [List.foldl_cons, ih, record, History.segments_record, List.append_assoc]
    rfl

theorem settings_ofDrawing (settings : Settings) (segments : List Segment) :
    (ofDrawing settings segments).settings = settings := by
  rw [ofDrawing, foldl_record]
  rfl

theorem segments_ofDrawing (settings : Settings) (segments : List Segment) :
    (ofDrawing settings segments).history.segments = segments := by
  rw [ofDrawing, foldl_record]
  rfl

-- The tool and the lines that an earlier compilation left are not looked at.
theorem snd_rebuild (d : Draft) :
    d.rebuild.2 =
      ((compile d.settings d.history.segments).2.map programText).mapError Trouble.error := by
  unfold rebuild
  rcases compile d.settings d.history.segments with ⟨tool, e | lines⟩
  · rfl
  · rfl

theorem snd_rebuild_ofDrawing (settings : Settings) (segments : List Segment) :
    (ofDrawing settings segments).rebuild.2 =
      ((compile settings segments).2.map programText).mapError Trouble.error := by
  rw [snd_rebuild, settings_ofDrawing, segments_ofDrawing]

theorem rebuild_eq_ofDrawing (d : Draft) :
    d.rebuild.2 = (ofDrawing d.settings d.history.segments).rebuild.2 := by
  rw [snd_rebuild, snd_rebuild_ofDrawing]

theorem settings_rebuild (d : Draft) : d.rebuild.1.settings = d.settings := by
  unfold rebuild
  split <;> rfl

theorem history_rebuild (d : Draft) : d.rebuild.1.history = d.history := by
  unfold rebuild
  split <;> rfl

theorem text_rebuild (d : Draft) : d.rebuild.1.text = d.rebuild.2.toOption.getD d.text := by
  unfold rebuild
  split <;> rfl

/-! ## 3. What an operation does -/

namespace Operation

def segment? : Operation → Option Segment
  | .record s => some s
  | _ => none

def update? : Operation → Option Update
  | .update u => some u
  | _ => none

def isClear : Operation → Bool
  | .clear => true
  | _ => false

end Operation

abbrev Step := PenPlotter.Step Draft Operation Answer

def Step.shown? (st : Step) : Option String :=
  match st.operation with
  | .clear => some ""
  | .announce => some (programText (header st.before.settings))
  | .rebuild => st.answer.toOption.join
  | .record _ | .update _ => none

theorem perform_update_of_ok {d : Draft} {u : Update} {t : Settings}
    (h : d.settings.update u = .ok t) : d.perform (.update u) = (d.configure t, .ok none) := by
  rw [perform, update, h]
  rfl

theorem perform_update_of_error {d : Draft} {u : Update} {rs : List Rejection}
    (h : d.settings.update u = .error rs) : d.perform (.update u) = (d, .error (.rejected rs)) := by
  rw [perform, update, h]
  rfl

theorem perform_rebuild (d : Draft) :
    d.perform .rebuild = (d.rebuild.1, (d.rebuild.2.map some).mapError .compile) := by
  rw [perform]
  rcases d.rebuild with ⟨d', e | text⟩
  · rfl
  · rfl

theorem segments_perform (d : Draft) (op : Operation) :
    (d.perform op).1.history.segments =
      if op.isClear then [] else d.history.segments ++ op.segment?.toList := by
  cases op with
  | record s => rfl
  | clear => rfl
  | announce => exact (List.append_nil _).symm
  | update u =>
    rw [show (Operation.update u).segment?.toList = [] from rfl, List.append_nil]
    cases h : d.settings.update u with
    | ok t => rw [perform_update_of_ok h]; rfl
    | error rs => rw [perform_update_of_error h]; rfl
  | rebuild =>
    rw [perform_rebuild]
    exact (congrArg History.segments (history_rebuild d)).trans (List.append_nil _).symm

theorem settings_perform (d : Draft) (op : Operation) :
    (d.perform op).1.settings = d.settings.acceptAll op.update?.toList := by
  cases op with
  | record s | clear | announce => exact (Settings.acceptAll_nil d.settings).symm
  | update u =>
    rw [show (Operation.update u).update?.toList = [u] from rfl]
    cases h : d.settings.update u with
    | ok t => rw [perform_update_of_ok h, Settings.acceptAll_of_ok h]; rfl
    | error rs => rw [perform_update_of_error h, Settings.acceptAll_of_error h]
  | rebuild =>
    rw [perform_rebuild]
    exact (settings_rebuild d).trans (Settings.acceptAll_nil d.settings).symm

theorem text_perform (d : Draft) (op : Operation) :
    (d.perform op).1.text = (Step.shown? (Run.step perform d op)).getD d.text := by
  cases op with
  | record s | clear | announce => rfl
  | update u =>
    cases h : d.settings.update u with
    | ok t => rw [perform_update_of_ok h]; rfl
    | error rs => rw [perform_update_of_error h]; rfl
  | rebuild =>
    change (d.perform .rebuild).1.text = ((d.perform .rebuild).2.toOption.join).getD d.text
    rw [perform_rebuild, text_rebuild]
    cases d.rebuild.2 with
    | ok text => rfl
    | error e => rfl

-- Only an update and a compilation can fail, and both keep what they were to replace.
theorem perform_of_error {d : Draft} {op : Operation} {e : Error} (h : (d.perform op).2 = .error e) :
    (d.perform op).1.history = d.history ∧ (d.perform op).1.settings = d.settings ∧
      (d.perform op).1.text = d.text := by
  cases op with
  | record s | clear | announce => cases h
  | update u =>
    cases hu : d.settings.update u with
    | ok t =>
      rw [perform_update_of_ok hu] at h
      cases h
    | error rs =>
      rw [perform_update_of_error hu]
      exact ⟨rfl, rfl, rfl⟩
  | rebuild =>
    rw [perform_rebuild] at h ⊢
    refine ⟨history_rebuild d, settings_rebuild d, ?_⟩
    rw [text_rebuild]
    cases hr : d.rebuild.2 with
    | ok text =>
      rw [hr] at h
      cases h
    | error e => rfl

/-! ## 4. What a run does -/

def steps (d : Draft) (ops : List Operation) : List Step := Run.steps perform d ops

def after (d : Draft) (ops : List Operation) : Draft := Run.final perform d ops

/-- The segments recorded since the drawing was last dropped. -/
def recorded (ops : List Operation) : List Segment :=
  (Run.sinceLast Operation.isClear ops).filterMap Operation.segment?

theorem after_concat (d : Draft) (ops : List Operation) (op : Operation) :
    d.after (ops ++ [op]) = ((d.after ops).perform op).1 :=
  Run.final_concat perform d ops op

theorem segments_after (settings : Settings) (ops : List Operation) :
    ((new settings).after ops).history.segments = recorded ops := by
  induction ops using List.reverseRecOn with
  | nil => rfl
  | append_singleton ops op ih =>
    rw [after_concat, segments_perform, ih]
    exact (Run.filterMap_sinceLast_concat _ ops op).symm

theorem settings_after (d : Draft) (ops : List Operation) :
    (d.after ops).settings = d.settings.acceptAll (ops.filterMap Operation.update?) := by
  induction ops using List.reverseRecOn with
  | nil => rfl
  | append_singleton ops op ih =>
    rw [after_concat, settings_perform, ih, Run.filterMap_concat, Settings.acceptAll_append]

theorem text_after (d : Draft) (ops : List Operation) :
    (d.after ops).text = ((d.steps ops).filterMap Step.shown?).getLast?.getD d.text := by
  induction ops using List.reverseRecOn with
  | nil => rfl
  | append_singleton ops op ih =>
    have hsteps : d.steps (ops ++ [op]) = d.steps ops ++ [Run.step perform (d.after ops) op] :=
      Run.steps_concat perform d ops op
    rw [after_concat, text_perform, ih, hsteps, Run.getLast?_filterMap_concat, Option.getD_or]

/-- **Compiling is a function of the drawing and the settings.**  After any operations, some of which
may have failed, a draft holds the segments recorded since its drawing was last dropped, in order, the
settings of the updates that were not rejected, and the text that was last compiled, announced or
dropped.  An operation that fails changes none of these.  And compiling gives the text, or fails for
the reason, that it gives or fails for in a new draft of the same drawing under the same settings. -/
theorem rebuild_after (settings : Settings) (ops : List Operation) :
    let d := (new settings).after ops
    d.history.segments = recorded ops ∧
      d.settings = settings.acceptAll (ops.filterMap Operation.update?) ∧
      d.text = (((new settings).steps ops).filterMap Step.shown?).getLast?.getD
        (programText (header settings)) ∧
      (∀ op e, (d.perform op).2 = .error e →
        (d.perform op).1.history = d.history ∧ (d.perform op).1.settings = d.settings ∧
          (d.perform op).1.text = d.text) ∧
      (d.perform .rebuild).2 = ((ofDrawing d.settings (recorded ops)).perform .rebuild).2 := by
  intro d
  have hsegments : d.history.segments = recorded ops := segments_after settings ops
  refine ⟨hsegments, settings_after (new settings) ops, text_after (new settings) ops,
    fun op e => perform_of_error, ?_⟩
  rw [perform_rebuild, perform_rebuild, rebuild_eq_ofDrawing d, hsegments]

def aborted : List Operation :=
  [.record ⟨0, 0, 10, 0⟩, .record ⟨.double .nan, 0, 0, 0⟩, .rebuild]

theorem rebuild_after_aborted :
    let d := (new .standard).after aborted
    d.tool = ⟨10, 0, true⟩ ∧ d.text = programText (header .standard) ∧
      (d.perform .rebuild).2 = ((ofDrawing d.settings (recorded aborted)).perform .rebuild).2 := by
  obtain ⟨-, -, -, -, hrebuild⟩ := rebuild_after .standard aborted
  exact ⟨by decide +kernel, by decide +kernel, hrebuild⟩

end Draft

end PenPlotter
