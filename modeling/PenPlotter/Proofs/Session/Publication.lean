import PenPlotter.Proofs.Session.Steps

/-!
# Published programs

What a session publishes is what a new draft of its drawing would be compiled to, under the settings in
force, however the session came to hold the drawing and the settings.  What was published last is the
program that the session shows.
-/

set_option autoImplicit false

namespace PenPlotter.Session

attribute [local irreducible] Tool.atRest

/-! ## 1. Drawing and settings -/

def drawn (ops : List Operation) : List Segment :=
  (Run.sinceLast Operation.isReset ops).filterMap Operation.segment?

def inForce (settings : Settings) (ops : List Operation) : Settings :=
  settings.acceptAll (ops.filterMap Operation.update?)

section Contents

variable (settings : Settings) (ops : List Operation)

theorem inForce_concat (op : Operation) :
    inForce settings (ops ++ [op]) = (inForce settings ops).acceptAll op.update?.toList := by
  unfold inForce
  rw [Run.filterMap_concat, Settings.acceptAll_append]

theorem segments_after : ((new (.new settings)).after ops).draft.history.segments = drawn ops := by
  induction ops using List.reverseRecOn with
  | nil => rfl
  | append_singleton ops op ih =>
    rw [after_concat, segments_perform, ih]
    exact (Run.filterMap_sinceLast_concat _ ops op).symm

theorem settings_after : ((new (.new settings)).after ops).draft.settings = inForce settings ops := by
  induction ops using List.reverseRecOn with
  | nil => rfl
  | append_singleton ops op ih => rw [after_concat, settings_perform, ih, inForce_concat]

end Contents

/-! ## 2. What is published -/

def Step.published? (st : Step) : Option String := st.answer.toOption.join

-- A reset publishes the header; anything else publishes only what it compiles.
theorem perform_eq_published_iff (s : Session) (op : Operation) (text : String) :
    (s.perform op).2 = .ok (some text) ↔
      (op = .reset ∧ text = programText (header s.draft.settings)) ∨
        (s.compiles op = true ∧
          (Draft.ofDrawing (s.draft.settings.acceptAll op.update?.toList)
            s.draft.history.segments).rebuild.2 = .ok text) := by
  have h := s.performs op
  generalize s.perform op = r at h
  cases h with
  | record | close | updated => simp [compiles]
  | reset =>
    change Except.ok (some (programText (header s.draft.settings))) = _ ↔ _
    simp [compiles, eq_comm]
  | rejected given rejected =>
    have hreset : op ≠ .reset := by
      rintro rfl
      cases given
    simp [not_compiles_of_rejected given rejected, hreset]
  | stale hstale => simp [compiles, hstale]
  | compiled hcompiles =>
    have hreset : op ≠ .reset := by
      rintro rfl
      cases hcompiles
    have hrebuild : (s.prepared op).draft.rebuild.2 =
        (Draft.ofDrawing (s.draft.settings.acceptAll op.update?.toList)
          s.draft.history.segments).rebuild.2 :=
      Draft.rebuild_eq_ofDrawing _
    rw [rebuild_eq, ← hrebuild, hcompiles]
    cases (s.prepared op).draft.rebuild.2 with
    | ok text => simp [Except.map, Except.mapError, hreset]
    | error e => simp [Except.map, Except.mapError, hreset]

-- A reset always publishes, and it is the only step that publishes without compiling.
theorem length_published_step (s : Session) (op : Operation) :
    ((s.perform op).2.toOption.join.toList).length =
      (if !op.isReset && (s.perform op).2.toOption.join.isSome then 1 else 0) +
        if op.isReset then 1 else 0 := by
  cases hreset : op.isReset with
  | true =>
    cases op with
    | reset => rfl
    | record | flush | update | regenerate | close | expire => cases hreset
  | false =>
    cases (s.perform op).2.toOption.join with
    | none => rfl
    | some text => rfl

section Published

variable (settings : Settings) (ops : List Operation)

theorem text_after (s : Session) :
    (s.after ops).draft.text =
      ((s.steps ops).filterMap Step.published?).getLast?.getD s.draft.text := by
  induction ops using List.reverseRecOn with
  | nil => rfl
  | append_singleton ops op ih =>
    rw [after_concat, text_perform, ih, steps_concat, Run.getLast?_filterMap_concat, Option.getD_or]
    rfl

theorem length_published (draft : Draft) :
    (((new draft).steps ops).filterMap Step.published?).length =
      ((new draft).after ops).rebuilds + ops.countP Operation.isReset := by
  induction ops using List.reverseRecOn with
  | nil => rfl
  | append_singleton ops op ih =>
    have hstep := length_published_step ((new draft).after ops) op
    rw [steps_concat, Run.filterMap_concat, List.length_append, ih, after_concat, rebuilds_perform,
      List.countP_append, List.countP_singleton]
    change _ + ((((new draft).after ops).perform op).2.toOption.join.toList).length = _
    rw [hstep]
    omega

end Published

/-- **What a session publishes** after any run is the header, at a reset, or what it compiles: at a
flush, a regeneration whose update is accepted and the expiry of the current timer.  The latter is the
program of a new draft of the segments recorded since the last reset, under the settings in force.
The text that was published last is the one that the session shows, and as many have been published as
there were compilations with success and resets. -/
theorem published_after (settings : Settings) (ops : List Operation) :
    let s := (new (.new settings)).after ops
    let texts := ((new (.new settings)).steps ops).filterMap Step.published?
    (∀ op text, (s.perform op).2 = .ok (some text) ↔
        (op = .reset ∧ text = programText (header (inForce settings ops))) ∨
          (s.compiles op = true ∧
            (Draft.ofDrawing (inForce settings (ops ++ [op])) (drawn ops)).rebuild.2 = .ok text)) ∧
      s.draft.text = texts.getLast?.getD (programText (header settings)) ∧
      texts.length = s.rebuilds + ops.countP Operation.isReset := by
  intro s texts
  refine ⟨fun op text => ?_, text_after ops _, length_published ops _⟩
  have hpublished := s.perform_eq_published_iff op text
  rwa [segments_after, settings_after, ← inForce_concat] at hpublished

end PenPlotter.Session
