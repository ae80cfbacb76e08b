import PenPlotter.Proofs.Session.Steps

/-!
# Debouncing

A compilation is due exactly if a segment came after the last step that cancelled the current timer or
used it up.  Timers that are not current do nothing when they expire, so a burst of segments costs one
compilation, and no segment is forgotten: its compilation is due until something settles it.
-/

set_option autoImplicit false

namespace PenPlotter.Session

attribute [local irreducible] Tool.atRest

/-! ## 1. Kinds of steps -/

namespace Step

def isRecord (st : Step) : Bool := st.operation.isRecord

def settles (st : Step) : Bool :=
  match st.operation, st.answer with
  | .reset, _ | .flush, _ | .close, _ => true
  | .regenerate _, .error (.rejected _) => false
  | .regenerate _, _ => true
  | .expire t, _ => st.before.current = some t
  | .record _, _ | .update _, _ => false

def rebuilt (st : Step) : Bool := st.before.rebuilds < st.after.rebuilds

def failed (st : Step) : Bool :=
  match st.answer with
  | .error (.compile _) => true
  | _ => false

def attempted (st : Step) : Bool := st.rebuilt || st.failed

/-- Whether a step can be part of a burst: a segment, an update, or a timer that is not current. -/
def quiet (st : Step) : Bool :=
  match st.operation with
  | .record _ | .update _ => true
  | .expire t => st.before.current ≠ some t
  | .reset | .flush | .regenerate _ | .close => false

end Step

/-! ## 2. One step -/

section Steps

variable {s : Session} {op : Operation}

theorem rebuilt_step (s : Session) (op : Operation) :
    Step.rebuilt (Run.step perform s op) =
      (!op.isReset && (s.perform op).2.toOption.join.isSome) := by
  change decide (s.rebuilds < (s.perform op).1.rebuilds) = _
  rw [rebuilds_perform]
  cases !op.isReset && (s.perform op).2.toOption.join.isSome
  · simp
  · simp

-- What is compiled by a step either succeeds, and then is published, or fails.
theorem attempted_step (s : Session) (op : Operation) :
    Step.attempted (Run.step perform s op) = s.compiles op := by
  rw [Step.attempted, rebuilt_step, Run.step, Step.failed]
  have h := s.performs op
  generalize s.perform op = r at h
  cases h with
  | record | reset | close | updated => rfl
  | rejected given rejected =>
    rw [not_compiles_of_rejected given rejected]
    exact Bool.or_eq_false_iff.2 ⟨Bool.and_false _, rfl⟩
  | stale hstale => exact (decide_eq_false hstale).symm
  | compiled hcompiles =>
    rw [hcompiles, (of_compiles hcompiles).2.1, rebuild_eq]
    cases (s.prepared op).draft.rebuild.2 with
    | ok text => rfl
    | error e => rfl

theorem settles_of_compiles (h : s.compiles op = true) :
    Step.settles (Run.step perform s op) = true := by
  rw [Run.step, Step.settles]
  have hperforms := s.performs op
  cases op with
  | flush => rfl
  | regenerate u =>
    generalize s.perform (.regenerate u) = r at hperforms
    cases hperforms with
    | rejected given rejected => cases h.symm.trans (not_compiles_of_rejected given rejected)
    | compiled =>
      rw [rebuild_eq]
      cases (s.prepared (.regenerate u)).draft.rebuild.2 with
      | ok text => rfl
      | error e => rfl
  | expire t => exact h
  | record | reset | update | close => cases h

theorem settles_of_rejected {u : Update} {rs : List Rejection} (given : op.update? = some u)
    (rejected : (s.perform op).2 = .error (.rejected rs)) :
    Step.settles (Run.step perform s op) = false := by
  rw [Run.step, Step.settles, rejected]
  cases op with
  | update | regenerate => rfl
  | record | reset | flush | close | expire => cases given

theorem current_perform (s : Session) (op : Operation) :
    (s.perform op).1.current =
      if op.isRecord then some s.armed
      else if Step.settles (Run.step perform s op) then none else s.current := by
  have h := s.performs op
  generalize hr : s.perform op = r at h
  cases h with
  | record => rfl
  | reset => rfl
  | close => rfl
  | updated accepted => rfl
  | rejected given rejected =>
    rw [(Operation.of_update? given).1, settles_of_rejected given (congrArg Prod.snd hr)]
    rfl
  | @stale t hstale =>
    have hsettles : Step.settles (Run.step perform s (.expire t)) = false := decide_eq_false hstale
    rw [hsettles]
    rfl
  | compiled hcompiles =>
    rw [(of_compiles hcompiles).1, settles_of_compiles hcompiles, rebuild_eq]
    rfl

theorem armed_perform (s : Session) (op : Operation) :
    (s.perform op).1.armed = s.armed + if op.isRecord then 1 else 0 := by
  have h := s.performs op
  generalize s.perform op = r at h
  cases h with
  | record | reset | close | updated | stale => rfl
  | rejected given =>
    rw [(Operation.of_update? given).1]
    rfl
  | compiled hcompiles =>
    rw [(of_compiles hcompiles).1, rebuild_eq]
    rfl

-- Apart from a reset and a closing, only what compiles settles the current timer.
theorem of_settles (h : Step.settles (Run.step perform s op) = true) :
    op = .reset ∨ op = .close ∨ s.compiles op = true := by
  have hperforms := s.performs op
  generalize hr : s.perform op = r at hperforms
  cases hperforms with
  | record | updated => cases h
  | reset => exact .inl rfl
  | close => exact .inr (.inl rfl)
  | rejected given =>
    rw [settles_of_rejected given (congrArg Prod.snd hr)] at h
    cases h
  | stale hstale => exact absurd (of_decide_eq_true h) hstale
  | compiled hcompiles => exact .inr (.inr hcompiles)

theorem settles_of_quiet {st : Step} (h : st.quiet = true) : st.settles = false := by
  unfold Step.quiet at h
  unfold Step.settles
  cases hop : st.operation with
  | record | update => rfl
  | expire t =>
    rw [hop] at h
    exact decide_eq_false (of_decide_eq_true h)
  | reset | flush | regenerate | close =>
    rw [hop] at h
    cases h

theorem not_compiles_of_quiet (h : Step.quiet (Run.step perform s op) = true) :
    s.compiles op = false := by
  cases op with
  | record | update => rfl
  | expire t => exact decide_eq_false (of_decide_eq_true h)
  | reset | flush | regenerate | close => cases h

end Steps

/-! ## 3. Runs -/

section Runs

variable (draft : Draft) (ops : List Operation)

theorem pending_iff :
    ((new draft).after ops).pending = true ↔
      Run.Since Step.isRecord Step.settles ((new draft).steps ops) := by
  induction ops using List.reverseRecOn with
  | nil => exact iff_of_false Bool.false_ne_true Run.not_since_nil
  | append_singleton ops op ih =>
    rw [after_concat, steps_concat, Run.since_concat, ← ih, pending, current_perform]
    change _ ↔ op.isRecord = true ∨ _
    cases op.isRecord with
    | true => exact iff_of_true rfl (.inl rfl)
    | false =>
      cases Step.settles (Run.step perform ((new draft).after ops) op) with
      | true => simp
      | false => simp [pending]

theorem armed_after : ((new draft).after ops).armed = ops.countP Operation.isRecord := by
  induction ops using List.reverseRecOn with
  | nil => rfl
  | append_singleton ops op ih =>
    rw [after_concat, armed_perform, ih, List.countP_append, List.countP_singleton]

-- The current timer is the one that was armed last.
theorem succ_eq_armed_of_current {t : Timer} (h : ((new draft).after ops).current = some t) :
    t + 1 = ((new draft).after ops).armed := by
  induction ops using List.reverseRecOn with
  | nil => cases h
  | append_singleton ops op ih =>
    rw [after_concat, current_perform] at h
    rw [after_concat, armed_perform]
    cases hrecord : op.isRecord with
    | true =>
      rw [hrecord] at h
      exact congrArg (· + 1) (Option.some.inj h).symm
    | false =>
      rw [hrecord, if_neg Bool.false_ne_true] at h
      rw [if_neg Bool.false_ne_true]
      split at h
      · cases h
      · exact ih h

-- A burst after any run leaves a timer that is current, and nothing has been compiled on the way.
theorem burst {more : List Operation}
    (hquiet : ∀ st ∈ ((new draft).after ops).steps more, st.quiet = true)
    (hrecord : ∃ st ∈ ((new draft).after ops).steps more, st.isRecord = true) :
    ((new draft).after (ops ++ more)).pending = true ∧
      (((new draft).after ops).steps more).countP Step.attempted = 0 := by
  constructor
  · rw [pending_iff, steps_append]
    obtain ⟨st, hst, hrecord⟩ := hrecord
    obtain ⟨front, rest, hsplit⟩ := List.append_of_mem hst
    rw [hsplit] at hquiet ⊢
    refine ⟨(new draft).steps ops ++ front, st, rest, (List.append_assoc ..).symm, hrecord, ?_⟩
    intro u hu
    exact settles_of_quiet (hquiet u (by simp [hu]))
  · rw [List.countP_eq_zero]
    intro st hst
    obtain ⟨s, op, rfl⟩ := Run.exists_of_mem_steps perform hst
    rw [attempted_step, not_compiles_of_quiet (hquiet _ hst)]
    exact Bool.false_ne_true

-- What settles the current timer without a program or a reset is a closing, or compiling in vain.
theorem pending_or_lost {front rest : List Step} {st : Step}
    (hsteps : (new draft).steps ops = front ++ st :: rest) (hrecord : st.isRecord = true)
    (hrest : ∀ u ∈ rest, u.rebuilt = false ∧ u.operation ≠ .reset) :
    ((new draft).after ops).pending = true ∨ ∃ u ∈ rest, u.operation = .close ∨ u.failed = true := by
  by_cases hsettled : ∃ u ∈ rest, u.settles = true
  · obtain ⟨u, hu, hsettles⟩ := hsettled
    have hmem : u ∈ (new draft).steps ops := by simp [hsteps, hu]
    obtain ⟨before, op, rfl⟩ := Run.exists_of_mem_steps perform hmem
    obtain ⟨hrebuilt, hreset⟩ := hrest _ hu
    refine .inr ⟨_, hu, ?_⟩
    rcases of_settles hsettles with h | h | h
    · exact absurd h hreset
    · exact .inl h
    · rw [← attempted_step, Step.attempted, hrebuilt, Bool.false_or] at h
      exact .inr h
  · refine .inl ((pending_iff draft ops).2 ⟨front, st, rest, hsteps, hrecord, ?_⟩)
    intro u hu
    exact Bool.eq_false_iff.2 fun hsettles => hsettled ⟨u, hu, hsettles⟩

end Runs

/-- **Debouncing.**  A compilation is due exactly if a segment was recorded after the last step that
cancelled the current timer or used it up.  The current timer is the one armed last, and any other
does nothing when it expires.  So a burst of segments, with updates and the expiry of other timers
between them, costs one compilation, which is tried when its timer expires.  And where a segment was
recorded and nothing compiled with success or reset since then, a compilation is due, or else the
session was closed or has failed to compile since then. -/
theorem debounce (draft : Draft) (ops : List Operation) :
    let s := (new draft).after ops
    (s.pending = true ↔ Run.Since Step.isRecord Step.settles ((new draft).steps ops)) ∧
      (∀ t, s.current = some t → t + 1 = ops.countP Operation.isRecord) ∧
      (∀ t, s.current ≠ some t → s.perform (.expire t) = (s, .ok none)) ∧
      (∀ more, (∀ st ∈ s.steps more, st.quiet = true) → (∃ st ∈ s.steps more, st.isRecord = true) →
        ∃ t, (s.after more).current = some t ∧
          (s.steps (more ++ [.expire t])).countP Step.attempted = 1) ∧
      (∀ front st rest, (new draft).steps ops = front ++ st :: rest → st.isRecord = true →
        (∀ u ∈ rest, u.rebuilt = false ∧ u.operation ≠ .reset) →
        s.pending = true ∨ ∃ u ∈ rest, u.operation = .close ∨ u.failed = true) := by
  intro s
  refine ⟨pending_iff draft ops, ?_, fun t ht => if_neg ht, ?_, ?_⟩
  · intro t ht
    rw [succ_eq_armed_of_current draft ops ht, armed_after]
  · intro more hquiet hrecord
    obtain ⟨hpending, hnone⟩ := burst draft ops hquiet hrecord
    rw [after_append] at hpending
    obtain ⟨t, ht⟩ := Option.isSome_iff_exists.1 hpending
    have hcompiles : (s.after more).compiles (.expire t) = true := decide_eq_true ht
    refine ⟨t, ht, ?_⟩
    rw [steps_concat, List.countP_append, hnone, List.countP_singleton, attempted_step, hcompiles]
    rfl
  · intro front st rest
    exact pending_or_lost draft ops

def twoSegments : List Operation :=
  [.record ⟨0, 0, 10, 0⟩, .record ⟨10, 0, 10, 10⟩, .expire 0]

theorem debounce_twoSegments :
    let s := new (.new .standard)
    ∃ t, (s.after twoSegments).current = some t ∧
      (s.steps (twoSegments ++ [.expire t])).countP Step.attempted = 1 :=
  (debounce (.new .standard) []).2.2.2.1 twoSegments (by decide) (by decide)

end PenPlotter.Session
