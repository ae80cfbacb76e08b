import PenPlotter.Proofs.Session.Steps

/-!
# Failed compilations

Where a flush or a regeneration fails, the drawing and the program stay as they are and nothing is
published.  A rejected update leaves all else as it is too.  A compilation that fails does not: it has
cancelled the current timer by then, and the update given with it stays in force.
-/

set_option autoImplicit false

namespace PenPlotter.Session

attribute [local irreducible] Tool.atRest

variable {s : Session} {op : Operation} {e : Draft.Error}

-- Both operations either have their update rejected or come to compiling.
theorem rejected_or_compiles (hop : op = .flush ∨ ∃ u, op = .regenerate u) :
    (∃ rs, s.perform op = (s, .error (.rejected rs))) ∨
      (s.compiles op = true ∧ s.perform op = (s.prepared op).rebuild) := by
  have h := s.performs op
  generalize s.perform op = r at h ⊢
  cases h with
  | record | reset | close | updated | stale =>
    rcases hop with h | ⟨u, h⟩
    · cases h
    · cases h
  | @rejected _ _ rs => exact .inl ⟨rs, rfl⟩
  | compiled hcompiles => exact .inr ⟨hcompiles, rfl⟩

-- What comes to compiling has its update accepted.
theorem update_of_compiles {u : Update} (h : s.compiles op = true) (hu : op.update? = some u) :
    s.draft.settings.update u = .ok (s.prepared op).draft.settings := by
  cases hupdate : s.draft.settings.update u with
  | ok t =>
    change Except.ok t = .ok (s.draft.settings.acceptAll op.update?.toList)
    rw [hu, show (some u).toList = [u] from rfl, Settings.acceptAll_of_ok hupdate]
  | error rs => cases h.symm.trans (not_compiles_of_rejected hu hupdate)

theorem rebuild_of_error (h : s.rebuild.2 = .error e) :
    s.rebuild.1 = { s with draft := s.draft.rebuild.1 } ∧ s.draft.rebuild.1.text = s.draft.text ∧
      ∃ cause, e = .compile cause := by
  rw [rebuild_eq] at h ⊢
  rw [Draft.text_rebuild]
  cases hr : s.draft.rebuild.2 with
  | ok text =>
    rw [hr] at h
    cases h
  | error cause =>
    rw [hr] at h
    cases h
    exact ⟨rfl, rfl, cause, rfl⟩

/-- **A flush or a regeneration that fails** keeps the drawing, the program and the number of
compilations, and publishes nothing.  If its update was rejected, the settings and what is due are kept
as well.  If compiling failed, nothing is due any more, and the settings in force are those of the
update, if one was given. -/
theorem perform_failed (s : Session) (op : Operation) (hop : op = .flush ∨ ∃ u, op = .regenerate u)
    (e : Draft.Error) (h : (s.perform op).2 = .error e) :
    let s' := (s.perform op).1
    s'.draft.history = s.draft.history ∧ s'.draft.text = s.draft.text ∧ s'.rebuilds = s.rebuilds ∧
      (s.perform op).2.toOption.join = none ∧
      ((∃ rs, e = .rejected rs) ∧ s'.draft.settings = s.draft.settings ∧ s'.pending = s.pending ∨
        (∃ cause, e = .compile cause) ∧ s'.pending = false ∧
          (op.update? = none → s'.draft.settings = s.draft.settings) ∧
          ∀ u, op.update? = some u → s.draft.settings.update u = .ok s'.draft.settings) := by
  intro s'
  rcases rejected_or_compiles (s := s) hop with ⟨rs, hrejected⟩ | ⟨hcompiles, hperform⟩
  · have hs' : s' = s := congrArg Prod.fst hrejected
    rw [hrejected] at h ⊢
    rw [hs']
    cases h
    exact ⟨rfl, rfl, rfl, rfl, .inl ⟨⟨rs, rfl⟩, rfl, rfl⟩⟩
  · rw [hperform] at h
    obtain ⟨hrebuild, htext, cause, rfl⟩ := rebuild_of_error h
    have hs' : s' = { s.prepared op with draft := (s.prepared op).draft.rebuild.1 } :=
      (congrArg Prod.fst hperform).trans hrebuild
    have hsettings : (s.prepared op).draft.rebuild.1.settings =
        s.draft.settings.acceptAll op.update?.toList := Draft.settings_rebuild _
    rw [hperform, h, hs']
    refine ⟨Draft.history_rebuild _, htext, rfl, rfl, .inr ⟨⟨cause, rfl⟩, rfl, ?_, ?_⟩⟩
    · intro hnone
      refine hsettings.trans ?_
      rw [hnone]
      exact Settings.acceptAll_nil _
    · intro u hu
      rw [update_of_compiles hcompiles hu]
      exact congrArg Except.ok hsettings.symm

def unplaceable : Session := (new (.new .standard)).after [.record ⟨.double .nan, 0, 1, 1⟩]

/-- Its flush fails, and the compilation that was due is due no more. -/
theorem perform_failed_unplaceable :
    unplaceable.pending = true ∧ (unplaceable.perform .flush).1.pending = false ∧
      (unplaceable.perform .flush).1.draft.text = unplaceable.draft.text := by
  have hfails : (unplaceable.perform .flush).2 =
      .error (.compile (.notFinite ⟨.double .nan, 0, 1, 1⟩)) := by decide +kernel
  obtain ⟨-, htext, -, -, hcause⟩ := perform_failed unplaceable .flush (.inl rfl) _ hfails
  rcases hcause with ⟨⟨rs, hrejected⟩, -⟩ | ⟨-, hpending, -⟩
  · cases hrejected
  · exact ⟨rfl, hpending, htext⟩

def wide : Session := (new (.new .standard)).after [.record ⟨0, 0, 10000000000, 0⟩]

def enlarge : Update :=
  .patch (Patch.empty.put .scalePercent (.number (.double (.ofDecimal false 1 308))))

/-- Regenerating at that scale fails, and leaves other settings in force and nothing due. -/
theorem perform_failed_not_intact :
    (wide.perform (.regenerate (some enlarge))).2 =
        .error (.compile (.notFinite ⟨0, 0, 10000000000, 0⟩)) ∧
      wide.pending = true ∧ (wide.perform (.regenerate (some enlarge))).1.pending = false ∧
      (wide.perform (.regenerate (some enlarge))).1.draft.settings ≠ wide.draft.settings :=
  ⟨by decide +kernel, rfl, by decide +kernel, by decide +kernel⟩

end PenPlotter.Session
