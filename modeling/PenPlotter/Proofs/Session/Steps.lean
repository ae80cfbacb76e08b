import PenPlotter.Proofs.Program.Purity
import PenPlotter.Session

/-!
# What happens to a session in one step

Everything that an operation can do to a session is said once, by the cases of `Performs`.  What it
does to each part of the session, and when it publishes, is read off these cases.
-/

set_option autoImplicit false

namespace PenPlotter.Session

attribute [local irreducible] Tool.atRest

/-! ## 1. Kinds of operations -/

namespace Operation

def segment? : Operation → Option Segment
  | .record s => some s
  | _ => none

def update? : Operation → Option Update
  | .update u => some u
  | .regenerate u => u
  | _ => none

def isRecord : Operation → Bool
  | .record _ => true
  | _ => false

def isReset : Operation → Bool
  | .reset => true
  | _ => false

end Operation

def compiles (s : Session) : Operation → Bool
  | .flush | .regenerate none => true
  | .regenerate (some u) => (s.draft.settings.update u).isOk
  | .expire t => s.current = some t
  | .record _ | .reset | .update _ | .close => false

def prepared (s : Session) (op : Operation) : Session :=
  { s with
    draft := s.draft.configure (s.draft.settings.acceptAll op.update?.toList)
    current := none }

inductive Performs (s : Session) : Operation → Session × Draft.Answer → Prop
  | record (segment : Segment) : Performs s (.record segment) (s.record segment, .ok none)
  | reset : Performs s .reset s.reset
  | close : Performs s .close (s.cancel, .ok none)
  | updated {u : Update} {t : Settings} (accepted : s.draft.settings.update u = .ok t) :
      Performs s (.update u) ({ s with draft := s.draft.configure t }, .ok none)
  | rejected {op : Operation} {u : Update} {rs : List Rejection} (given : op.update? = some u)
      (rejected : s.draft.settings.update u = .error rs) :
      Performs s op (s, .error (.rejected rs))
  | stale {t : Timer} (stale : s.current ≠ some t) : Performs s (.expire t) (s, .ok none)
  | compiled {op : Operation} (compiles : s.compiles op = true) :
      Performs s op (s.prepared op).rebuild

theorem performs (s : Session) (op : Operation) : Performs s op (s.perform op) := by
  cases op with
  | record segment => exact .record segment
  | reset => exact .reset
  | flush => exact .compiled rfl
  | update u =>
    cases hu : s.draft.settings.update u with
    | ok t =>
      have hperform : s.perform (.update u) = ({ s with draft := s.draft.configure t }, .ok none) := by
        rw [perform, update, Draft.update, hu]
        rfl
      exact hperform ▸ .updated hu
    | error rs =>
      have hperform : s.perform (.update u) = (s, .error (.rejected rs)) := by
        rw [perform, update, Draft.update, hu]
        rfl
      exact hperform ▸ .rejected rfl hu
  | regenerate u =>
    cases u with
    | none => exact .compiled rfl
    | some u =>
      cases hu : s.draft.settings.update u with
      | ok t =>
        have hcompiles : s.compiles (.regenerate (some u)) = true := by
          rw [compiles, hu]
          rfl
        have hperform : s.perform (.regenerate (some u)) =
            (s.prepared (.regenerate (some u))).rebuild := by
          rw [perform, regenerate, prepared, Option.elim, Draft.update, hu,
            show (Operation.regenerate (some u)).update?.toList = [u] from rfl,
            Settings.acceptAll_of_ok hu]
          rfl
        exact hperform ▸ .compiled hcompiles
      | error rs =>
        have hperform : s.perform (.regenerate (some u)) = (s, .error (.rejected rs)) := by
          rw [perform, regenerate, Option.elim, Draft.update, hu]
          rfl
        exact hperform ▸ .rejected rfl hu
  | close => exact .close
  | expire t =>
    by_cases hcurrent : s.current = some t
    · have hperform : s.perform (.expire t) = (s.prepared (.expire t)).rebuild := if_pos hcurrent
      exact hperform ▸ .compiled (decide_eq_true hcurrent)
    · have hperform : s.perform (.expire t) = (s, .ok none) := if_neg hcurrent
      exact hperform ▸ .stale hcurrent

/-! ## 2. What a step does to each part -/

section Parts

variable {s : Session} {op : Operation}

-- Neither an update nor a compilation touches the drawing.
theorem Operation.of_update? {u : Update} (h : op.update? = some u) :
    op.isRecord = false ∧ op.isReset = false ∧ op.segment? = none := by
  cases op with
  | update | regenerate => exact ⟨rfl, rfl, rfl⟩
  | record | reset | flush | close | expire => cases h

theorem of_compiles (h : s.compiles op = true) :
    op.isRecord = false ∧ op.isReset = false ∧ op.segment? = none := by
  cases op with
  | flush | regenerate | expire => exact ⟨rfl, rfl, rfl⟩
  | record | reset | update | close => cases h

-- A regeneration whose update is rejected does not come to compiling.
theorem not_compiles_of_rejected {u : Update} {rs : List Rejection} (given : op.update? = some u)
    (rejected : s.draft.settings.update u = .error rs) : s.compiles op = false := by
  cases op with
  | update => rfl
  | regenerate =>
    obtain rfl := given
    rw [compiles, rejected]
    rfl
  | record | reset | flush | close | expire => cases given

theorem rebuild_eq (s : Session) :
    s.rebuild =
      ({ s with
          draft := s.draft.rebuild.1
          rebuilds := s.rebuilds + if s.draft.rebuild.2.isOk then 1 else 0 },
        (s.draft.rebuild.2.map some).mapError .compile) := by
  unfold rebuild
  rcases s.draft.rebuild with ⟨draft, e | text⟩
  · rfl
  · rfl

theorem segments_perform (s : Session) (op : Operation) :
    (s.perform op).1.draft.history.segments =
      if op.isReset then [] else s.draft.history.segments ++ op.segment?.toList := by
  have h := s.performs op
  generalize s.perform op = r at h
  cases h with
  | record segment => rfl
  | reset => rfl
  | close | updated | stale => exact (List.append_nil _).symm
  | rejected given =>
    obtain ⟨-, hreset, hsegment⟩ := Operation.of_update? given
    rw [hreset, hsegment]
    exact (List.append_nil _).symm
  | compiled hcompiles =>
    obtain ⟨-, hreset, hsegment⟩ := of_compiles hcompiles
    rw [hreset, hsegment, rebuild_eq]
    exact (congrArg History.segments (Draft.history_rebuild _)).trans (List.append_nil _).symm

theorem settings_perform (s : Session) (op : Operation) :
    (s.perform op).1.draft.settings = s.draft.settings.acceptAll op.update?.toList := by
  have h := s.performs op
  generalize s.perform op = r at h
  cases h with
  | record | reset | close | stale => exact (Settings.acceptAll_nil _).symm
  | updated accepted => exact (Settings.acceptAll_of_ok accepted).symm
  | rejected given rejected =>
    rw [given]
    exact (Settings.acceptAll_of_error rejected).symm
  | compiled =>
    rw [rebuild_eq]
    exact Draft.settings_rebuild _

-- A program that is published is the one that is shown from then on.
theorem text_perform (s : Session) (op : Operation) :
    (s.perform op).1.draft.text = (s.perform op).2.toOption.join.getD s.draft.text := by
  have h := s.performs op
  generalize s.perform op = r at h
  cases h with
  | record | reset | close | updated | rejected | stale => rfl
  | compiled =>
    rw [rebuild_eq]
    refine (Draft.text_rebuild _).trans ?_
    cases (s.prepared op).draft.rebuild.2 with
    | ok text => rfl
    | error e => rfl

theorem rebuilds_perform (s : Session) (op : Operation) :
    (s.perform op).1.rebuilds =
      s.rebuilds + if !op.isReset && (s.perform op).2.toOption.join.isSome then 1 else 0 := by
  have h := s.performs op
  generalize s.perform op = r at h
  cases h with
  | record | reset | close | updated | stale => rfl
  | rejected given =>
    rw [(Operation.of_update? given).2.1]
    rfl
  | compiled hcompiles =>
    rw [(of_compiles hcompiles).2.1, rebuild_eq]
    cases (s.prepared op).draft.rebuild.2 with
    | ok text => rfl
    | error e => rfl

end Parts

/-! ## 3. Runs -/

abbrev Step := PenPlotter.Step Session Operation Draft.Answer

def steps (s : Session) (ops : List Operation) : List Step := Run.steps perform s ops

def after (s : Session) (ops : List Operation) : Session := Run.final perform s ops

theorem after_concat (s : Session) (ops : List Operation) (op : Operation) :
    s.after (ops ++ [op]) = ((s.after ops).perform op).1 :=
  Run.final_concat perform s ops op

theorem after_append (s : Session) (ops more : List Operation) :
    s.after (ops ++ more) = (s.after ops).after more :=
  Run.final_append perform s ops more

theorem steps_concat (s : Session) (ops : List Operation) (op : Operation) :
    s.steps (ops ++ [op]) = s.steps ops ++ [Run.step perform (s.after ops) op] :=
  Run.steps_concat perform s ops op

theorem steps_append (s : Session) (ops more : List Operation) :
    s.steps (ops ++ more) = s.steps ops ++ (s.after ops).steps more :=
  Run.steps_append perform s ops more

end PenPlotter.Session
