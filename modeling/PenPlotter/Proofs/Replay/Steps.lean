import PenPlotter.Proofs.Replay.Runs

/-!
# What steps note and keep

What any instruction does to the pen and to the violations noted so far, and what follows for runs.
Nothing is asked of the machine or of the program here.
-/

set_option autoImplicit false

namespace PenPlotter.Replay

/-! ## 1. What a step notes -/

namespace Machine

section Steps

variable {setup : Setup} {m m' : Machine} {place : Place}

def noted (m : Machine) (place : Place) : Instruction → List Violation
  | .penDown => if m.penDown then [.redundantPenDown place] else []
  | .penUp => if m.penDown then [] else [.redundantPenUp place]
  | .draw _ => if m.penDown then [] else [.drawWithPenUp place]
  | .travel w =>
    if m.penDown && decide (0 < distance m.position (m.target w)) then
      [.travelWithPenDown place]
    else []
  | _ => []

theorem violations_noteIf (m : Machine) (bad : Bool) (v : Violation) :
    (m.noteIf bad v).violations = m.violations ++ if bad then [v] else [] := by
  cases bad
  · exact (List.append_nil _).symm
  · rfl

-- A note changes nothing but the violations.
theorem noteIf_keeps {α : Type} (field : Machine → α) (m : Machine) (bad : Bool) (v : Violation)
    (h : ∀ vs, field { m with violations := vs } = field m) :
    field (m.noteIf bad v) = field m := by
  cases bad with
  | false => rfl
  | true => exact h _

theorem penDown_noteIf (m : Machine) (bad : Bool) (v : Violation) :
    (m.noteIf bad v).penDown = m.penDown :=
  noteIf_keeps penDown m bad v fun _ => rfl

-- Waiting keeps what both time and the action after it keep.
theorem wait_keeps {α : Type} (field : Machine → α) (m : Machine) (seconds : Except Fault Double)
    (andThen : Machine → Machine) (h : ∀ t, field (andThen { m with time := t }) = field m) :
    field (m.wait seconds andThen).1 = field m := by
  cases seconds with
  | error e => rfl
  | ok s => exact h _

theorem violations_step (setup : Setup) (m : Machine) (place : Place) (i : Instruction) :
    (m.step setup place i).1.violations = m.violations ++ m.noted place i := by
  cases i with
  | none | absolute | relative | other => exact (List.append_nil _).symm
  | penDown =>
    rw [step, wait_keeps violations _ _ _ fun _ => rfl]
    exact violations_noteIf m m.penDown _
  | penUp =>
    rw [step, wait_keeps violations _ _ _ fun _ => rfl]
    refine (violations_noteIf m (!m.penDown) _).trans ?_
    cases hdown : m.penDown <;> simp [noted, hdown]
  | draw w =>
    rw [step, wait_keeps violations _ _ _ fun _ => rfl]
    refine (violations_noteIf _ (!m.penDown) _).trans ?_
    cases hdown : m.penDown <;> simp [noted, hdown]
  | travel w =>
    rw [step, wait_keeps violations _ _ _ fun _ => rfl]
    exact violations_noteIf _ (m.penDown && _) _

theorem penDown_step (setup : Setup) (m : Machine) (place : Place) (i : Instruction) :
    (m.step setup place i).1.penDown =
      match i with
      | .penDown => true
      | .penUp => false
      | _ => m.penDown := by
  cases i with
  | none | absolute | relative | other => rfl
  | penDown | penUp => rw [step, wait_keeps penDown _ _ _ fun _ => rfl]
  | draw w | travel w =>
    rw [step, wait_keeps penDown _ _ _ fun _ => rfl]
    exact penDown_noteIf _ _ _

end Steps

/-! ## 2. What a run keeps -/

section Runs

variable {setup : Setup} {m m' : Machine} {index : Nat} {lines : List (List Char)}
  {fault : Option Fault}

/-- What each line keeps a whole run keeps. -/
theorem runLines_keeps {P : Machine → Prop} (hrun : m.runLines setup index lines = (m', fault))
    (hstep : ∀ m place, ∀ line ∈ lines, P m → P (m.runLine setup place line).1) (h : P m) :
    P m' := by
  induction lines generalizing m index with
  | nil =>
    cases hrun
    exact h
  | cons line rest ih =>
    have hline := hstep m (.line index) line List.mem_cons_self h
    rw [runLines] at hrun
    split at hrun
    · rename_i hfirst
      rw [hfirst] at hline
      exact ih hrun (fun m place s hs => hstep m place s (List.mem_cons_of_mem line hs)) hline
    · -- The machine is kept as it was when the fault came up.
      rename_i hfirst
      rw [hfirst] at hline
      cases hrun
      exact hline

-- What was noted stays noted.
theorem violations_runLines (hrun : m.runLines setup index lines = (m', fault))
    (h : m.violations ≠ []) : m'.violations ≠ [] := by
  apply runLines_keeps (P := fun m => m.violations ≠ []) hrun _ h
  intro m place line _ hm
  rw [runLine, violations_step]
  exact List.append_ne_nil_of_left_ne_nil hm _

-- A pen that no line lowers stays up.
theorem penDown_runLines_of_up (hrun : m.runLines setup index lines = (m', fault))
    (hlines : ∀ line ∈ lines, Instruction.ofLine setup line ≠ .penDown) (h : m.penDown = false) :
    m'.penDown = false := by
  apply runLines_keeps (P := fun m => m.penDown = false) hrun _ h
  intro m place line hline hm
  rw [runLine, penDown_step]
  split
  · rename_i hi
    exact absurd hi (hlines line hline)
  · rfl
  · exact hm

-- A pen that no line lifts stays down.
theorem penDown_runLines_of_down (hrun : m.runLines setup index lines = (m', fault))
    (hlines : ∀ line ∈ lines, Instruction.ofLine setup line ≠ .penUp) (h : m.penDown = true) :
    m'.penDown = true := by
  apply runLines_keeps (P := fun m => m.penDown = true) hrun _ h
  intro m place line hline hm
  rw [runLine, penDown_step]
  split
  · rfl
  · rename_i hi
    exact absurd hi (hlines line hline)
  · exact hm

/-- A run to the end is a run to a line, the line, and a run from there. -/
theorem exists_run_to {front rest : List (List Char)} {line : List Char}
    (h : m.runLines setup index (front ++ line :: rest) = (m', none)) :
    ∃ (before : Machine) (place : Place) (after : Machine) (next : Nat),
      m.runLines setup index front = (before, none) ∧
      before.runLine setup place line = (after, none) ∧
      after.runLines setup next rest = (m', none) := by
  induction front generalizing m index with
  | nil =>
    rw [List.nil_append, runLines] at h
    split at h
    · rename_i after hline
      exact ⟨m, _, after, _, rfl, hline, h⟩
    · simp at h
  | cons first front ih =>
    rw [List.cons_append, runLines] at h
    split at h
    · rename_i next hfirst
      obtain ⟨before, place, after, later, hfront, hline, hrest⟩ := ih h
      refine ⟨before, place, after, later, ?_, hline, hrest⟩
      rw [runLines, hfirst]
      exact hfront
    · simp at h

theorem runLines_singleton (setup : Setup) (m : Machine) (index : Nat) (line : List Char) :
    m.runLines setup index [line] = m.runLine setup (.line index) line := by
  rw [runLines]
  rcases m.runLine setup (.line index) line with ⟨after, _ | fault⟩
  · rfl
  · rfl

theorem runLines_concat_iff {line : List Char} :
    m.runLines setup index (lines ++ [line]) = (m', none) ↔
      ∃ before, m.runLines setup index lines = (before, none) ∧
        before.runLine setup (.line (index + lines.length : Nat)) line = (m', none) := by
  constructor
  · intro h
    obtain ⟨before, _, _, _, hlines, -, -⟩ := exists_run_to h
    rw [runLines_append hlines, runLines_singleton] at h
    exact ⟨before, hlines, h⟩
  · rintro ⟨before, hlines, hline⟩
    rw [runLines_append hlines, runLines_singleton]
    exact hline

/-- What holds at first, and after a line if it held before, holds after every run that comes to its
end. -/
theorem run_induction {motive : List (List Char) → Machine → Prop}
    (h : initial.runLines setup 0 lines = (m, none)) (nil : motive [] initial)
    (concat : ∀ {lines line before after place}, initial.runLines setup 0 lines = (before, none) →
      before.runLine setup place line = (after, none) → motive lines before →
      motive (lines ++ [line]) after) :
    motive lines m := by
  induction lines using List.reverseRecOn generalizing m with
  | nil =>
    rw [runLines] at h
    obtain ⟨rfl, -⟩ := Prod.mk.inj h
    exact nil
  | append_singleton lines line ih =>
    obtain ⟨before, hlines, hline⟩ := runLines_concat_iff.1 h
    exact concat hlines hline (ih hlines)

end Runs

end Machine

end PenPlotter.Replay
