import PenPlotter.Proofs.Replay.Steps
import PenPlotter.Proofs.Run
import PenPlotter.Replay.Report

/-!
# Orderly programs

What a replay notes, said of the lines of a program alone: by the lines that move the pen, by where
other lines stand between these, and by how far the tool is moved.
-/

set_option autoImplicit false

namespace PenPlotter.Replay

/-! ## 1. The pen -/

inductive Toggle where
  | down
  | up
deriving DecidableEq, Repr

/-- What the code of a line does to the pen, if it is a command for it.  Where the pen is lowered and
lifted by the same command, that command lowers it. -/
def toggleOf (setup : Setup) (line : List Char) : Option Toggle :=
  if codePart line = [] then none
  else if codePart line = Text.trim setup.penDown.toList then some .down
  else if codePart line = Text.trim setup.penUp.toList then some .up
  else none

def toggles (setup : Setup) (lines : List (List Char)) : List Toggle :=
  lines.filterMap (toggleOf setup)

def LeavesDown (setup : Setup) (lines : List (List Char)) : Prop :=
  Run.Since (fun line => toggleOf setup line = some .down)
    (fun line => toggleOf setup line = some .up) lines

section Toggles

variable {setup : Setup} {lines : List (List Char)} {line : List Char}

theorem ofLine_eq_penDown_iff :
    Instruction.ofLine setup line = .penDown ↔ toggleOf setup line = some .down := by
  simp only [Instruction.ofLine, toggleOf, List.isEmpty_iff]
  repeat' split
  all_goals simp

theorem ofLine_eq_penUp_iff :
    Instruction.ofLine setup line = .penUp ↔ toggleOf setup line = some .up := by
  simp only [Instruction.ofLine, toggleOf, List.isEmpty_iff]
  repeat' split
  all_goals simp

theorem toggles_concat :
    toggles setup (lines ++ [line]) = toggles setup lines ++ (toggleOf setup line).toList :=
  Run.filterMap_concat (toggleOf setup) lines line

theorem leavesDown_concat :
    LeavesDown setup (lines ++ [line]) ↔
      toggleOf setup line = some .down ∨ toggleOf setup line ≠ some .up ∧ LeavesDown setup lines := by
  unfold LeavesDown
  rw [Run.since_concat, decide_eq_true_iff, decide_eq_false_iff_not]

theorem leavesDown_iff : LeavesDown setup lines ↔ (toggles setup lines).getLast? = some .down := by
  induction lines using List.reverseRecOn with
  | nil => exact iff_of_false Run.not_since_nil (by simp [toggles])
  | append_singleton lines line ih =>
    rw [leavesDown_concat, toggles_concat, List.getLast?_append, ih]
    rcases toggleOf setup line with _ | _ | _ <;> simp

-- Toggles alternate from a first lowering on as long as each lifting, and nothing else, follows a
-- lowering.
theorem alternate_concat {ts : List Toggle} {t : Toggle} :
    ((ts ++ [t]).IsChain (· ≠ ·) ∧ ∀ u ∈ (ts ++ [t]).head?, u = .down) ↔
      (ts.IsChain (· ≠ ·) ∧ ∀ u ∈ ts.head?, u = .down) ∧ (t = .up ↔ ts.getLast? = some .down) := by
  rcases List.eq_nil_or_concat ts with rfl | ⟨us, u, rfl⟩
  · cases t <;> simp
  · rw [List.isChain_append, List.head?_append_of_ne_nil _ (by simp)]
    cases t <;> cases u <;> simp

-- The same, said of the lines between which the toggles stand.
theorem alternate_iff :
    ((toggles setup lines).IsChain (· ≠ ·) ∧ ∀ t ∈ (toggles setup lines).head?, t = .down) ↔
      ∀ front line rest, lines = front ++ line :: rest →
        (toggleOf setup line = some .down → ¬LeavesDown setup front) ∧
          (toggleOf setup line = some .up → LeavesDown setup front) := by
  induction lines using List.reverseRecOn with
  | nil => simp [toggles]
  | append_singleton lines line ih =>
    rw [Run.forall_split_concat, ← ih, toggles_concat]
    cases h : toggleOf setup line with
    | none => simp
    | some t =>
      rw [Option.toList_some, alternate_concat, leavesDown_iff]
      cases t <;> simp

end Toggles

/-! ## 2. The tool -/

structure Stance where
  position : Point
  absolute : Bool

namespace Stance

def initial : Stance := ⟨⟨0, 0⟩, true⟩

def goal (s : Stance) (w : Words) : Point :=
  if s.absolute then ⟨w.x?.getD s.position.x, w.y?.getD s.position.y⟩
  else ⟨s.position.x + w.x?.getD 0, s.position.y + w.y?.getD 0⟩

def next (s : Stance) : Instruction → Stance
  | .travel w | .draw w => { s with position := s.goal w }
  | .absolute => { s with absolute := true }
  | .relative => { s with absolute := false }
  | .none | .penDown | .penUp | .other => s

def after (setup : Setup) (lines : List (List Char)) : Stance :=
  lines.foldl (fun s line => s.next (.ofLine setup line)) initial

theorem after_concat (setup : Setup) (lines : List (List Char)) (line : List Char) :
    after setup (lines ++ [line]) = (after setup lines).next (.ofLine setup line) :=
  List.foldl_append

end Stance

/-! ## 3. Order -/

/-- Lines that handle the pen as a sound program does: it is lowered and lifted in turn, from a
lowering to a lifting, all drawing is done while it is down, and the tool is not moved without drawing
then.  A move over no comparable distance, such as one to a point that is no number, is none. -/
structure Orderly (setup : Setup) (lines : List (List Char)) : Prop where
  alternate : (toggles setup lines).IsChain (· ≠ ·)
  begins : ∀ t ∈ (toggles setup lines).head?, t = .down
  ends : ∀ t ∈ (toggles setup lines).getLast?, t = .up
  draws : ∀ front line rest w, lines = front ++ line :: rest →
    Instruction.ofLine setup line = .draw w → LeavesDown setup front
  travels : ∀ front line rest w, lines = front ++ line :: rest →
    Instruction.ofLine setup line = .travel w → LeavesDown setup front →
      ¬0 < Machine.distance (Stance.after setup front).position ((Stance.after setup front).goal w)

def Continues (setup : Setup) (front : List (List Char)) (line : List Char) : Prop :=
  match Instruction.ofLine setup line with
  | .penDown => ¬LeavesDown setup front
  | .penUp | .draw _ => LeavesDown setup front
  | .travel w => LeavesDown setup front →
      ¬0 < Machine.distance (Stance.after setup front).position ((Stance.after setup front).goal w)
  | .none | .absolute | .relative | .other => True

-- The rules for whole programs are those for each line and the one for the end.
theorem orderly_iff {setup : Setup} {lines : List (List Char)} :
    Orderly setup lines ↔
      (∀ front line rest, lines = front ++ line :: rest → Continues setup front line) ∧
        ¬LeavesDown setup lines := by
  constructor
  · rintro ⟨halternate, hbegins, hends, hdraws, htravels⟩
    refine ⟨fun front line rest hlines => ?_, fun hdown => ?_⟩
    · obtain ⟨hlower, hlift⟩ := alternate_iff.1 ⟨halternate, hbegins⟩ front line rest hlines
      unfold Continues
      split
      · exact hlower (ofLine_eq_penDown_iff.1 ‹_›)
      · exact hlift (ofLine_eq_penUp_iff.1 ‹_›)
      · exact hdraws front line rest _ hlines ‹_›
      · exact htravels front line rest _ hlines ‹_›
      all_goals trivial
    · cases hends .down (leavesDown_iff.1 hdown)
  · rintro ⟨hcontinues, hup⟩
    have hpen : ∀ front line rest, lines = front ++ line :: rest →
        (toggleOf setup line = some .down → ¬LeavesDown setup front) ∧
          (toggleOf setup line = some .up → LeavesDown setup front) := by
      intro front line rest hlines
      have h := hcontinues front line rest hlines
      unfold Continues at h
      constructor
      · intro hline
        rwa [ofLine_eq_penDown_iff.2 hline] at h
      · intro hline
        rwa [ofLine_eq_penUp_iff.2 hline] at h
    obtain ⟨halternate, hbegins⟩ := alternate_iff.2 hpen
    refine ⟨halternate, hbegins, fun t ht => ?_, fun front line rest w hlines hline => ?_,
      fun front line rest w hlines hline => ?_⟩
    · cases t with
      | down => exact absurd (leavesDown_iff.2 ht) hup
      | up => rfl
    · have h := hcontinues front line rest hlines
      unfold Continues at h
      rwa [hline] at h
    · have h := hcontinues front line rest hlines
      unfold Continues at h
      rwa [hline] at h

/-! ## 4. Replays -/

namespace Machine

section Steps

variable {setup : Setup} {m m' : Machine} {place : Place} {i : Instruction}

def stance (m : Machine) : Stance := ⟨m.position, m.absolute⟩

theorem stance_noteIf (m : Machine) (bad : Bool) (v : Violation) :
    (m.noteIf bad v).stance = m.stance :=
  noteIf_keeps stance m bad v fun _ => rfl

theorem counts_noteIf (m : Machine) (bad : Bool) (v : Violation) :
    (m.noteIf bad v).penDowns = m.penDowns ∧ (m.noteIf bad v).penUps = m.penUps :=
  ⟨noteIf_keeps penDowns m bad v fun _ => rfl, noteIf_keeps penUps m bad v fun _ => rfl⟩

theorem wait_eq_none {seconds : Except Fault Double} {andThen : Machine → Machine}
    (h : m.wait seconds andThen = (m', none)) :
    ∃ t, m' = andThen { m with time := m.time + t } := by
  cases seconds with
  | error e => simp [wait] at h
  | ok t => exact ⟨t, (congrArg Prod.fst h).symm⟩

-- A step that meets no fault moves the tool as its instruction says.
theorem stance_step (h : m.step setup place i = (m', none)) : m'.stance = m.stance.next i := by
  cases i with
  | none | other | absolute | relative =>
    cases h
    rfl
  | penDown =>
    rw [step] at h
    obtain ⟨t, rfl⟩ := wait_eq_none h
    exact stance_noteIf m m.penDown _
  | penUp =>
    rw [step] at h
    obtain ⟨t, rfl⟩ := wait_eq_none h
    exact stance_noteIf m (!m.penDown) _
  | draw w | travel w =>
    rw [step] at h
    obtain ⟨t, rfl⟩ := wait_eq_none h
    refine congrArg (Stance.mk (m.stance.goal w)) ?_
    exact congrArg Stance.absolute (stance_noteIf { m with feed := w.feed?.getD m.feed } _ _)

theorem penDowns_step (setup : Setup) (m : Machine) (place : Place) (i : Instruction) :
    (m.step setup place i).1.penDowns = m.penDowns + if i = .penDown then 1 else 0 := by
  cases i with
  | none | absolute | relative | other => rfl
  | penDown | penUp | draw w | travel w =>
    rw [step, wait_keeps penDowns _ _ _ fun _ => rfl]
    simp [counts_noteIf]

theorem penUps_step (setup : Setup) (m : Machine) (place : Place) (i : Instruction) :
    (m.step setup place i).1.penUps = m.penUps + if i = .penUp then 1 else 0 := by
  cases i with
  | none | absolute | relative | other => rfl
  | penDown | penUp | draw w | travel w =>
    rw [step, wait_keeps penUps _ _ _ fun _ => rfl]
    simp [counts_noteIf]

end Steps

section Runs

variable {setup : Setup} {m m' : Machine} {index : Nat} {lines : List (List Char)}
  {line : List Char}

/-- A machine that knows of lines what can be told from them: whether the pen is down, where the tool
is, and how coordinates count. -/
structure Follows (setup : Setup) (lines : List (List Char)) (m : Machine) : Prop where
  penDown : m.penDown = true ↔ LeavesDown setup lines
  stance : m.stance = Stance.after setup lines

theorem Follows.step {place : Place} (h : Follows setup lines m)
    (hline : m.runLine setup place line = (m', none)) : Follows setup (lines ++ [line]) m' where
  penDown := by
    have hpen := penDown_step setup m place (.ofLine setup line)
    rw [runLine] at hline
    rw [hline] at hpen
    rw [leavesDown_concat, ← ofLine_eq_penDown_iff, ← h.penDown, Ne, ← ofLine_eq_penUp_iff, hpen]
    cases Instruction.ofLine setup line <;> simp
  stance := by
    rw [Stance.after_concat, ← h.stance]
    exact stance_step hline

theorem follows_of_run (h : initial.runLines setup 0 lines = (m, none)) :
    Follows setup lines m := by
  apply run_induction h
  · exact ⟨iff_of_false Bool.false_ne_true Run.not_since_nil, rfl⟩
  · intro lines line before after place _ hline ih
    exact ih.step hline

theorem Follows.noted_eq_nil_iff (h : Follows setup lines m) (place : Place) :
    m.noted place (.ofLine setup line) = [] ↔ Continues setup lines line := by
  unfold Continues
  have hgoal (w : Words) : m.target w = (Stance.after setup lines).goal w := by
    rw [← h.stance]
    rfl
  have hposition : m.position = (Stance.after setup lines).position :=
    congrArg Stance.position h.stance
  cases Instruction.ofLine setup line with
  | none | absolute | relative | other => exact iff_of_true rfl trivial
  | penDown | penUp | draw w =>
    rw [← h.penDown]
    cases hdown : m.penDown <;> simp [noted, hdown]
  | travel w =>
    rw [noted, hgoal, hposition]
    simp only [← h.penDown]
    cases hdown : m.penDown <;> simp

/-- A run notes nothing where every line continues those before it. -/
theorem violations_eq_nil_iff (h : initial.runLines setup 0 lines = (m, none)) :
    m.violations = [] ↔
      ∀ front line rest, lines = front ++ line :: rest → Continues setup front line := by
  refine run_induction (motive := fun lines m => m.violations = [] ↔
    ∀ front line rest, lines = front ++ line :: rest → Continues setup front line) h
    (iff_of_true rfl (by simp)) fun {lines line before after place} hlines hline ih => ?_
  have hnoted := violations_step setup before place (.ofLine setup line)
  rw [runLine] at hline
  rw [hline] at hnoted
  rw [Run.forall_split_concat, ← ih, hnoted, List.append_eq_nil_iff,
    (follows_of_run hlines).noted_eq_nil_iff]

-- As long as nothing is noted the pen was lifted as often as it was lowered, or once less.
theorem penDowns_eq (h : initial.runLines setup 0 lines = (m, none)) (hclean : m.violations = []) :
    m.penDowns = m.penUps + m.penDown.toNat := by
  revert hclean
  apply runLines_keeps (P := fun m => m.violations = [] → m.penDowns = m.penUps + m.penDown.toNat)
    h _ fun _ => rfl
  intro m place line _ ih hclean
  rw [runLine, violations_step, List.append_eq_nil_iff] at hclean
  obtain ⟨hbefore, hnoted⟩ := hclean
  have hcounts := ih hbefore
  rw [runLine, penDowns_step, penUps_step, penDown_step]
  generalize Instruction.ofLine setup line = i at hnoted ⊢
  cases i with
  | none | absolute | relative | other | draw w | travel w => simpa using hcounts
  | penDown =>
    cases hdown : m.penDown <;> simp_all [noted]
  | penUp =>
    cases hdown : m.penDown <;> simp_all [noted]

end Runs

end Machine

-- A report is that of the machine after all lines, which notes a pen that is down then.
theorem Replayer.exists_run_eq {r : Replayer} {report : Report} (h : r.run.2 = .ok report) :
    ∃ m, Machine.initial.runLines r.setup 0 r.lines = (m, none) ∧
      r.run = ({ r with machine := m.noteIf m.penDown .endsWithPenDown },
        .ok (.ofMachine (m.noteIf m.penDown .endsWithPenDown))) := by
  unfold run at h ⊢
  split at h
  · cases h
  · rename_i hlines
    rw [if_neg hlines]
    split at h
    · cases h
    · rename_i m hrun
      exact ⟨m, hrun, rfl⟩

theorem Replayer.exists_machine_of_run {r : Replayer} {report : Report} (h : r.run.2 = .ok report) :
    ∃ m, Machine.initial.runLines r.setup 0 r.lines = (m, none) ∧
      report = .ofMachine (m.noteIf m.penDown .endsWithPenDown) := by
  obtain ⟨m, hrun, hr⟩ := exists_run_eq h
  rw [hr] at h
  exact ⟨m, hrun, (Except.ok.inj h).symm⟩

/-- **What the check of a program finds.**  A program that is replayed to its end has no violations
exactly if its lines are orderly.  Then the pen is lifted as often as it is lowered, and it is up in
the end. -/
theorem Replayer.violations_run_iff (r : Replayer) (report : Report) (h : r.run.2 = .ok report) :
    (report.violations = [] ↔ Orderly r.setup r.lines) ∧
      (report.violations = [] → report.penDowns = report.penUps ∧ report.endsPenUp = true) := by
  obtain ⟨m, hrun, rfl⟩ := exists_machine_of_run h
  have hviolations := Machine.violations_noteIf m m.penDown .endsWithPenDown
  have hclean : (m.noteIf m.penDown .endsWithPenDown).violations = [] ↔
      m.violations = [] ∧ m.penDown = false := by
    rw [hviolations, List.append_eq_nil_iff]
    cases m.penDown <;> simp
  constructor
  · rw [orderly_iff, ← (Machine.follows_of_run hrun).penDown, Bool.not_eq_true,
      ← Machine.violations_eq_nil_iff hrun]
    exact hclean
  · intro hnone
    obtain ⟨hm, hup⟩ := hclean.1 hnone
    have hcounts := Machine.penDowns_eq hrun hm
    simp only [Report.ofMachine, Machine.penDown_noteIf, Machine.counts_noteIf, hup, hcounts]
    simp

def Replayer.mixed : Replayer :=
  (Replayer.new (.standard "M5" " M3 ")).load
    "G28\n; start\ng91\nG0 X5 Y.5\nM3;lower\ng01 x10 F600\nG0 X0\nG90 ; absolute\nG1 Y7\n M5"

theorem Replayer.violations_run_mixed :
    ∃ report, mixed.run.2 = .ok report ∧ report.violations = [] ∧
      Orderly mixed.setup mixed.lines ∧ report.penDowns = report.penUps := by
  have hrun : mixed.run.2.toOption.map (·.violations) = some [] := by decide +kernel
  cases h : mixed.run.2 with
  | error e => simp [h, Except.toOption] at hrun
  | ok report =>
    have hnone : report.violations = [] := by simpa [h, Except.toOption] using hrun
    obtain ⟨hiff, hcounts⟩ := violations_run_iff mixed report h
    exact ⟨report, rfl, hnone, hiff.1 hnone, (hcounts hnone).1⟩

end PenPlotter.Replay
