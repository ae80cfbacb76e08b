import PenPlotter.Proofs.Replay.Ledger

/-!
# Runs

Runs of a machine over the lines of a program that come to their end, and what they draw.  Runs are
composed from the runs of single lines.
-/

set_option autoImplicit false

namespace PenPlotter.Replay

def Instruction.isDraw : Instruction → Bool
  | .draw _ => true
  | _ => false

namespace Machine

def drawings (setup : Setup) (m : Machine) (index : Nat) :
    List (List Char) → List (Machine × Machine)
  | [] => []
  | line :: rest =>
    match m.runLine setup (.line index) line with
    | (after, none) =>
      (if (Instruction.ofLine setup line).isDraw then [(m, after)] else []) ++
        after.drawings setup (index + 1) rest
    | (_, some _) => []

/-- Lines are run without a fault, whatever the index of the first, from one machine to another and
with some drawings. -/
structure Runs (setup : Setup) (m : Machine) (lines : List Line) (m' : Machine)
    (moves : List (Machine × Machine)) : Prop where
  runLines : ∀ index, m.runLines setup index (lines.map (·.text.toList)) = (m', none)
  drawings : ∀ index, m.drawings setup index (lines.map (·.text.toList)) = moves

/-! ## 1. Composing runs -/

section Composition

variable {setup : Setup} {m m' m'' : Machine} {lines rest : List Line}
  {moves others : List (Machine × Machine)}

theorem runLines_append {index : Nat} {s t : List (List Char)}
    (h : m.runLines setup index s = (m', none)) :
    m.runLines setup index (s ++ t) = m'.runLines setup (index + s.length) t := by
  induction s generalizing m index with
  | nil =>
    cases h
    rfl
  | cons line s ih =>
    rw [runLines] at h
    rw [List.cons_append, runLines, List.length_cons, Nat.add_comm s.length, ← Nat.add_assoc]
    cases hline : m.runLine setup (.line index) line with
    | mk after fault =>
      rw [hline] at h
      -- A fault would end the run, and the run comes to its end.
      cases fault with
      | none => exact ih h
      | some fault => cases h

theorem drawings_append {index : Nat} {s t : List (List Char)}
    (h : m.runLines setup index s = (m', none)) :
    m.drawings setup index (s ++ t) =
      m.drawings setup index s ++ m'.drawings setup (index + s.length) t := by
  induction s generalizing m index with
  | nil =>
    cases h
    rfl
  | cons line s ih =>
    rw [runLines] at h
    rw [List.cons_append, drawings, drawings, List.length_cons, Nat.add_comm s.length,
      ← Nat.add_assoc]
    cases hline : m.runLine setup (.line index) line with
    | mk after fault =>
      rw [hline] at h
      cases fault with
      | none =>
        simp only
        rw [ih h, List.append_assoc]
      | some fault => cases h

theorem Runs.nil (setup : Setup) (m : Machine) : Runs setup m [] m [] := ⟨fun _ => rfl, fun _ => rfl⟩

theorem Runs.append (h : Runs setup m lines m' moves) (h' : Runs setup m' rest m'' others) :
    Runs setup m (lines ++ rest) m'' (moves ++ others) where
  runLines index := by rw [List.map_append, runLines_append (h.runLines index), h'.runLines]
  drawings index := by
    rw [List.map_append, drawings_append (h.runLines index), h.drawings, h'.drawings]

-- A line is run as the instruction that it stands for.
theorem Runs.single {line : Line}
    (hline : Instruction.ofLine setup line.text.toList = line.instruction)
    (hstep : ∀ place, m.step setup place line.instruction = (m', none)) :
    Runs setup m [line] m' (if line.instruction.isDraw then [(m, m')] else []) := by
  have hrun (index : Nat) : m.runLine setup (.line index) line.text.toList = (m', none) := by
    rw [runLine, hline, hstep]
  constructor
  · intro index
    rw [List.map_singleton, Machine.runLines, hrun]
    rfl
  · intro index
    rw [List.map_singleton, Machine.drawings, hrun, hline]
    exact List.append_nil _

end Composition

/-! ## 2. Lines that a machine understands -/

/-- Whether a machine takes the text of each line for the instruction that the line stands for. -/
def Understands (setup : Setup) (lines : List Line) : Prop :=
  ∀ line ∈ lines, Instruction.ofLine setup line.text.toList = line.instruction

theorem understands_append {setup : Setup} {lines rest : List Line} :
    Understands setup (lines ++ rest) ↔ Understands setup lines ∧ Understands setup rest :=
  List.forall_mem_append

end Machine

/-! ## 3. The lines of a drawing -/

def setupOf (settings : Settings) : Setup :=
  .standard settings.penUp.text settings.penDown.text

namespace Machine

section Lines

variable {settings : Settings} {m : Machine} {l : Ledger}

theorem Understands.single {line : Line} {m' : Machine}
    (hline : Understands (setupOf settings) [line])
    (hstep : ∀ place, m.step (setupOf settings) place line.instruction = (m', none)) :
    Runs (setupOf settings) m [line] m' (if line.instruction.isDraw then [(m, m')] else []) :=
  Runs.single (hline line List.mem_cons_self) hstep

-- A line that says nothing new is passed over: absolute is the mode already.
theorem Keeps.runs_passed (h : m.Keeps l) {line : Line}
    (hline : Understands (setupOf settings) [line])
    (hpassed : line.instruction ∈ [.none, .other, .absolute]) :
    Runs (setupOf settings) m [line] m [] := by
  have hstep (place : Place) : m.step (setupOf settings) place line.instruction = (m, none) := by
    simp only [List.mem_cons, List.not_mem_nil, or_false] at hpassed
    rcases hpassed with hi | hi | hi
    · rw [hi, step]
    · rw [hi, step]
    · rw [hi, step, ← h.absolute]
  have hdraw : line.instruction.isDraw = false := by
    simp only [List.mem_cons, List.not_mem_nil, or_false] at hpassed
    rcases hpassed with hi | hi | hi <;> rw [hi] <;> rfl
  have hrun := hline.single hstep
  rwa [hdraw, if_neg Bool.false_ne_true] at hrun

theorem Keeps.runs_allPassed (h : m.Keeps l) {lines : List Line}
    (hlines : Understands (setupOf settings) lines)
    (hpassed : ∀ line ∈ lines, line.instruction ∈ [.none, .other, .absolute]) :
    Runs (setupOf settings) m lines m [] := by
  induction lines with
  | nil => exact .nil _ _
  | cons line rest ih =>
    obtain ⟨hline, hrest⟩ := understands_append.1 (show Understands _ ([line] ++ rest) from hlines)
    obtain ⟨hpass, hpasses⟩ := List.forall_mem_cons.1 hpassed
    exact (h.runs_passed hline hpass).append (ih hrest hpasses)

theorem Keeps.runs_lower (h : m.Keeps l) (hup : l.penDown = false)
    (hline : Understands (setupOf settings) [.penDown settings.penDown]) :
    ∃ m', Runs (setupOf settings) m [.penDown settings.penDown] m' [] ∧ m'.Keeps l.lower := by
  obtain ⟨m', hstep, hkeeps⟩ := h.step_penDown hup
  exact ⟨m', hline.single hstep, hkeeps⟩

theorem Keeps.runs_lift (h : m.Keeps l) (hdown : l.penDown = true)
    (hline : Understands (setupOf settings) [.penUp settings.penUp]) :
    ∃ m', Runs (setupOf settings) m [.penUp settings.penUp] m' [] ∧ m'.Keeps l.lift := by
  obtain ⟨m', hstep, hkeeps⟩ := h.step_penUp hdown
  exact ⟨m', hline.single hstep, hkeeps⟩

theorem Keeps.runs_travel (h : m.Keeps l) (hup : l.penDown = false) {x y : Double}
    (hline : Understands (setupOf settings) [.travel x y]) :
    ∃ m', Runs (setupOf settings) m [.travel x y] m' [] ∧
      m'.Keeps (l.travel ⟨x.printed, y.printed⟩) := by
  obtain ⟨m', hstep, hkeeps⟩ := h.step_travel hup x.printed y.printed
  exact ⟨m', hline.single hstep, hkeeps⟩

theorem Keeps.runs_return (h : m.Keeps l) (hup : l.penDown = false)
    (hline : Understands (setupOf settings) [.returnToOrigin]) :
    ∃ m', Runs (setupOf settings) m [.returnToOrigin] m' [] ∧ m'.Keeps (l.travel ⟨0, 0⟩) := by
  obtain ⟨m', hstep, hkeeps⟩ := h.step_travel hup 0 0
  exact ⟨m', hline.single hstep, hkeeps⟩

theorem Keeps.runs_draw (h : m.Keeps l) (hdown : l.penDown = true) {x y : Double}
    (hline : Understands (setupOf settings) [.draw x y settings.feedRate]) :
    ∃ m', Runs (setupOf settings) m [.draw x y settings.feedRate] m' [(m, m')] ∧
      m'.Keeps (l.draw ⟨x.printed, y.printed⟩) := by
  obtain ⟨m', hstep, hkeeps⟩ := h.step_draw hdown x.printed y.printed settings.feed_pos
  exact ⟨m', hline.single hstep, hkeeps⟩

end Lines

end Machine

end PenPlotter.Replay
