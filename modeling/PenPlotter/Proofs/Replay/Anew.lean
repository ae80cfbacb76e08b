import PenPlotter.Proofs.Except
import PenPlotter.Proofs.Replay.Faults
import PenPlotter.Proofs.Replay.Orderly

/-!
# Replays from the start

A replay depends on the setup and the program alone.  It is a reset and all lines one after the
other, and whatever was loaded, run or broken off before leaves no trace in it.
-/

set_option autoImplicit false

namespace PenPlotter.Replay.Replayer

/-! ## 1. What an operation keeps -/

section Operations

variable {r s : Replayer}

theorem perform_run (r : Replayer) : (r.perform .run).1 = r.run.1 := by
  rw [perform]
  rcases r.run with ⟨r', e | report⟩
  · rfl
  · rfl

theorem perform_runLine (r : Replayer) (place : Place) (line : String) :
    (r.perform (.runLine place line)).1 =
      { r with machine := (r.machine.runLine r.setup place line.toList).1 } := by
  rw [perform, runLine]
  rcases r.machine.runLine r.setup place line.toList with ⟨m, _ | fault⟩
  · rfl
  · rfl

-- A program that is replayed stays loaded.
theorem exists_machine_run (r : Replayer) : ∃ m, r.run.1 = { r with machine := m } := by
  unfold run
  split
  · exact ⟨r.machine, rfl⟩
  · split
    · exact ⟨_, rfl⟩
    · exact ⟨_, rfl⟩

theorem setup_loadFile {files : Files.Store} {p : Files.Path} (h : r.loadFile files p = .ok s) :
    s.setup = r.setup := by
  unfold loadFile at h
  obtain ⟨found, -, hread⟩ := bind_eq_ok.1 h
  split at hread
  · obtain ⟨text, -, htext⟩ := bind_eq_ok.1 hread
    cases htext
    rfl
  · cases hread

-- No operation changes what the machine was set up with, also not one that fails.
theorem setup_perform (r : Replayer) (op : Operation) : (r.perform op).1.setup = r.setup := by
  cases op with
  | load program => rw [perform, load]
  | reset => rw [perform, reset]
  | loadFile files p =>
    rw [perform]
    split
    · exact setup_loadFile ‹_›
    · rfl
  | runLine place line => rw [perform_runLine]
  | run =>
    obtain ⟨m, hm⟩ := exists_machine_run r
    rw [perform_run, hm]

end Operations

def after (setup : Setup) (ops : List Operation) : Replayer := Run.final perform (new setup) ops

theorem setup_after (setup : Setup) (ops : List Operation) : (after setup ops).setup = setup :=
  Run.final_invariant perform (P := fun r => r.setup = setup)
    (fun r op h => (setup_perform r op).trans h) rfl ops

/-! ## 2. Line by line -/

def linesFrom (index : Nat) : List (List Char) → List Operation
  | [] => []
  | line :: rest => .runLine (.line index) (String.ofList line) :: linesFrom (index + 1) rest

def lineByLine (r : Replayer) : Machine :=
  let m := (Run.final perform r (.reset :: linesFrom 0 r.lines)).machine
  m.noteIf m.penDown .endsWithPenDown

theorem final_linesFrom {r : Replayer} {m : Machine} {index : Nat} {lines : List (List Char)}
    (h : r.machine.runLines r.setup index lines = (m, none)) :
    Run.final perform r (linesFrom index lines) = { r with machine := m } := by
  induction lines generalizing r index with
  | nil =>
    cases h
    rfl
  | cons line rest ih =>
    rw [Machine.runLines] at h
    split at h
    · rename_i next hline
      have hfirst : (r.perform (.runLine (.line index) (String.ofList line))).1 =
          { r with machine := next } := by
        rw [perform_runLine, String.toList_ofList, hline]
      rw [linesFrom, Run.final_cons, hfirst]
      exact ih h
    · cases h

theorem run_eq_lineByLine {r : Replayer} {report : Report} (h : r.run.2 = .ok report) :
    r.run = ({ r with machine := r.lineByLine }, .ok (.ofMachine r.lineByLine)) := by
  obtain ⟨m, hrun, hr⟩ := exists_run_eq h
  have hreset : (r.perform .reset).1 = r.reset := by rw [perform]
  have hlines : r.reset.machine.runLines r.reset.setup 0 r.lines = (m, none) := by
    rw [reset]
    exact hrun
  rw [lineByLine, Run.final_cons, hreset, final_linesFrom hlines, hr]

/-! ## 3. From the start -/

theorem run_congr {r s : Replayer} (hsetup : r.setup = s.setup) (hlines : r.lines = s.lines)
    (hne : r.lines ≠ []) : r.run = s.run := by
  cases r
  cases s
  cases hsetup
  cases hlines
  unfold run
  rw [if_neg (by rwa [List.isEmpty_iff]), if_neg (by rwa [List.isEmpty_iff])]

theorem run_run (r : Replayer) : r.run.1.run = r.run := by
  by_cases hlines : r.lines = []
  · have hrun : r.run = (r, .error .noProgram) := by
      unfold run
      rw [if_pos (by rwa [List.isEmpty_iff])]
    rw [hrun, hrun]
  · obtain ⟨m, hm⟩ := exists_machine_run r
    rw [hm]
    exact run_congr rfl rfl hlines

/-- **A replay starts anew.**  After any operations, whether or not they failed, a program with
something in it is replayed as by a new machine with the same setup: with the same report or fault,
and to the same state.  And so it is when it is replayed again.  A replay that comes to its end is a
reset and all lines one by one. -/
theorem run_load_after (setup : Setup) (ops : List Operation) (program : String)
    (h : program ≠ "") :
    let r := (after setup ops).load program
    r.run = ((new setup).load program).run ∧
      r.run.1.run = ((new setup).load program).run ∧
      ∀ report, r.run.2 = .ok report →
        r.run = ({ r with machine := r.lineByLine }, .ok (.ofMachine r.lineByLine)) := by
  intro r
  have hrun : r.run = ((new setup).load program).run :=
    run_congr (setup_after setup ops) rfl (lines_load_ne_nil _ h)
  exact ⟨hrun, (run_run r).trans hrun, fun report => run_eq_lineByLine⟩

def brokenOff : List Operation := [.load "M3\nG91\nG0 X1", .run, .runLine (.text ['M', '3']) "M3"]

theorem run_load_after_brokenOff :
    let setup := { Setup.standard "M5" "M3" with travelSpeed := .int 0 }
    (after setup brokenOff).machine.absolute = false ∧
      (after setup brokenOff).machine.paths = [[⟨0, 0⟩], [⟨0, 0⟩]] ∧
      ((after setup brokenOff).load "G1 X1").run = ((new setup).load "G1 X1").run := by
  intro setup
  obtain ⟨hrun, -, -⟩ := run_load_after setup brokenOff "G1 X1" (by decide)
  exact ⟨by decide +kernel, by decide +kernel, hrun⟩

end PenPlotter.Replay.Replayer
