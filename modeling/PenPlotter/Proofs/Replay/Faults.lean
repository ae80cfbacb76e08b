import PenPlotter.Proofs.Replay.Steps
import PenPlotter.Proofs.Text.Lines
import PenPlotter.Replay.Report

/-!
# What a replay cannot time

A replay of a program that is not empty fails only where there is no time for a distance: a feed can
be so small that it is nothing per second.
-/

set_option autoImplicit false

namespace PenPlotter

namespace Text

-- Every text has a first line, unless there is nothing in it.
theorem splitLines_go_ne_nil {s line : List Char} (h : s ≠ [] ∨ line ≠ []) :
    splitLines.go s line ≠ [] := by
  fun_induction splitLines.go s line with
  | case1 => simp at h
  | _ => simp_all

theorem splitLines_ne_nil {s : List Char} (h : s ≠ []) : splitLines s ≠ [] :=
  splitLines_go_ne_nil (.inl h)

end Text

namespace Replay

namespace Machine

variable {setup : Setup} {m : Machine} {index : Nat} {lines : List (List Char)} {fault : Fault}

def Timed (setup : Setup) : Prop :=
  (∃ pen, setup.penSeconds = .double pen) ∧ ∃ travel, setup.travelSpeed = .double travel

theorem fault_seconds {distance perMinute : Double}
    (h : seconds distance perMinute = .error fault) : fault = .divisionByZero := by
  rw [seconds] at h
  split at h
  · exact (Except.error.inj h).symm
  · cases h

theorem fault_wait {seconds : Except Fault Double} {andThen : Machine → Machine}
    (h : (m.wait seconds andThen).2 = some fault) : seconds = .error fault := by
  cases seconds with
  | ok s => cases h
  | error e => exact congrArg _ (Option.some.inj h)

theorem fault_step (htimed : Timed setup) {place : Place} {i : Instruction}
    (h : (m.step setup place i).2 = some fault) : fault = .divisionByZero := by
  obtain ⟨⟨pen, hpen⟩, travel, htravel⟩ := htimed
  have hpenSeconds : penSeconds setup = .ok pen := by rw [penSeconds, hpen]; rfl
  cases i with
  | none | other | absolute | relative => cases h
  | penDown | penUp =>
    have hwait := fault_wait h
    rw [hpenSeconds] at hwait
    cases hwait
  | draw words =>
    simp only [step] at h
    have hwait := fault_wait h
    rw [drawSeconds] at hwait
    split at hwait
    · exact fault_seconds hwait
    · cases hwait
  | travel words =>
    simp only [step] at h
    have hwait := fault_wait h
    rw [travelSeconds, htravel] at hwait
    exact fault_seconds hwait

theorem fault_runLines (htimed : Timed setup)
    (h : (m.runLines setup index lines).2 = some fault) : fault = .divisionByZero := by
  induction lines generalizing m index with
  | nil => cases h
  | cons line rest ih =>
    rw [runLines] at h
    split at h
    · exact ih h
    · next heq =>
      obtain rfl := Option.some.inj h
      rw [runLine] at heq
      exact fault_step htimed (congrArg Prod.snd heq)

end Machine

theorem Replayer.eq_divisionByZero_of_run {r : Replayer} {e : Error}
    (htimed : Machine.Timed r.setup) (hlines : r.lines ≠ []) (h : r.run.2 = .error e) :
    e = .fault .divisionByZero := by
  rw [run, if_neg (by rwa [List.isEmpty_iff])] at h
  split at h
  · next fault hrun =>
    obtain rfl := Except.error.inj h
    rw [Machine.fault_runLines htimed (congrArg Prod.snd hrun)]
  · cases h

theorem Replayer.lines_load_ne_nil (r : Replayer) {program : String} (h : program ≠ "") :
    (r.load program).lines ≠ [] :=
  Text.splitLines_ne_nil fun hnil => h (String.toList_eq_nil_iff.mp hnil)

/-- A program with something in it is replayed to its end, or up to a distance without a time. -/
theorem check_eq_error {settings : Settings} {program : String} {travelSpeed : Double} {e : Error}
    (hprogram : program ≠ "")
    (h : check settings program (.double travelSpeed) = .error e) :
    e = .fault .divisionByZero := by
  have htimed : Machine.Timed (Replayer.of settings program (.double travelSpeed)).setup :=
    ⟨⟨_, rfl⟩, _, rfl⟩
  exact Replayer.eq_divisionByZero_of_run htimed (Replayer.lines_load_ne_nil _ hprogram) h

end Replay

end PenPlotter
