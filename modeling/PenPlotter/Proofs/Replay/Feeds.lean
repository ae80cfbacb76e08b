import PenPlotter.Proofs.Replay.Faults
import PenPlotter.Proofs.Replay.Orderly

/-!
# Feeds

Which programs are replayed to their end at the standard speeds.  The pen and travels always take
some time that can be told.  A line that draws has none where its feed is positive, but so small that
it is nothing per second.
-/

set_option autoImplicit false

namespace PenPlotter.Replay

attribute [local instance (high)] instPowNat

/-! ## 1. Faint feeds -/

/-- Whether a feed is positive, but at most thirty times the smallest positive double. -/
def IsFaint (feed : Double) : Prop := 0 < feed ∧ feed ≤ .finite false ⟨30, by decide +kernel⟩

-- The seconds of a minute make nothing of such a feed, and of no other that is positive.
theorem isFaint_iff {feed : Double} :
    IsFaint feed ↔ 0 < feed ∧ (feed / 60).isZero = true := by
  unfold IsFaint
  refine and_congr_right fun hpos => ?_
  cases feed with
  | nan => exact absurd hpos (by decide +kernel)
  | inf s =>
    cases s with
    | true => exact absurd hpos (by decide +kernel)
    | false => exact iff_of_false (by decide +kernel) (by decide +kernel)
  | finite s r =>
    cases s with
    | true =>
      have hzero : (0 : Double) = .finite false ⟨0, by decide⟩ := by decide +kernel
      rw [hzero] at hpos
      have hlt : (0 : Int) < -(Double.units r : Int) := of_decide_eq_true hpos
      omega
    | false => rw [Double.finite_false_le_iff, Machine.isZero_div_sixty_iff, Fin.le_def]

/-! ## 2. The feed in force -/

def Instruction.feed? : Instruction → Option Double
  | .travel w | .draw w => w.feed?
  | .none | .penDown | .penUp | .absolute | .relative | .other => Option.none

def feedInForce (setup : Setup) (lines : List (List Char)) : Double :=
  (lines.filterMap fun line => (Instruction.ofLine setup line).feed?).getLast?.getD 0

theorem feedInForce_concat (setup : Setup) (lines : List (List Char)) (line : List Char) :
    feedInForce setup (lines ++ [line]) =
      (Instruction.ofLine setup line).feed?.getD (feedInForce setup lines) := by
  unfold feedInForce
  rw [Run.getLast?_filterMap_concat]
  cases (Instruction.ofLine setup line).feed? with
  | none => rw [Option.none_or, Option.getD_none]
  | some feed => rw [Option.some_or, Option.getD_some, Option.getD_some]

def DrawsInTime (setup : Setup) (front : List (List Char)) (line : List Char) : Prop :=
  ∀ w, Instruction.ofLine setup line = .draw w → ¬IsFaint (feedInForce setup (front ++ [line]))

namespace Machine

section Steps

variable {setup : Setup} {m m' : Machine} {place : Place} {i : Instruction}

theorem feed_noteIf (m : Machine) (bad : Bool) (v : Violation) :
    (m.noteIf bad v).feed = m.feed :=
  noteIf_keeps feed m bad v fun _ => rfl

theorem feed_step (setup : Setup) (m : Machine) (place : Place) (i : Instruction) :
    (m.step setup place i).1.feed = i.feed?.getD m.feed := by
  cases i with
  | none | other | absolute | relative => rfl
  | penDown | penUp =>
    rw [step, wait_keeps feed _ _ _ fun _ => rfl]
    exact feed_noteIf m _ _
  | draw w | travel w =>
    rw [step, wait_keeps feed _ _ _ fun _ => rfl]
    exact feed_noteIf _ _ _

theorem exists_eq_none_iff {outcome : Outcome} :
    (∃ m, outcome = (m, none)) ↔ outcome.2 = none := by
  constructor
  · rintro ⟨m, rfl⟩
    rfl
  · intro h
    exact ⟨outcome.1, Prod.ext rfl h⟩

theorem wait_eq_none_iff {seconds : Except Fault Double} {andThen : Machine → Machine} :
    (m.wait seconds andThen).2 = none ↔ ∃ t, seconds = .ok t := by
  cases seconds with
  | ok t => exact iff_of_true rfl ⟨t, rfl⟩
  | error e => exact iff_of_false (by simp [wait]) (by simp)

theorem exists_drawSeconds_iff {length : Double} :
    (∃ t, m.drawSeconds length = .ok t) ↔ ¬IsFaint m.feed := by
  rw [isFaint_iff]
  unfold drawSeconds seconds
  by_cases hpos : 0 < m.feed
  · by_cases hzero : (m.feed / 60).isZero = true
    · simp [hpos, hzero]
    · simp [hpos, hzero]
  · simp [hpos]

-- At the standard speeds only a line that draws can have no time.
theorem step_eq_none_iff {penUp penDown : String} :
    (m.step (.standard penUp penDown) place i).2 = none ↔
      ∀ w, i = .draw w → ¬IsFaint (i.feed?.getD m.feed) := by
  cases i with
  | none | other | absolute | relative | penDown | penUp => exact iff_of_true rfl (by simp)
  | travel w =>
    refine iff_of_true ?_ (by simp)
    rw [step, wait_eq_none_iff]
    exact exists_travelSeconds_standard penUp penDown _
  | draw w =>
    rw [step, wait_eq_none_iff, exists_drawSeconds_iff]
    simp only [feed_noteIf, Instruction.feed?, Instruction.draw.injEq, forall_eq']

end Steps

section Runs

variable {setup : Setup} {m : Machine} {lines : List (List Char)} {line : List Char}
  {penUp penDown : String}

theorem feed_of_run (h : initial.runLines setup 0 lines = (m, none)) :
    m.feed = feedInForce setup lines := by
  refine run_induction (motive := fun lines m => m.feed = feedInForce setup lines)
    h rfl fun {lines line before after place} _ hline ih => ?_
  have hfeed := feed_step setup before place (.ofLine setup line)
  rw [runLine] at hline
  rw [hline] at hfeed
  rw [hfeed, ih, feedInForce_concat]

/-- Lines are run to the end exactly if each has a time after those before it. -/
theorem exists_run_iff :
    (∃ m, initial.runLines (.standard penUp penDown) 0 lines = (m, none)) ↔
      ∀ front line rest, lines = front ++ line :: rest →
        DrawsInTime (.standard penUp penDown) front line := by
  induction lines using List.reverseRecOn with
  | nil => exact iff_of_true ⟨initial, rfl⟩ (by simp)
  | append_singleton lines line ih =>
    rw [Run.forall_split_concat, ← ih, ← exists_and_right]
    simp only [runLines_concat_iff]
    rw [exists_comm]
    refine exists_congr fun before => ?_
    rw [exists_and_left]
    refine and_congr_right fun hbefore => ?_
    rw [exists_eq_none_iff, runLine, step_eq_none_iff, feed_of_run hbefore, ← feedInForce_concat]
    rfl

end Runs

end Machine

/-! ## 3. Replays -/

theorem Replayer.exists_report_iff_exists_run {r : Replayer} (hlines : r.lines ≠ []) :
    (∃ report, r.run.2 = .ok report) ↔
      ∃ m, Machine.initial.runLines r.setup 0 r.lines = (m, none) := by
  constructor
  · rintro ⟨report, h⟩
    obtain ⟨m, hrun, -⟩ := exists_machine_of_run h
    exact ⟨m, hrun⟩
  · rintro ⟨m, hrun⟩
    refine ⟨.ofMachine (m.noteIf m.penDown .endsWithPenDown), ?_⟩
    rw [run, if_neg (by rwa [List.isEmpty_iff]), hrun]

/-- **Which programs are replayed.**  At the standard speeds, and whatever commands move the pen, a
program with something in it is replayed to its end exactly if no line draws while a faint feed is in
force.  Nothing but such a line stops a replay. -/
theorem Replayer.exists_report_iff {r : Replayer} {penUp penDown program : String}
    (hsetup : r.setup = .standard penUp penDown) (hprogram : program ≠ "") :
    ((∃ report, (r.load program).run.2 = .ok report) ↔
      ∀ front line rest, (r.load program).lines = front ++ line :: rest →
        DrawsInTime r.setup front line) ∧
    ∀ e, (r.load program).run.2 = .error e → e = .fault .divisionByZero := by
  have hlines := r.lines_load_ne_nil hprogram
  have htimed : Machine.Timed (r.load program).setup := by
    show Machine.Timed r.setup
    rw [hsetup]
    exact ⟨⟨_, rfl⟩, _, rfl⟩
  refine ⟨?_, fun e he => eq_divisionByZero_of_run htimed hlines he⟩
  rw [exists_report_iff_exists_run hlines, show (r.load program).setup = r.setup from rfl, hsetup]
  exact Machine.exists_run_iff

def timedProgram : String := "G1 X\u0663.5 F-1\nG91\nM3\nG1 Y-.5 F1\nG0 F.0\nG1"

theorem Replayer.exists_report_timed :
    ∃ report, ((new (.standard "M5" "M3")).load timedProgram).run.2 = .ok report ∧
      ∀ front line rest, Text.splitLines timedProgram.toList = front ++ line :: rest →
        DrawsInTime (.standard "M5" "M3") front line := by
  have hrun : ((new (.standard "M5" "M3")).load timedProgram).run.2.toOption.isSome = true := by
    decide +kernel
  cases h : ((new (.standard "M5" "M3")).load timedProgram).run.2 with
  | error e => simp [h, Except.toOption] at hrun
  | ok report =>
    obtain ⟨hiff, -⟩ := exists_report_iff (r := new (.standard "M5" "M3")) rfl
      (show timedProgram ≠ "" by decide)
    exact ⟨report, rfl, hiff.1 ⟨report, h⟩⟩

def faintLine : List Char :=
  ['G', '1', ' ', 'F', '0', '.'] ++ List.replicate 323 '0' ++ ['5']

def Replayer.faint : Replayer := (new (.standard "M5" "M3")).load (String.ofList faintLine)

theorem Replayer.run_faint : faint.run.2 = .error (.fault .divisionByZero) := by
  have hfaint : faint = ⟨.standard "M5" "M3", Text.splitLines faintLine, .initial⟩ :=
    congrArg (fun s => Replayer.mk _ (Text.splitLines s) .initial) String.toList_ofList
  rw [hfaint]
  decide +kernel

end PenPlotter.Replay
