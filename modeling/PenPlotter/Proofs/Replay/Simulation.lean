import PenPlotter.Proofs.Program.Tracing
import PenPlotter.Proofs.Replay.Runs

/-!
# The replay of a compiled program

The part that compiles a drawing and the machine that replays a program each keep a place and the
state of a pen.  Here the two are kept in step: what the machine counts and draws is given by the
strokes of the drawing alone.
-/

set_option autoImplicit false

namespace PenPlotter

namespace Replay

attribute [local irreducible] Tool.isAwayFrom

/-! ## 1. What strokes are drawn as -/

def startShown (k : Stroke) : Point := ⟨k.x1.printed, k.y1.printed⟩

def finishShown (k : Stroke) : Point := ⟨k.x2.printed, k.y2.printed⟩

def polyline : List Stroke → List Point
  | [] => []
  | k :: rest => startShown k :: (k :: rest).map finishShown

def firstLowering (strokes : List Stroke) : Point :=
  if 0 ∈ travelled strokes then (strokes.head?.map startShown).getD ⟨0, 0⟩ else ⟨0, 0⟩

def polylines (strokes : List Stroke) : List (List Point) :=
  match chains strokes with
  | [] => []
  | first :: rest => (firstLowering strokes :: first.map finishShown) :: rest.map polyline

-- Read in order, the lines lead to the ends of all strokes.
theorem flatMap_tail_polylines (strokes : List Stroke) :
    (polylines strokes).flatMap List.tail = strokes.map finishShown := by
  have htail (chain : List Stroke) : (polyline chain).tail = chain.map finishShown := by
    cases chain <;> rfl
  have hflat : (chains strokes).flatten = strokes := List.flatten_splitBy _ _
  -- Where a chain is entered does not matter: only what comes after it is read.
  conv_rhs => rw [← hflat]
  unfold polylines
  split
  · rename_i hchains
    rw [hchains]
    rfl
  · rename_i first rest hchains
    rw [hchains, List.flatMap_cons, List.tail_cons, List.flatten_cons, List.map_append,
      List.flatMap_map, List.map_flatten, List.flatMap_def]
    simp only [htail]

section Snoc

variable {strokes : List Stroke} {k : Stroke}

theorem polylines_singleton :
    polylines [k] =
      [[if Tool.atRest.isAwayFrom k.x1 k.y1 then startShown k else ⟨0, 0⟩, finishShown k]] := by
  have hchains : chains [k] = [[k]] := rfl
  rw [polylines, hchains, firstLowering, travelled_singleton]
  by_cases haway : Tool.atRest.isAwayFrom k.x1 k.y1 = true
  · simp [haway]
  · simp [haway]

theorem firstLowering_append_singleton (hne : strokes ≠ []) :
    firstLowering (strokes ++ [k]) = firstLowering strokes := by
  have hzero : 0 ∈ travelled (strokes ++ [k]) ↔ 0 ∈ travelled strokes := by
    rw [travelled_append_singleton]
    split
    · rw [Finset.mem_insert, or_iff_right (List.length_pos_of_ne_nil hne).ne]
    · rfl
  rw [firstLowering, firstLowering, List.head?_append_of_ne_nil _ hne]
  simp only [hzero]

theorem polylines_append_of_away (hne : strokes ≠ [])
    (haway : (Tool.atRest.after strokes).isAwayFrom k.x1 k.y1 = true) :
    polylines (strokes ++ [k]) = polylines strokes ++ [[startShown k, finishShown k]] := by
  rw [polylines, polylines, chains_append_of_away hne haway, firstLowering_append_singleton hne]
  cases hchains : chains strokes with
  | nil => exact absurd hchains (List.splitBy_ne_nil.2 hne)
  | cons first rest => simp [polyline]

theorem polylines_append_of_near (hne : strokes ≠ [])
    (hnear : (Tool.atRest.after strokes).isAwayFrom k.x1 k.y1 = false) :
    polylines (strokes ++ [k]) = Machine.extendPaths (finishShown k) (polylines strokes) := by
  obtain ⟨front, final, hfinal, hbefore, hafter⟩ := exists_chains_append_of_near hne hnear
  rw [polylines, polylines, hafter, hbefore, firstLowering_append_singleton hne]
  cases front with
  | nil => simp [Machine.extendPaths]
  | cons first rest =>
    simp only [List.cons_append, List.map_append, List.map_cons, List.map_nil]
    rw [← List.cons_append, ← List.cons_append, extendPaths_append_singleton]
    cases final with
    | nil => exact absurd rfl hfinal
    | cons start others => simp [polyline]

/-- There is a line for the first stroke and one for each further stroke that is travelled to. -/
theorem length_polylines (hne : strokes ≠ []) :
    (polylines strokes).length = 1 + ((travelled strokes).erase 0).card := by
  -- A further stroke either starts a line of its own or goes on with the last one.
  induction strokes using List.reverseRecOn with
  | nil => exact absurd rfl hne
  | append_singleton strokes k ih =>
    by_cases hfirst : strokes = []
    · rw [hfirst, List.nil_append, polylines_singleton, travelled_singleton]
      split <;> rfl
    have hlength := ih hfirst
    rw [travelled_append_singleton]
    by_cases haway : (Tool.atRest.after strokes).isAwayFrom k.x1 k.y1 = true
    · rw [if_pos haway, polylines_append_of_away hfirst haway, List.length_append, hlength,
        Finset.erase_insert_of_ne (by simpa using hfirst),
        Finset.card_insert_of_notMem (by simp [length_notMem_travelled])]
      simp only [List.length_singleton]
      omega
    · rw [if_neg haway, polylines_append_of_near hfirst (by simpa using haway), ← hlength]
      exact length_extendPaths _ _

end Snoc

/-! ## 2. The ledger of strokes -/

namespace Ledger

def prepare (t : Tool) (k : Stroke) (l : Ledger) : Ledger :=
  if t.isAwayFrom k.x1 k.y1 then ((if t.penDown then l.lift else l).travel (startShown k)).lower
  else if t.penDown then l else l.lower

def after (strokes : List Stroke) : Ledger where
  position := ⟨(Tool.atRest.after strokes).x.printed, (Tool.atRest.after strokes).y.printed⟩
  penDown := (Tool.atRest.after strokes).penDown
  penDowns := if strokes = [] then 0 else 1 + ((travelled strokes).erase 0).card
  penUps := ((travelled strokes).erase 0).card
  travels := (travelled strokes).card
  draws := strokes.length
  paths := polylines strokes

theorem after_nil : after [] = initial := by
  have hzero : (0 : Double).printed = 0 := by decide +kernel
  have hposition : (⟨Tool.atRest.x.printed, Tool.atRest.y.printed⟩ : Point) = ⟨0, 0⟩ := by
    change (⟨(0 : Double).printed, (0 : Double).printed⟩ : Point) = _
    rw [hzero]
  ext1
  · exact hposition
  all_goals rfl

theorem after_singleton (k : Stroke) :
    after [k] = (initial.prepare .atRest k).draw (finishShown k) := by
  have hup : Tool.atRest.penDown = false := rfl
  by_cases haway : Tool.atRest.isAwayFrom k.x1 k.y1 = true
  · simp [after, prepare, initial, lower, travel, draw, travelled_singleton, polylines_singleton,
      finishShown, Machine.extendPaths, haway, hup]
  · simp [after, prepare, initial, lower, draw, travelled_singleton, polylines_singleton,
      finishShown, Machine.extendPaths, haway, hup]

/-- **One more stroke.**  The ledger of strokes is kept by what the tool does for each. -/
theorem after_append_singleton (strokes : List Stroke) (k : Stroke) :
    after (strokes ++ [k]) =
      ((after strokes).prepare (Tool.atRest.after strokes) k).draw (finishShown k) := by
  by_cases hne : strokes = []
  · rw [hne, after_nil]
    exact after_singleton k
  -- After the first stroke the pen is down, so each travel lifts and lowers it once.
  have htravelled := travelled_append_singleton strokes k
  have hdown := Tool.penDown_after (t := .atRest) hne
  by_cases haway : (Tool.atRest.after strokes).isAwayFrom k.x1 k.y1 = true
  · have hcard : (travelled (strokes ++ [k])).card = (travelled strokes).card + 1 := by
      rw [htravelled, if_pos haway, Finset.card_insert_of_notMem (length_notMem_travelled strokes)]
    have hcard' : ((travelled (strokes ++ [k])).erase 0).card =
        ((travelled strokes).erase 0).card + 1 := by
      rw [htravelled, if_pos haway, Finset.erase_insert_of_ne (by simpa using hne),
        Finset.card_insert_of_notMem (by simp [length_notMem_travelled])]
    simp [after, prepare, lower, lift, travel, draw, hne, hdown, haway, hcard, hcard',
      polylines_append_of_away hne haway, finishShown, extendPaths_append_singleton]
    omega
  · have hpaths := polylines_append_of_near hne (by simpa using haway)
    rw [if_neg haway] at htravelled
    simp [after, prepare, draw, hne, hdown, haway, htravelled, hpaths, finishShown]

end Ledger

/-! ## 3. Running strokes -/

/-- What a machine does to draw a stroke: it has the pen down, and ends where the stroke ends in print.
It starts where the stroke starts in print, unless the tool counted as being there already. -/
structure Draws (k : Stroke) (move : Machine × Machine) : Prop where
  penDown : move.1.penDown = true
  finish : move.2.position = finishShown k
  start : move.1.position = startShown k ∨
    ∃ t : Tool, t.x.isFinite = true ∧ t.y.isFinite = true ∧ t.isAwayFrom k.x1 k.y1 = false ∧
      move.1.position = ⟨t.x.printed, t.y.printed⟩

namespace Machine

section Strokes

variable {settings : Settings} {m : Machine} {l : Ledger} {t : Tool} {k : Stroke}

-- The pen is lifted only if it is down, which it is not before the first stroke.
theorem Keeps.runs_liftIfDown (h : m.Keeps l) (hpen : l.penDown = t.penDown)
    (hlines : Understands (setupOf settings) (if t.penDown then [.penUp settings.penUp] else [])) :
    ∃ m', Runs (setupOf settings) m (if t.penDown then [.penUp settings.penUp] else []) m' [] ∧
      m'.Keeps (if t.penDown then l.lift else l) := by
  by_cases hdown : t.penDown = true
  · rw [if_pos hdown, if_pos hdown]
    rw [if_pos hdown] at hlines
    exact h.runs_lift (hpen.trans hdown) hlines
  · rw [if_neg hdown, if_neg hdown]
    exact ⟨m, .nil _ _, h⟩

theorem penDown_liftIfDown (hpen : l.penDown = t.penDown) :
    (if t.penDown then l.lift else l).penDown = false := by
  by_cases hdown : t.penDown = true
  · rw [if_pos hdown]
    rfl
  · rw [if_neg hdown, hpen]
    simpa using hdown

theorem Keeps.runs_prepare (h : m.Keeps l) (hpen : l.penDown = t.penDown)
    (hlines : Understands (setupOf settings) (t.prepare settings k)) :
    ∃ m', Runs (setupOf settings) m (t.prepare settings k) m' [] ∧ m'.Keeps (l.prepare t k) := by
  unfold Tool.prepare Ledger.prepare at *
  by_cases haway : t.isAwayFrom k.x1 k.y1 = true
  · rw [if_pos haway, if_pos haway]
    rw [if_pos haway, understands_append, understands_append] at hlines
    obtain ⟨hlift, htravel, hlower⟩ := hlines
    obtain ⟨m₁, hrun₁, hkeeps₁⟩ := h.runs_liftIfDown hpen hlift
    have hup := penDown_liftIfDown hpen
    obtain ⟨m₂, hrun₂, hkeeps₂⟩ := hkeeps₁.runs_travel hup htravel
    obtain ⟨m₃, hrun₃, hkeeps₃⟩ := hkeeps₂.runs_lower hup hlower
    exact ⟨m₃, hrun₁.append (hrun₂.append hrun₃), hkeeps₃⟩
  · rw [if_neg haway, if_neg haway]
    rw [if_neg haway] at hlines
    by_cases hdown : t.penDown = true
    · rw [if_pos hdown, if_pos hdown]
      exact ⟨m, .nil _ _, h⟩
    · rw [if_neg hdown, if_neg hdown]
      rw [if_neg hdown] at hlines
      exact h.runs_lower (hpen.trans (by simpa using hdown)) hlines

theorem penDown_prepare (hpen : l.penDown = t.penDown) : (l.prepare t k).penDown = true := by
  unfold Ledger.prepare
  by_cases haway : t.isAwayFrom k.x1 k.y1 = true
  · rw [if_pos haway]
    rfl
  · rw [if_neg haway]
    by_cases hdown : t.penDown = true
    · rw [if_pos hdown, hpen, hdown]
    · rw [if_neg hdown]
      rfl

theorem position_prepare (l : Ledger) (t : Tool) (k : Stroke) :
    (l.prepare t k).position =
      if t.isAwayFrom k.x1 k.y1 then startShown k else l.position := by
  unfold Ledger.prepare
  by_cases haway : t.isAwayFrom k.x1 k.y1 = true
  · rw [if_pos haway, if_pos haway]
    rfl
  · rw [if_neg haway, if_neg haway]
    by_cases hdown : t.penDown = true
    · rw [if_pos hdown]
    · rw [if_neg hdown]
      rfl

-- One stroke is drawn by one move of the machine.
theorem Keeps.runs_trace (h : m.Keeps l) (hpen : l.penDown = t.penDown)
    (hx : t.x.isFinite = true) (hy : t.y.isFinite = true)
    (hposition : l.position = ⟨t.x.printed, t.y.printed⟩)
    (hlines : Understands (setupOf settings) (t.trace settings k).1) :
    ∃ m' move, Runs (setupOf settings) m (t.trace settings k).1 m' [move] ∧
      m'.Keeps ((l.prepare t k).draw (finishShown k)) ∧ Draws k move := by
  rw [Tool.trace_fst, understands_append] at hlines
  obtain ⟨before, hprepare, hbefore⟩ := h.runs_prepare hpen hlines.1
  obtain ⟨m', hdraw, hkeeps⟩ := hbefore.runs_draw (penDown_prepare hpen) hlines.2
  refine ⟨m', (before, m'), ?_, hkeeps, ?_⟩
  · rw [Tool.trace_fst]
    exact hprepare.append hdraw
  · -- Without a travel the machine is where the stroke before left it.
    refine ⟨hbefore.penDown.trans (penDown_prepare hpen), hkeeps.position, ?_⟩
    have hstart := hbefore.position.trans (position_prepare l t k)
    by_cases haway : t.isAwayFrom k.x1 k.y1 = true
    · rw [if_pos haway] at hstart
      exact .inl hstart
    · rw [if_neg haway, hposition] at hstart
      exact .inr ⟨t, hx, hy, by simpa using haway, hstart⟩

theorem isFinite_after {strokes : List Stroke} (hfinite : ∀ k ∈ strokes, k.IsFinite) :
    (Tool.atRest.after strokes).x.isFinite = true ∧
      (Tool.atRest.after strokes).y.isFinite = true := by
  rcases List.eq_nil_or_concat strokes with rfl | ⟨init, last, rfl⟩
  · exact ⟨by decide +kernel, by decide +kernel⟩
  · rw [List.concat_eq_append, Tool.after_append_singleton]
    exact (hfinite last (by simp)).2.2

/-- **Strokes are drawn one by one.**  The induction is on the strokes from the last: what the machine
did for all before is in the ledger. -/
theorem Keeps.runs_strokes (h : m.Keeps .initial) {strokes : List Stroke}
    (hfinite : ∀ k ∈ strokes, k.IsFinite)
    (hlines : Understands (setupOf settings) (Tool.atRest.traceStrokes settings strokes)) :
    ∃ m' moves, Runs (setupOf settings) m (Tool.atRest.traceStrokes settings strokes) m' moves ∧
      m'.Keeps (.after strokes) ∧ List.Forall₂ Draws strokes moves := by
  induction strokes using List.reverseRecOn with
  | nil => exact ⟨m, [], .nil _ _, Ledger.after_nil ▸ h, .nil⟩
  | append_singleton strokes k ih =>
    rw [Tool.traceStrokes_append_singleton, understands_append] at hlines
    rw [List.forall_mem_append] at hfinite
    obtain ⟨m₁, moves, hruns, hkeeps, hdraws⟩ := ih hfinite.1 hlines.1
    obtain ⟨hx, hy⟩ := isFinite_after hfinite.1
    obtain ⟨m₂, move, hrun, hkeeps', hdraw⟩ := hkeeps.runs_trace rfl hx hy rfl hlines.2
    refine ⟨m₂, moves ++ [move], ?_, ?_, ?_⟩
    · rw [Tool.traceStrokes_append_singleton]
      exact hruns.append hrun
    · rw [Ledger.after_append_singleton]
      exact hkeeps'
    · exact List.rel_append hdraws (.cons hdraw .nil)

end Strokes

/-! ## 4. Running programs -/

section Programs

variable {settings : Settings} {strokes : List Stroke}

theorem idle_passed (c : Command) : c.idle ∈ [Instruction.none, .other, .absolute] := by
  unfold Command.idle
  split <;> simp

theorem passed_of_mem_header :
    ∀ line ∈ header settings, line.instruction ∈ [Instruction.none, .other, .absolute] := by
  have hidle := idle_passed settings.start
  simp only [header, List.forall_mem_cons, Line.instruction]
  simp [hidle]

theorem Keeps.runs_closing {m : Machine} {l : Ledger} (h : m.Keeps l) (hup : l.penDown = false)
    (hlines : Understands (setupOf settings) (closing settings)) :
    ∃ m', Runs (setupOf settings) m (closing settings) m' [] ∧ m'.Keeps (l.travel ⟨0, 0⟩) := by
  have hclosing :
      closing settings = [Line.blank] ++ ([Line.returnToOrigin] ++ [Line.finish settings.finish]) :=
    rfl
  rw [hclosing, understands_append, understands_append] at hlines
  obtain ⟨hblank, hreturn, hfinish⟩ := hlines
  have hpass := h.runs_passed hblank List.mem_cons_self
  obtain ⟨m', htravel, hkeeps⟩ := h.runs_return hup hreturn
  have hend := hkeeps.runs_passed hfinish (idle_passed settings.finish)
  exact ⟨m', hpass.append (htravel.append hend), hkeeps⟩

/-- The program of strokes is run to its end, which is at the origin with the pen up. -/
theorem runs_strokesProgram (hne : strokes ≠ []) (hfinite : ∀ k ∈ strokes, k.IsFinite)
    (hlines : Understands (setupOf settings) (strokesProgram settings strokes)) :
    ∃ m moves, Runs (setupOf settings) .initial (strokesProgram settings strokes) m moves ∧
      m.Keeps ((Ledger.after strokes).lift.travel ⟨0, 0⟩) ∧ List.Forall₂ Draws strokes moves := by
  rw [strokesProgram] at *
  simp only [understands_append] at hlines
  obtain ⟨⟨hheader, htrace, hpenUp⟩, hclosing⟩ := hlines
  have hstart := initial_keeps.runs_allPassed hheader passed_of_mem_header
  obtain ⟨m₁, moves, hruns, hkeeps₁, hdraws⟩ := initial_keeps.runs_strokes hfinite htrace
  obtain ⟨m₂, hlift, hkeeps₂⟩ := hkeeps₁.runs_lift (Tool.penDown_after hne) hpenUp
  obtain ⟨m₃, hend, hkeeps₃⟩ := hkeeps₂.runs_closing rfl hclosing
  have hall := (hstart.append (hruns.append hlift)).append hend
  exact ⟨m₃, moves, by simpa using hall, hkeeps₃, hdraws⟩

end Programs

end Machine

section Texts

variable {settings : Settings}

-- The text of a program has the lines of the program, the last of which is not empty.
theorem lines_of {front : List Line}
    (hbreaks : ∀ c ∈ settings.commands, Text.Unbroken c.text.toList)
    (hfits : ∀ line ∈ front ++ closing settings, line.Fits settings) :
    (Replayer.of settings (programText (front ++ closing settings)) (.double 6000)).lines =
      (front ++ closing settings).map (·.text.toList) := by
  apply splitLines_programText
  · exact fun line hline =>
      (hfits line hline).unbroken_iff.2 fun c hc => hbreaks c ((hfits line hline).mem_commands hc)
  · intro line hline
    obtain rfl : Line.finish settings.finish = line := by simpa [closing] using hline
    simp [Line.text]

-- A replay that comes to its end with the pen up reports the machine it ends with.
theorem run_of_runs {r : Replayer} {lines : List Line} {m : Machine}
    {moves : List (Machine × Machine)} (hlines : r.lines = lines.map (·.text.toList))
    (hne : lines ≠ []) (hruns : Machine.Runs r.setup .initial lines m moves)
    (hup : m.penDown = false) : r.run = ({ r with machine := m }, .ok (.ofMachine m)) := by
  have hsome : ¬r.lines.isEmpty = true := by
    rw [hlines]
    simpa using hne
  rw [Replayer.run, if_neg hsome, hlines, hruns.runLines]
  simp [Machine.noteIf, hup]

end Texts

/-- **The replay of a drawing.**  Where its lines are recognised, the program of a drawing is run to
its end, and the ledger is that of its strokes. -/
theorem exists_replay {settings : Settings} {segments : List Segment} {t : Tool} {lines : List Line}
    (hcompile : compile settings segments = (t, .ok lines)) (hne : segments ≠ [])
    (hbreaks : ∀ c ∈ settings.commands, Text.Unbroken c.text.toList)
    (hrec : Recognisable settings lines) :
    ∃ box strokes m moves, Extent.of? segments = some box ∧
      (Placement.grounding box settings.scale).Places segments strokes ∧ strokes ≠ [] ∧
      m.Keeps ((Ledger.after strokes).lift.travel ⟨0, 0⟩) ∧ List.Forall₂ Draws strokes moves ∧
      Machine.Runs (setupOf settings) .initial lines m moves ∧
      (Replayer.of settings (programText lines) (.double 6000)).lines =
        lines.map (·.text.toList) ∧
      (Replayer.of settings (programText lines) (.double 6000)).run =
        ({ Replayer.of settings (programText lines) (.double 6000) with machine := m },
          .ok (.ofMachine m)) := by
  obtain ⟨box, strokes, hbox, hplaces, hstrokes, rfl⟩ := compile_eq_ok hcompile hne
  have hfinite := hplaces.isFinite
  have hfits := fits_of_mem_strokesProgram settings hfinite
  have hlines : Machine.Understands (setupOf settings) (strokesProgram settings strokes) :=
    fun line hline => hrec.ofLine rfl rfl hline (hfits line hline)
  obtain ⟨m, moves, hruns, hkeeps, hdraws⟩ := Machine.runs_strokesProgram hstrokes hfinite hlines
  have hsplit := lines_of hbreaks hfits
  exact ⟨box, strokes, m, moves, hbox, hplaces, hstrokes, hkeeps, hdraws, hruns, hsplit,
    run_of_runs hsplit (by simp [header]) hruns hkeeps.penDown⟩

end Replay

namespace Draft

open Replay

/-- **Emitter and machine agree.**  The program of a drawing, replayed with the pen commands that it was
made with, violates nothing and ends at the origin with the pen up.  It draws each segment, travels
to those that start away from where the one before ends, and in the end to the origin, and lowers
and lifts the pen once for each line that it draws.  These lines are the chains of the drawing. -/
theorem replay_rebuild {d d' : Draft} {text : String} (hrebuild : d.rebuild = (d', .ok text))
    (hne : d.history.segments ≠ [])
    (hbreaks : ∀ c ∈ d.settings.commands, Text.Unbroken c.text.toList)
    (hrec : Recognisable d.settings d'.lines) :
    ∃ box strokes r report, Extent.of? d.history.segments = some box ∧
      (Placement.grounding box d.settings.scale).Places d.history.segments strokes ∧
      (Replayer.of d.settings text (.double 6000)).run = (r, .ok report) ∧
      check d.settings text (.double 6000) = .ok report ∧
      report.violations = [] ∧ report.endsPenUp = true ∧ report.finish = ⟨0, 0⟩ ∧
      report.draws = d.history.size ∧ report.travels = (travelled strokes).card + 1 ∧
      report.penDowns = 1 + ((travelled strokes).erase 0).card ∧
      report.penUps = report.penDowns ∧
      r.machine.paths = polylines strokes ∧ r.machine.paths.length = report.penDowns ∧
      r.machine.paths.flatMap List.tail = strokes.map finishShown := by
  obtain ⟨hcompile, rfl⟩ := rebuild_eq_ok hrebuild
  obtain ⟨box, strokes, m, moves, hbox, hplaces, hstrokes, hkeeps, -, -, -, hrun⟩ :=
    exists_replay hcompile hne hbreaks hrec
  -- All that is counted is in the ledger of the strokes; the return adds one travel and one lift.
  have hledger := hkeeps.ledger
  have hsize : d.history.size = strokes.length := hplaces.length_eq
  have hpenDowns : m.penDowns = 1 + ((travelled strokes).erase 0).card := by
    rw [show m.penDowns = m.ledger.penDowns from rfl, hledger]
    exact if_neg hstrokes
  have hpaths : m.paths = polylines strokes := congrArg Ledger.paths hledger
  refine ⟨box, strokes, _, _, hbox, hplaces, hrun, congrArg Prod.snd hrun, hkeeps.clean, ?_,
    hkeeps.position, ?_, congrArg Ledger.travels hledger, hpenDowns, ?_, hpaths, ?_, ?_⟩
  · simp [Report.ofMachine, hkeeps.penDown, Ledger.travel, Ledger.lift]
  · rw [hsize]
    exact congrArg Ledger.draws hledger
  · refine (congrArg Ledger.penUps hledger).trans (Eq.trans ?_ hpenDowns.symm)
    exact Nat.add_comm _ _
  · refine (congrArg List.length hpaths).trans ((length_polylines hstrokes).trans hpenDowns.symm)
  · exact (congrArg (List.flatMap List.tail) hpaths).trans (flatMap_tail_polylines strokes)

theorem recognisable_sample : Recognisable sample.settings sample.rebuild.1.lines where
  bare := by decide
  notBlank := by decide
  distinct := by decide
  separate := by decide +kernel
  idle := by decide

theorem replay_rebuild_sample :
    ∃ report, check .standard sample.rebuild.1.text (.double 6000) = .ok report ∧
      report.violations = [] ∧ report.finish = ⟨0, 0⟩ ∧ report.draws = 3 := by
  obtain ⟨-, -, -, report, -, -, -, hcheck, hclean, -, hfinish, hdraws, -⟩ :=
    replay_rebuild rebuild_sample (by decide) (by decide) recognisable_sample
  exact ⟨report, hcheck, hclean, hfinish, hdraws⟩

end Draft

end PenPlotter
