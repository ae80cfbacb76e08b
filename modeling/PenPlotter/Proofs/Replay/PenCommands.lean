import PenPlotter.Proofs.Replay.Simulation
import PenPlotter.Proofs.Replay.Steps

/-!
# Commands for the pen that have a comment of their own

A machine compares the code of a line, which has no comment, with a command for the pen as it is
written.  So a command with a comment is never recognised: the pen is then lowered or lifted in the
program but not in its replay.
-/

set_option autoImplicit false

namespace PenPlotter

open Replay

attribute [local irreducible] Tool.isAwayFrom

/-- Settings whose commands can be told apart by their code: those for the pen have some, not the same
and not that of another kind of line, and the others are neither moves nor modes. -/
structure Distinguishable (settings : Settings) : Prop where
  notBlank : ∀ c ∈ [settings.penUp, settings.penDown], codePart c.text.toList ≠ []
  distinct : codePart settings.penUp.text.toList ≠ codePart settings.penDown.text.toList
  notMode : ∀ c ∈ [settings.penUp, settings.penDown],
    codePart c.text.toList ∉ [['G', '2', '1'], ['G', '9', '0'], ['G', '9', '1']]
  notMove : ∀ c ∈ [settings.penUp, settings.penDown],
    ¬(isMove (codePart c.text.toList) = true ∧
      ((Words.ofCode (codePart c.text.toList)).x?.isSome = true ∨
        (Words.ofCode (codePart c.text.toList)).y?.isSome = true))
  separate : ∀ c ∈ [settings.start, settings.finish],
    ∀ pen ∈ [settings.penUp, settings.penDown],
      codePart c.text.toList ≠ codePart pen.text.toList
  idle : ∀ c ∈ [settings.start, settings.finish],
    isMove (codePart c.text.toList) = false ∧ changesMode (codePart c.text.toList) = false

def Settings.PenBare (settings : Settings) : Prop :=
  ∀ c ∈ [settings.penUp, settings.penDown], ';' ∉ c.text.toList

instance (settings : Settings) : Decidable settings.PenBare :=
  inferInstanceAs (Decidable (∀ c ∈ [settings.penUp, settings.penDown], ';' ∉ c.text.toList))

/-! ## 1. Lines and commands for the pen -/

section Lines

variable {settings : Settings} {line : Line} {c : Command}

-- No code is a command that has a comment.
theorem codePart_ne_of_comment {command : List Char} (h : ';' ∈ command) (s : List Char) :
    codePart s ≠ Text.trim command := by
  intro heq
  have hmem : ';' ∈ codePart s := heq ▸ Text.mem_trimWhere h (by decide)
  exact semicolon_notMem_codePart s hmem

-- Lines that do not move the pen have other code than the commands that do.
theorem Distinguishable.codePart_ne (h : Distinguishable settings) (hfits : line.Fits settings)
    (hpen : line.isPen = false) (hc : c ∈ [settings.penUp, settings.penDown]) :
    codePart line.text.toList ≠ Text.trim c.text.toList := by
  by_cases hcomment : ';' ∈ c.text.toList
  · exact codePart_ne_of_comment hcomment _
  rw [← codePart_eq_trim hcomment]
  have hmode := h.notMode c hc
  simp only [List.mem_cons, List.not_mem_nil, or_false, not_or] at hmode
  have hmove := h.notMove c hc
  -- One condition for each kind of line that such a command could be taken for.
  cases line with
  | units => exact fun heq => hmode.1 heq.symm
  | absolute => exact fun heq => hmode.2.1 heq.symm
  | start command =>
    obtain rfl : command = settings.start := hfits
    rw [codePart_start]
    exact h.separate _ (by simp) c hc
  | blank | noDrawing => exact fun heq => h.notBlank c hc heq.symm
  | travel x y =>
    rw [codePart_travel hfits.1 hfits.2]
    intro heq
    rw [← heq, ofCode_travelChars hfits.1 hfits.2] at hmove
    exact hmove ⟨rfl, .inl rfl⟩
  | penDown command => cases hpen
  | draw x y feed =>
    obtain ⟨hx, hy, rfl⟩ := hfits
    rw [codePart_draw hx hy settings.feed_pos]
    intro heq
    rw [← heq, ofCode_drawChars hx hy settings.feed_pos] at hmove
    exact hmove ⟨rfl, .inl rfl⟩
  | penUp command => cases hpen
  | returnToOrigin =>
    intro heq
    rw [← heq] at hmove
    exact hmove ⟨by decide, .inl (by decide +kernel)⟩
  | finish command =>
    obtain rfl : command = settings.finish := hfits
    rw [codePart_finish]
    exact h.separate _ (by simp) c hc

/-- Commands without comments that can be told apart are recognised. -/
theorem Distinguishable.recognisable (h : Distinguishable settings) (hbare : settings.PenBare)
    {lines : List Line} (hfits : ∀ line ∈ lines, line.Fits settings) :
    Recognisable settings lines where
  bare := hbare
  notBlank c hc := by
    rw [← codePart_eq_trim (hbare c hc)]
    exact h.notBlank c hc
  distinct := by
    rw [← codePart_eq_trim (hbare settings.penUp (by simp)),
      ← codePart_eq_trim (hbare settings.penDown (by simp))]
    exact h.distinct
  separate line hline hpen c hc := h.codePart_ne (hfits line hline) hpen hc
  idle := h.idle

theorem Distinguishable.ofLine_of_not_isPen (h : Distinguishable settings)
    (hfits : line.Fits settings) (hpen : line.isPen = false) :
    Instruction.ofLine (setupOf settings) line.text.toList = line.instruction :=
  Replay.ofLine_of_not_isPen hpen (h.codePart_ne hfits hpen (by simp))
    (h.codePart_ne hfits hpen (by simp)) hfits h.idle

end Lines

/-! ## 2. Programs -/

section Programs

variable {settings : Settings}

-- Without a drawing the commands for the pen do not matter.
theorem Distinguishable.check_of_nothing (h : Distinguishable settings)
    (hbreaks : ∀ c ∈ settings.commands, Text.Unbroken c.text.toList) :
    ∃ report, check settings (programText (header settings ++ [Line.noDrawing] ++ closing settings))
      (.double 6000) = .ok report ∧ report.violations = [] := by
  have hfits : ∀ line ∈ header settings ++ [Line.noDrawing] ++ closing settings,
      line.Fits settings := by
    simp only [List.forall_mem_append, List.forall_mem_singleton]
    exact ⟨⟨fits_of_mem_header, trivial⟩, fits_of_mem_closing⟩
  have hpen : ∀ line ∈ header settings ++ [Line.noDrawing] ++ closing settings,
      line.isPen = false := by
    simp [header, closing, Line.isPen]
  have hlines : Machine.Understands (setupOf settings)
      (header settings ++ [Line.noDrawing] ++ closing settings) :=
    fun line hline => h.ofLine_of_not_isPen (hfits line hline) (hpen line hline)
  simp only [Machine.understands_append] at hlines
  obtain ⟨⟨hheader, hnothing⟩, hclosing⟩ := hlines
  have hstart := Machine.initial_keeps.runs_allPassed hheader Machine.passed_of_mem_header
  have hpass := Machine.initial_keeps.runs_passed hnothing (by simp [Line.instruction])
  obtain ⟨m, hend, hkeeps⟩ := Machine.initial_keeps.runs_closing rfl hclosing
  have hrun := run_of_runs (lines_of hbreaks hfits) (by simp [header])
    ((hstart.append hpass).append hend) hkeeps.penDown
  exact ⟨.ofMachine m, congrArg Prod.snd hrun, hkeeps.clean⟩

-- A report comes from a run to the end, and has all that was noted on the way.
theorem exists_run_of_check {text : String} {report : Report}
    (h : check settings text (.double 6000) = .ok report) :
    ∃ m, Machine.initial.runLines (setupOf settings) 0
        (Replayer.of settings text (.double 6000)).lines = (m, none) ∧
      report.violations = m.violations ++ if m.penDown then [Violation.endsWithPenDown] else [] := by
  have hsetup : (Replayer.of settings text (.double 6000)).setup = setupOf settings := rfl
  rw [check, Replayer.run, hsetup] at h
  split at h
  · cases h
  · split at h
    · cases h
    · rename_i m hrun
      cases h
      exact ⟨m, hrun, Machine.violations_noteIf m m.penDown _⟩

theorem ofLine_ne_penDown (h : ';' ∈ settings.penDown.text.toList) (s : List Char) :
    Instruction.ofLine (setupOf settings) s ≠ .penDown := by
  have hne : codePart s ≠ Text.trim (setupOf settings).penDown.toList := codePart_ne_of_comment h s
  simp only [Instruction.ofLine, if_neg hne]
  repeat' split
  all_goals simp

theorem ofLine_ne_penUp (h : ';' ∈ settings.penUp.text.toList) (s : List Char) :
    Instruction.ofLine (setupOf settings) s ≠ .penUp := by
  have hne : codePart s ≠ Text.trim (setupOf settings).penUp.toList := codePart_ne_of_comment h s
  simp only [Instruction.ofLine, if_neg hne]
  repeat' split
  all_goals simp

variable {lines : List Line} {m : Machine}

-- Where the pen is never lowered the first drawing line is noted.
theorem Distinguishable.violations_of_comment_penDown (h : Distinguishable settings)
    (hcomment : ';' ∈ settings.penDown.text.toList) {x y : Double}
    (hdraw : .draw x y settings.feedRate ∈ lines) (hx : x.isFinite = true) (hy : y.isFinite = true)
    (hrun : Machine.initial.runLines (setupOf settings) 0 (lines.map (·.text.toList)) = (m, none)) :
    m.violations ≠ [] := by
  have hline : Instruction.ofLine (setupOf settings)
      (Line.draw x y settings.feedRate).text.toList = _ :=
    h.ofLine_of_not_isPen ⟨hx, hy, rfl⟩ rfl
  obtain ⟨front, rest, rfl⟩ := List.append_of_mem hdraw
  rw [List.map_append, List.map_cons] at hrun
  obtain ⟨before, place, after, next, hfront, hat, hrest⟩ := Machine.exists_run_to hrun
  have hup : before.penDown = false :=
    Machine.penDown_runLines_of_up hfront (fun s _ => ofLine_ne_penDown hcomment s) rfl
  have hnoted : after.violations ≠ [] := by
    have hstep := Machine.violations_step (setupOf settings) before place
      (Line.draw x y settings.feedRate).instruction
    rw [Machine.runLine, hline] at hat
    rw [hat] at hstep
    rw [hstep]
    simp [Machine.noted, Line.instruction, hup]
  exact Machine.violations_runLines hrest hnoted

-- Where the pen is lowered and never lifted, it is down in the end.
theorem Distinguishable.penDown_of_comment_penUp (h : Distinguishable settings)
    (hcomment : ';' ∈ settings.penUp.text.toList) (hbare : ';' ∉ settings.penDown.text.toList)
    (hlower : .penDown settings.penDown ∈ lines)
    (hrun : Machine.initial.runLines (setupOf settings) 0 (lines.map (·.text.toList)) = (m, none)) :
    m.penDown = true := by
  have hne := h.notBlank settings.penDown (by simp)
  have hline : Instruction.ofLine (setupOf settings)
      (Line.penDown settings.penDown).text.toList = .penDown := by
    rw [codePart_eq_trim hbare] at hne
    simp only [Instruction.ofLine, (codePart_pen hbare).1, List.isEmpty_iff, if_neg hne]
    exact if_pos rfl
  obtain ⟨front, rest, rfl⟩ := List.append_of_mem hlower
  rw [List.map_append, List.map_cons] at hrun
  obtain ⟨before, place, after, next, hfront, hat, hrest⟩ := Machine.exists_run_to hrun
  have hdown : after.penDown = true := by
    have hstep := Machine.penDown_step (setupOf settings) before place .penDown
    rw [Machine.runLine, hline] at hat
    rwa [hat] at hstep
  exact Machine.penDown_runLines_of_down hrest (fun s _ => ofLine_ne_penUp hcomment s) hdown

end Programs

namespace Draft

/-- **Programs pass their own check** exactly where neither command for the pen has a comment of its own,
or nothing is drawn.  This is so for all settings whose commands can be told apart by their code. -/
theorem check_rebuild_iff {d d' : Draft} {text : String} (hrebuild : d.rebuild = (d', .ok text))
    (hbreaks : ∀ c ∈ d.settings.commands, Text.Unbroken c.text.toList)
    (h : Distinguishable d.settings) :
    (∃ report, check d.settings text (.double 6000) = .ok report ∧ report.violations = []) ↔
      d.history.segments = [] ∨ d.settings.PenBare := by
  obtain ⟨hcompile, rfl⟩ := rebuild_eq_ok hrebuild
  by_cases hne : d.history.segments = []
  · rw [hne, compile_nil] at hcompile
    have hlines : d'.lines = header d.settings ++ [Line.noDrawing] ++ closing d.settings := by
      simpa using (congrArg Prod.snd hcompile).symm
    rw [hlines]
    exact ⟨fun _ => .inl hne, fun _ => h.check_of_nothing hbreaks⟩
  rw [or_iff_right hne]
  obtain ⟨box, strokes, -, hplaces, hstrokes, hprogram⟩ := compile_eq_ok hcompile hne
  have hfits := fits_of_mem_strokesProgram d.settings hplaces.isFinite
  constructor
  · -- A comment on either command shows: in drawing with the pen up, or in ending with it down.
    rintro ⟨report, hcheck, hclean⟩
    obtain ⟨m, hrun, hviolations⟩ := exists_run_of_check hcheck
    rw [hprogram, strokesProgram, lines_of hbreaks hfits] at hrun
    rw [hviolations, List.append_eq_nil_iff] at hclean
    obtain ⟨k, rest, rfl⟩ := List.exists_cons_of_ne_nil hstrokes
    obtain ⟨hlower, hdraw⟩ := mem_strokesProgram d.settings k rest
    obtain ⟨-, -, hx, hy⟩ := hplaces.isFinite k List.mem_cons_self
    have hbareDown : ';' ∉ d.settings.penDown.text.toList := fun hcomment =>
      h.violations_of_comment_penDown hcomment hdraw hx hy hrun hclean.1
    have hbareUp : ';' ∉ d.settings.penUp.text.toList := by
      intro hcomment
      have hdown := h.penDown_of_comment_penUp hcomment hbareDown hlower hrun
      simp [hdown] at hclean
    simpa [Settings.PenBare] using ⟨hbareUp, hbareDown⟩
  · intro hbare
    have hrec := h.recognisable hbare hfits
    rw [← hprogram] at hrec
    obtain ⟨_, _, m, _, -, -, -, hkeeps, -, -, -, hrun⟩ := exists_replay hcompile hne hbreaks hrec
    exact ⟨.ofMachine m, congrArg Prod.snd hrun, hkeeps.clean⟩

theorem distinguishable_standard : Distinguishable .standard where
  notBlank := by decide
  distinct := by decide
  notMode := by decide
  notMove := by decide
  separate := by decide
  idle := by decide

/-- The program of a drawing with plain commands for the pen passes its check. -/
theorem check_rebuild_sample :
    ∃ report, check sample.settings sample.rebuild.1.text (.double 6000) = .ok report ∧
      report.violations = [] :=
  (check_rebuild_iff rebuild_sample (by decide) distinguishable_standard).2 (.inr (by decide))

def commented : Draft :=
  (new { Settings.standard with
    penUp := ⟨"M5 ; lift", by decide⟩
    penDown := ⟨"M3 ; lower", by decide⟩ }).record ⟨0, 0, 10, 0⟩

theorem distinguishable_commented : Distinguishable commented.settings where
  notBlank := by decide
  distinct := by decide
  notMode := by decide
  notMove := by decide
  separate := by decide
  idle := by decide

/-- Its program is refused by its own check, for drawing with the pen up. -/
theorem check_rebuild_commented :
    Distinguishable commented.settings ∧
      (∀ c ∈ commented.settings.commands, Text.Unbroken c.text.toList) ∧
      commented.rebuild = (commented.rebuild.1, .ok commented.rebuild.1.text) ∧
      (check commented.settings commented.rebuild.1.text (.double 6000)).toOption.map
        (·.violations) = some [.drawWithPenUp (.line 5)] :=
  ⟨distinguishable_commented, by decide, rebuild_of_isOk (by decide +kernel), by decide +kernel⟩

end Draft

end PenPlotter
