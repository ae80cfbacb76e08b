import PenPlotter.Proofs.Program.Tracing

/-!
# Line breaks in commands

A command has neither a line feed nor a carriage return in it, but a program is cut into lines at
other characters too.  The lines of a program come back from its text exactly if none of these is in
a command that the program is made with.
-/

set_option autoImplicit false

namespace PenPlotter

open Replay

attribute [local irreducible] Tool.isAwayFrom

namespace Draft

variable {d d' : Draft} {text : String}

-- The commands in a program: those for the pen are there only if something is drawn.
theorem exists_mem_command?_iff (hrebuild : d.rebuild = (d', .ok text)) (c : Command) :
    (∃ line ∈ d'.lines, c ∈ line.command?) ↔
      c ∈ [d.settings.start, d.settings.finish] ∨
        d.history.segments ≠ [] ∧ c ∈ [d.settings.penUp, d.settings.penDown] := by
  obtain ⟨hcompile, -⟩ := rebuild_eq_ok hrebuild
  by_cases hne : d.history.segments = []
  · rw [hne, compile_nil] at hcompile
    have hlines : d'.lines = header d.settings ++ [Line.noDrawing] ++ closing d.settings := by
      simpa using (congrArg Prod.snd hcompile).symm
    simp [hlines, hne, header, closing, Line.command?, eq_comm]
  · obtain ⟨box, strokes, -, hplaces, hstrokes, hprogram⟩ := compile_eq_ok hcompile hne
    rw [hprogram]
    constructor
    · rintro ⟨line, hline, hc⟩
      have hfits := fits_of_mem_strokesProgram d.settings hplaces.isFinite line hline
      have hcommands := hfits.mem_commands hc
      simp only [Settings.commands, List.mem_cons, List.not_mem_nil, or_false] at hcommands ⊢
      tauto
    · obtain ⟨k, rest, rfl⟩ := List.exists_cons_of_ne_nil hstrokes
      have hlower := (mem_strokesProgram d.settings k rest).1
      simp only [List.mem_cons, List.not_mem_nil, or_false]
      rintro ((rfl | rfl) | ⟨-, rfl | rfl⟩)
      · exact ⟨.start d.settings.start, by simp [strokesProgram, header], rfl⟩
      · exact ⟨.finish d.settings.finish, by simp [strokesProgram, closing], rfl⟩
      · exact ⟨.penUp d.settings.penUp, by simp [strokesProgram], rfl⟩
      · exact ⟨.penDown d.settings.penDown, hlower, rfl⟩

/-- **The lines of a program** are those that its text is cut into exactly if no command in it has a
line break of any kind.  The commands for the pen matter only if something is drawn. -/
theorem splitLines_rebuild_iff (hrebuild : d.rebuild = (d', .ok text)) :
    Text.splitLines text.toList = d'.lines.map (·.text.toList) ↔
      (∀ c ∈ [d.settings.start, d.settings.finish], Text.Unbroken c.text.toList) ∧
        (d.history.segments ≠ [] →
          ∀ c ∈ [d.settings.penUp, d.settings.penDown], Text.Unbroken c.text.toList) := by
  obtain ⟨hcompile, rfl⟩ := rebuild_eq_ok hrebuild
  obtain ⟨front, hlines, hfits⟩ := exists_front_of_compile hcompile
  rw [splitLines_programText_iff]
  · have hbroken : (∀ line ∈ d'.lines, Text.Unbroken line.text.toList) ↔
        ∀ c, (∃ line ∈ d'.lines, c ∈ line.command?) → Text.Unbroken c.text.toList := by
      constructor
      · rintro h c ⟨line, hline, hc⟩
        exact (hfits line hline).unbroken_iff.1 (h line hline) c hc
      · intro h line hline
        exact (hfits line hline).unbroken_iff.2 fun c hc => h c ⟨line, hline, hc⟩
    simp only [hbroken, exists_mem_command?_iff hrebuild]
    constructor
    · exact fun h => ⟨fun c hc => h c (.inl hc), fun hne c hc => h c (.inr ⟨hne, hc⟩)⟩
    · rintro ⟨hidle, hpen⟩ c (hc | ⟨hne, hc⟩)
      · exact hidle c hc
      · exact hpen hne c hc
  · intro line hline
    obtain rfl : Line.finish d.settings.finish = line := by simpa [hlines, closing] using hline
    simp [Line.text]

theorem splitLines_rebuild_sample :
    Text.splitLines sample.rebuild.1.text.toList = sample.rebuild.1.lines.map (·.text.toList) :=
  (splitLines_rebuild_iff rebuild_sample).2 ⟨by decide, fun _ => by decide⟩

def injected : Draft :=
  (new { Settings.standard with finish := ⟨"M2\x0bG0 X100 Y100", by decide⟩ }).record ⟨0, 0, 10, 0⟩

/-- The command is accepted, and what follows the tab is a move in a line of its own. -/
theorem splitLines_rebuild_injected :
    Settings.ofEntries [(.text "end", .text "M2\x0bG0 X100 Y100")] = .ok injected.settings ∧
      injected.rebuild = (injected.rebuild.1, .ok injected.rebuild.1.text) ∧
      (Text.splitLines injected.rebuild.1.text.toList).length = injected.rebuild.1.lines.length + 1 ∧
      (Text.splitLines injected.rebuild.1.text.toList).getLast?.map
          (Instruction.ofLine (.standard "M5" "M3")) =
        some (.travel ⟨some 100, some 100, none⟩) := by
  have hrebuild : injected.rebuild = (injected.rebuild.1, .ok injected.rebuild.1.text) :=
    rebuild_of_isOk (by decide +kernel)
  -- The text is evaluated line by line, and not as one text.
  have htext : injected.rebuild.1.text.toList =
      ['\n'].intercalate (injected.rebuild.1.lines.map (·.text.toList)) := by
    rw [(rebuild_eq_ok hrebuild).2, programText, String.toList_intercalate, List.map_map]
    rfl
  refine ⟨by decide +kernel, hrebuild, ?_⟩
  rw [htext]
  decide +kernel

end Draft

end PenPlotter
