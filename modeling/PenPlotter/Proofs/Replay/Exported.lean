import PenPlotter.Proofs.Program.Export
import PenPlotter.Proofs.Replay.Faults
import PenPlotter.Proofs.Text.Stored

/-!
# Replaying an exported program

A program that is exported and read from its file again is replayed as the text that was exported.
What is different in the file is only how lines end, and whether an empty line follows the last one,
and an empty line tells the machine nothing.
-/

set_option autoImplicit false

namespace PenPlotter

open Files

namespace Replay

/-! ## 1. Empty lines at the end -/

namespace Machine

theorem runLine_nil (setup : Setup) (m : Machine) (place : Place) :
    m.runLine setup place [] = (m, none) := rfl

/-- An empty line after the others is run without any effect, if it is reached at all. -/
theorem runLines_append_empty (setup : Setup) (m : Machine) (index : Nat)
    (lines : List (List Char)) :
    m.runLines setup index (lines ++ [[]]) = m.runLines setup index lines := by
  induction lines generalizing m index with
  | nil => simp only [List.nil_append, runLines, runLine_nil]
  | cons line rest ih =>
    rw [List.cons_append, runLines, runLines]
    split
    · exact ih _ _
    · rfl

end Machine

namespace Replayer

variable {r : Replayer}

-- What a replay gives and leaves depends on the setup and the lines; an empty one at the end is none.
theorem run_append_empty (hne : r.lines ≠ []) :
    ({ r with lines := r.lines ++ [[]] } : Replayer).run.2 = r.run.2 ∧
      ({ r with lines := r.lines ++ [[]] } : Replayer).run.1.machine = r.run.1.machine := by
  unfold run
  rw [if_neg (by simp), if_neg (by simpa using hne), Machine.runLines_append_empty]
  rcases Machine.initial.runLines r.setup 0 r.lines with ⟨machine, _ | fault⟩
  · exact ⟨rfl, rfl⟩
  · exact ⟨rfl, rfl⟩

/-- A program with something in it is replayed alike with a line feed at its end. -/
theorem run_load_append_newline {program : String} (hne : program ≠ "") :
    (r.load (program ++ "\n")).run.2 = (r.load program).run.2 ∧
      (r.load (program ++ "\n")).run.1.machine = (r.load program).run.1.machine := by
  have hload : r.load (program ++ "\n") =
      { r with lines := Text.splitLines (program.toList ++ ['\n']) } := by
    unfold load
    rw [String.toList_append]
    rfl
  have hlines : (r.load program).lines ≠ [] :=
    Text.splitLines_ne_nil fun hnil => hne (String.toList_eq_nil_iff.1 hnil)
  rw [hload]
  rcases Text.splitLines_append_newline program.toList with h | h
  · rw [h]
    exact ⟨rfl, rfl⟩
  · rw [h]
    exact run_append_empty hlines

theorem run_load_withFinalNewline {program : String} (hne : program ≠ "") :
    (r.load (withFinalNewline program)).run.2 = (r.load program).run.2 ∧
      (r.load (withFinalNewline program)).run.1.machine = (r.load program).run.1.machine := by
  unfold withFinalNewline
  split
  · exact ⟨rfl, rfl⟩
  · exact run_load_append_newline hne

/-! ## 2. Programs in files -/

variable {s s' : Store} {text : String} {p : Path}

-- How lines end makes no difference to a program.
theorem load_unifyNewlines (text : String) :
    r.load (String.ofList (Text.unifyNewlines text.toList)) = r.load text := by
  unfold load
  rw [String.toList_ofList, Text.splitLines_unifyNewlines]

theorem readText_of_readBytes (h : s.readBytes p = .ok text.toUTF8.toList) :
    s.readText p = .ok (String.ofList (Text.unifyNewlines text.toList)) := by
  unfold Store.readText
  rw [h, mapError_ok]
  refine bind_eq_ok.2 ⟨text.toUTF8.toList, rfl, ?_⟩
  rw [Text.fromUTF8?_toUTF8]
  rfl

/-- Where nothing but a text can be read, only that text is loaded. -/
theorem eq_load_of_loadFile {r' : Replayer}
    (hread : ∀ content, s.readBytes p = .ok content → content = text.toUTF8.toList)
    (h : r.loadFile s p = .ok r') : r' = r.load text := by
  unfold loadFile at h
  obtain ⟨found, -, h⟩ := bind_eq_ok.1 h
  split at h
  · obtain ⟨content, hcontent, hload⟩ := bind_eq_ok.1 h
    rw [mapError_eq_ok] at hcontent
    obtain ⟨bytes, hbytes, -⟩ := bind_eq_ok.1 hcontent
    rw [mapError_eq_ok] at hbytes
    rw [hread bytes hbytes] at hbytes
    rw [readText_of_readBytes hbytes] at hcontent
    cases hcontent
    exact (Except.ok.inj hload).symm.trans (load_unifyNewlines text)
  · cases h

/-- A file that may be read is loaded if its bytes are those of a text. -/
theorem exists_loadFile {n : Nat} (hfile : s.lookup p = .ok (.file n))
    (hbytes : s.content n = text.toUTF8.toList)
    (hread : ∀ place e, s.refuses .read place e = none) : ∃ r', r.loadFile s p = .ok r' := by
  have hexists : s.exists? p = .ok true := by
    unfold Store.exists?
    rw [hfile]
  obtain ⟨place, hplace, hentry⟩ := Store.lookup_eq_ok.mp hfile
  have hread : s.readBytes p = .ok text.toUTF8.toList := by
    unfold Store.readBytes
    rw [hplace, ok_bind, hentry]
    dsimp only
    rw [Store.permit, Store.allow, hread, ← hbytes]
    rfl
  unfold loadFile
  rw [hexists, readText_of_readBytes hread]
  exact ⟨_, rfl⟩

end Replayer

end Replay

end PenPlotter
