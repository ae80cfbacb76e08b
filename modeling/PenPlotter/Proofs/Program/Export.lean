import PenPlotter.Program.Export
import PenPlotter.Proofs.Files.Kept
import PenPlotter.Proofs.Program.Tracing

/-!
# Exported programs

A program that was made has something in it, and no line feed at its end.  When it is exported, its
path leads to it with a line feed; when that fails, the path leads to what it led to before.
-/

set_option autoImplicit false

namespace PenPlotter

open Files

/-! ## 1. The end of a program -/

theorem exists_text_of_rebuild {d : Draft} {text : String} (h : d.rebuild.2 = .ok text) :
    ∃ s, text = s ++ " ; End program" := by
  obtain ⟨hcompile, rfl⟩ := Draft.rebuild_eq_ok (Prod.ext rfl h)
  obtain ⟨front, hlines, -⟩ := exists_front_of_compile hcompile
  have hclosing : closing d.settings =
      [Line.blank, .returnToOrigin] ++ [Line.finish d.settings.finish] := rfl
  rw [hlines, hclosing, ← List.append_assoc, programText, List.map_append,
    String.intercalate_append_of_ne_nil (by simp) (by simp), List.map_singleton,
    String.intercalate_singleton, Line.text, ← String.append_assoc]
  exact ⟨_, rfl⟩

theorem ne_empty_of_rebuild {d : Draft} {text : String} (h : d.rebuild.2 = .ok text) :
    text ≠ "" := by
  obtain ⟨s, rfl⟩ := exists_text_of_rebuild h
  simp

theorem not_blank_of_rebuild {d : Draft} {text : String} (h : d.rebuild.2 = .ok text) :
    text.toList.all Text.isBlank = false := by
  obtain ⟨s, rfl⟩ := exists_text_of_rebuild h
  have hend : " ; End program".toList.all Text.isBlank = false := by decide +kernel
  rw [String.toList_append, List.all_append, hend, Bool.and_false]

-- A program gets a line feed when it is written to a file, since it has none at its end.
theorem withFinalNewline_of_rebuild {d : Draft} {text : String} (h : d.rebuild.2 = .ok text) :
    withFinalNewline text = text ++ "\n" := by
  obtain ⟨s, rfl⟩ := exists_text_of_rebuild h
  have hlast : (s ++ " ; End program").toList.getLast? = some 'm' := by
    rw [String.toList_append, List.getLast?_append]
    rfl
  rw [withFinalNewline, hlast, if_neg (by decide)]

/-! ## 2. Files -/

variable {s s' : Store} {text : String} {p : Path}

theorem writeText_utf8 (s : Store) (p : Path) (text : String) :
    writeText s p text "utf-8" =
      ((writeAtOnce s p text.toUTF8.toList besideSuffix).1,
        (writeAtOnce s p text.toUTF8.toList besideSuffix).2.mapError .write) := by
  have hnamed : Text.Encoding.named? "utf-8" = some (.utf8 false) := by decide +kernel
  have hbytes : (Text.Encoding.utf8 false).encode? text = some text.toUTF8.toList := rfl
  simp only [writeText, hnamed, hbytes]

-- A text with something in it is exported, or writing it fails.
theorem exportProgram_eq (h : text.toList.all Text.isBlank = false) :
    exportProgram s text p =
      ((writeAtOnce s p (withFinalNewline text).toUTF8.toList besideSuffix).1,
        (writeAtOnce s p (withFinalNewline text).toUTF8.toList besideSuffix).2.mapError
          (.write ∘ .write)) := by
  rw [exportProgram, if_neg (by rw [h]; nofun), writeText_utf8]
  cases (writeAtOnce s p (withFinalNewline text).toUTF8.toList besideSuffix).2 <;> rfl

theorem exportProgram_eq_ok (h : exportProgram s text p = (s', .ok ())) :
    writeAtOnce s p (withFinalNewline text).toUTF8.toList besideSuffix = (s', .ok ()) := by
  cases hblank : text.toList.all Text.isBlank with
  | true =>
    rw [exportProgram, if_pos hblank] at h
    cases h
  | false =>
    rw [exportProgram_eq hblank] at h
    obtain ⟨hs', hok⟩ := Prod.mk.inj h
    exact Prod.ext hs' (mapError_eq_ok.mp hok)

theorem holds_of_exportProgram (h : exportProgram s text p = (s', .ok ())) :
    Holds p (withFinalNewline text).toUTF8.toList (ensureDirectory s p.parent).1 s' :=
  holds_of_writeAtOnce (exportProgram_eq_ok h)

theorem keeps_of_exportProgram {e : ExportError} (hp : p.Plain) (hno : ¬s.Exposed p)
    (h : exportProgram s text p = (s', .error e)) : Keeps s s' p := by
  cases hblank : text.toList.all Text.isBlank with
  | true =>
    rw [exportProgram, if_pos hblank] at h
    obtain ⟨rfl, -⟩ := Prod.mk.inj h
    exact .refl s p
  | false =>
    rw [exportProgram_eq hblank] at h
    obtain ⟨hs', herror⟩ := Prod.mk.inj h
    obtain ⟨e', herror, -⟩ := mapError_eq_error.mp herror
    exact keeps_of_writeAtOnce hp hno (Prod.ext hs' herror)

end PenPlotter
