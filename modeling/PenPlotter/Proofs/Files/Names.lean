import Mathlib.Data.List.Infix
import PenPlotter.Files.Write

/-!
# Names in paths

Which names a path has when it was read from a text, and what stands beside it.
-/

set_option autoImplicit false

namespace PenPlotter.Files.Path

variable {p : Path}

/-! ## 1. Paths that were read -/

def Plain (p : Path) : Prop := ∀ name ∈ p.parts, name ≠ "" ∧ name ≠ "." ∧ '/' ∉ name.toList

theorem not_mem_of_mem_splitOn {c : Char} {s piece : List Char} (h : piece ∈ s.splitOn c) :
    c ∉ piece := by
  induction s generalizing piece with
  | nil =>
    obtain rfl : piece = [] := by simpa using h
    simp
  | cons d s ih =>
    rw [List.splitOn_cons_eq_if_modifyHead] at h
    split at h
    · obtain rfl | h := List.mem_cons.mp h
      · simp
      · exact ih h
    next hd =>
    obtain ⟨first, rest, hsplit⟩ := List.exists_cons_of_ne_nil (List.splitOn_ne_nil c s)
    rw [hsplit] at ih h
    obtain rfl | h := List.mem_cons.mp h
    · have hne : c ≠ d := by
        rintro rfl
        simp at hd
      simp [hne, ih]
    · exact ih (List.mem_cons_of_mem _ h)

theorem plain_ofText (s : String) : (ofText s).Plain := by
  intro name hname
  simp only [ofText, List.mem_filter, List.mem_map] at hname
  obtain ⟨⟨piece, hpiece, rfl⟩, hsolid⟩ := hname
  rw [Bool.and_eq_true, decide_eq_true_eq, decide_eq_true_eq] at hsolid
  refine ⟨hsolid.1, hsolid.2, ?_⟩
  rw [String.toList_ofList]
  exact not_mem_of_mem_splitOn hpiece

theorem parts_eq_concat (h : p.parts ≠ []) : p.parts = p.parts.dropLast ++ [p.name] := by
  rw [name, List.getLast?_eq_some_getLast h, Option.getD_some, List.dropLast_concat_getLast h]

theorem parts_ne_nil (h : p.name ≠ "") : p.parts ≠ [] := by
  intro hnil
  simp [name, hnil] at h

theorem name_ne_of_endsInName (h : p.endsInName = true) :
    p.name ≠ "" ∧ p.name ≠ "." ∧ p.name ≠ ".." := by
  simpa [endsInName] using h

theorem Plain.not_mem_name (hp : p.Plain) : '/' ∉ p.name.toList := by
  by_cases hname : p.name = ""
  · simp [hname]
  · refine (hp p.name ?_).2.2
    rw [parts_eq_concat (parts_ne_nil hname)]
    simp

/-! ## 2. What stands beside a file -/

theorem suffixOf_isSuffix (name : List Char) : suffixOf name <:+ name := by
  rw [suffixOf]
  split
  · exact List.nil_suffix
  next h =>
  simp only [List.isEmpty_iff, Bool.or_eq_true, decide_eq_true_eq, not_or] at h
  obtain ⟨-, hlong⟩ := h
  generalize htail : name.reverse.takeWhile (· ≠ '.') = tail at hlong ⊢
  have hname : name.reverse.takeWhile (· ≠ '.') ++ name.reverse.dropWhile (· ≠ '.')
      = name.reverse := List.takeWhile_append_dropWhile
  rw [htail] at hname
  -- In front of what has no dot there is one, since the name is longer.
  cases hfront : name.reverse.dropWhile (· ≠ '.') with
  | nil =>
    rw [hfront, List.append_nil] at hname
    simp [hname] at hlong
  | cons c front =>
    have hc := List.head_dropWhile_not (p := (· ≠ '.')) (l := name.reverse) (by rw [hfront]; nofun)
    simp only [hfront, List.head_cons, decide_eq_false_iff_not, not_not] at hc
    rw [hfront, hc] at hname
    refine ⟨front.reverse, ?_⟩
    rw [← List.reverse_inj, ← hname]
    simp

theorem stem_append_suffixOf (name : List Char) :
    name.take (name.length - (suffixOf name).length) ++ suffixOf name = name := by
  obtain ⟨stem, hstem⟩ := suffixOf_isSuffix name
  generalize suffixOf name = rest at hstem ⊢
  subst hstem
  simp

def beside (p : Path) : Path := { p with parts := p.parts.dropLast ++ [p.name ++ besideSuffix] }

@[simp] theorem name_beside (p : Path) : p.beside.name = p.name ++ besideSuffix := by
  simp [beside, name]

@[simp] theorem dropLast_parts_beside (p : Path) : p.beside.parts.dropLast = p.parts.dropLast := by
  simp [beside]

theorem parent_beside (p : Path) : p.beside.parent = p.parent := by
  simp [parent, beside]

theorem length_name_beside (p : Path) : (p.name ++ besideSuffix).length = p.name.length + 4 :=
  String.length_append _ _

theorem name_ne_beside (p : Path) : p.name ≠ p.name ++ besideSuffix := by
  intro hsame
  have hlength := length_name_beside p
  rw [← hsame] at hlength
  omega

theorem endsInName_beside (p : Path) : p.beside.endsInName = true := by
  have hlength := length_name_beside p
  have hno : ∀ name : String, name.length < 4 → p.name ++ besideSuffix ≠ name := by
    rintro name hshort rfl
    omega
  simp [endsInName, hno "" (by decide), hno "." (by decide), hno ".." (by decide)]

theorem eq_of_withSuffix {q : Path} (h : p.withSuffix (p.suffix ++ besideSuffix) = .ok q) :
    p.name ≠ "" ∧ q = p.beside := by
  rw [withSuffix] at h
  dsimp only at h
  split at h
  · cases h
  split at h
  · cases h
  next hname =>
  refine ⟨by simpa using hname, ?_⟩
  obtain rfl := Except.ok.inj h
  have htext : p.name.toList.take (p.name.toList.length - (suffixOf p.name.toList).length)
      ++ (p.suffix ++ besideSuffix).toList = (p.name ++ besideSuffix).toList := by
    rw [String.toList_append, String.toList_append, suffix, String.toList_ofList,
      ← List.append_assoc, stem_append_suffixOf]
  rw [htext, String.ofList_toList]
  rfl

-- Only a path without a name has nothing beside it.
theorem withSuffix_eq_error (hp : p.Plain) :
    (∃ e, p.withSuffix (p.suffix ++ besideSuffix) = .error e) ↔ p.name = "" := by
  have hbeside : besideSuffix.toList = ['.', 't', 'm', 'p'] := rfl
  have hslash : (p.suffix ++ besideSuffix).toList.contains '/' = false := by
    have hname : '/' ∉ suffixOf p.name.toList := fun h =>
      hp.not_mem_name ((suffixOf_isSuffix _).mem h)
    simp [suffix, hbeside, hname]
  have hdot : (p.suffix ++ besideSuffix).toList.head? = some '.' := by
    rw [String.toList_append, suffix, String.toList_ofList, hbeside, suffixOf]
    split <;> rfl
  have hlong : (p.suffix ++ besideSuffix).toList ≠ ['.'] := by
    intro h
    have := congrArg List.length h
    simp [hbeside] at this
  rw [withSuffix]
  simp only [hslash, hdot, hlong]
  by_cases hname : p.name = "" <;> simp [hname]

end PenPlotter.Files.Path
