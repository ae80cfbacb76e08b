import Mathlib.Data.List.TakeWhile
import PenPlotter.Text.Blank
import PenPlotter.Program.Line

/-!
# Trimmed text and lines

What trimming leaves alone, and the way back from a program's text to its lines: a text that was
joined from lines without breaks is cut into the same lines again.
-/

set_option autoImplicit false

namespace PenPlotter.Text

/-! ## 1. Trimming -/

theorem dropWhile_eq_self {p : Char → Bool} {s : List Char} (h : ∀ c ∈ s.head?, p c = false) :
    s.dropWhile p = s := by
  cases s with
  | nil => rfl
  | cons c s => rw [List.dropWhile_cons_of_neg (by simp [h c rfl])]

theorem takeWhile_eq_nil {p : Char → Bool} {s : List Char} (h : ∀ c ∈ s.head?, p c = false) :
    s.takeWhile p = [] := by
  cases s with
  | nil => rfl
  | cons c s => rw [List.takeWhile_cons_of_neg (by simp [h c rfl])]

-- A first part that is taken whole, up to where the rest begins.
theorem takeWhile_append_of_all {p : Char → Bool} {s rest : List Char} (hs : ∀ c ∈ s, p c = true)
    (hrest : ∀ c ∈ rest.head?, p c = false) : (s ++ rest).takeWhile p = s := by
  rw [List.takeWhile_append_of_pos hs, takeWhile_eq_nil hrest, List.append_nil]

theorem dropWhile_append_of_all {p : Char → Bool} {s rest : List Char} (hs : ∀ c ∈ s, p c = true)
    (hrest : ∀ c ∈ rest.head?, p c = false) : (s ++ rest).dropWhile p = rest := by
  rw [List.dropWhile_append_of_pos hs, dropWhile_eq_self hrest]

-- A text without blanks at its ends stays as it is.
theorem trimWhere_eq_self {p : Char → Bool} {s : List Char} (hfirst : ∀ c ∈ s.head?, p c = false)
    (hlast : ∀ c ∈ s.getLast?, p c = false) : trimWhere p s = s := by
  rw [trimWhere, dropWhile_eq_self hfirst, dropWhile_eq_self, List.reverse_reverse]
  rwa [List.head?_reverse]

-- A blank at the end is dropped, and no more than it.
theorem trimWhere_append_blank {p : Char → Bool} (s : List Char) {b : Char} (hb : p b = true) :
    trimWhere p (s ++ [b]) = trimWhere p s := by
  rw [trimWhere, trimWhere, List.dropWhile_append]
  split
  · -- All of the text is blank.
    rename_i hs
    rw [List.isEmpty_iff.1 hs]
    simp [hb]
  · simp [hb]

theorem mem_of_mem_trimWhere {p : Char → Bool} {s : List Char} {c : Char}
    (h : c ∈ trimWhere p s) : c ∈ s := by
  rw [trimWhere, List.mem_reverse] at h
  exact (List.dropWhile_sublist p).subset
    (List.mem_reverse.1 ((List.dropWhile_sublist p).subset h))

-- A character that is no blank stays.
theorem mem_trimWhere {p : Char → Bool} {s : List Char} {c : Char} (h : c ∈ s)
    (hc : p c = false) : c ∈ trimWhere p s := by
  have hdrop (t : List Char) (ht : c ∈ t) : c ∈ t.dropWhile p := by
    rw [← List.takeWhile_append_dropWhile (p := p) (l := t)] at ht
    refine (List.mem_append.1 ht).resolve_left fun hm => ?_
    rw [List.mem_takeWhile_imp hm] at hc
    exact absurd hc (by decide)
  rw [trimWhere, List.mem_reverse]
  exact hdrop _ (List.mem_reverse.2 (hdrop s h))

/-! ## 2. Lines -/

/-- Whether a text stays on one line, whatever counts as a break. -/
def Unbroken (s : List Char) : Prop := ∀ c ∈ s, isLineBreak c = false

instance (s : List Char) : Decidable (Unbroken s) :=
  List.decidableBAll (fun c => isLineBreak c = false) s

theorem unbroken_append {s t : List Char} : Unbroken (s ++ t) ↔ Unbroken s ∧ Unbroken t :=
  List.forall_mem_append

theorem Unbroken.append {s t : List Char} (hs : Unbroken s) (ht : Unbroken t) :
    Unbroken (s ++ t) := unbroken_append.2 ⟨hs, ht⟩

theorem unbroken_reverse {s : List Char} : Unbroken s.reverse ↔ Unbroken s := by
  simp [Unbroken]

-- A carriage return may be one break with what follows it, so it is ruled out first.
theorem splitLines_go_cons {c : Char} (hc : isLineBreak c = false) (rest line : List Char) :
    splitLines.go (c :: rest) line = splitLines.go rest (c :: line) := by
  have hreturn : c ≠ '\r' := by rintro rfl; exact absurd hc (by decide)
  rw [splitLines.go.eq_def]
  split <;> simp_all

theorem splitLines_go_unbroken {s : List Char} (hs : Unbroken s) (rest line : List Char) :
    splitLines.go (s ++ rest) line = splitLines.go rest (s.reverse ++ line) := by
  induction s generalizing line with
  | nil => rfl
  | cons c s ih =>
    rw [List.cons_append, splitLines_go_cons (hs c List.mem_cons_self),
      ih fun d hd => hs d (List.mem_cons_of_mem c hd), List.reverse_cons, List.append_assoc]
    rfl

theorem splitLines_append_break {s : List Char} (hs : Unbroken s) (rest : List Char) :
    splitLines (s ++ '\n' :: rest) = s :: splitLines rest := by
  rw [splitLines, splitLines_go_unbroken hs, List.append_nil, splitLines.go, if_pos (by decide),
    List.reverse_reverse, splitLines]
  simp

theorem splitLines_unbroken {s : List Char} (hs : Unbroken s) (hne : s ≠ []) :
    splitLines s = [s] := by
  have h := splitLines_go_unbroken hs [] []
  rw [List.append_nil, List.append_nil] at h
  rw [splitLines, h]
  unfold splitLines.go
  split <;> simp_all

-- No break is left in what a text is cut into.
theorem unbroken_of_mem_go {s line : List Char} (hline : Unbroken line) :
    ∀ t ∈ splitLines.go s line, Unbroken t := by
  fun_induction splitLines.go s line with
  | case1 => simp
  | case2 line hne => simpa [unbroken_reverse] using hline
  | case3 rest line ih =>
    exact List.forall_mem_cons.2 ⟨unbroken_reverse.2 hline, ih (by simp [Unbroken])⟩
  | case4 c rest line hpair hbreak ih =>
    exact List.forall_mem_cons.2 ⟨unbroken_reverse.2 hline, ih (by simp [Unbroken])⟩
  | case5 c rest line hpair hbreak ih =>
    exact ih (List.forall_mem_cons.2 ⟨Bool.not_eq_true _ ▸ hbreak, hline⟩)

theorem unbroken_of_mem_splitLines {s t : List Char} (h : t ∈ splitLines s) : Unbroken t :=
  unbroken_of_mem_go (by simp [Unbroken]) t h

/-- Lines without breaks, the last of them not empty, come back from their joined text. -/
theorem splitLines_intercalate {lines : List (List Char)} (hlines : ∀ s ∈ lines, Unbroken s)
    (hlast : ∀ s ∈ lines.getLast?, s ≠ []) : splitLines (['\n'].intercalate lines) = lines := by
  induction lines with
  | nil => rfl
  | cons s lines ih =>
    have hs := hlines s List.mem_cons_self
    cases lines with
    | nil =>
      -- An empty last line would be lost: no line begins after the last break.
      rw [List.intercalate_singleton]
      exact splitLines_unbroken hs (hlast s rfl)
    | cons t lines =>
      rw [List.intercalate_cons_cons, List.append_assoc, List.singleton_append,
        splitLines_append_break hs, ih (fun u hu => hlines u (List.mem_cons_of_mem s hu))]
      intro u hu
      exact hlast u (by rwa [List.getLast?_cons_cons])

end PenPlotter.Text

namespace PenPlotter

/-- The lines of a program come back from its text if none of them has a break in it. -/
theorem splitLines_programText {lines : List Line}
    (hlines : ∀ line ∈ lines, Text.Unbroken line.text.toList)
    (hlast : ∀ line ∈ lines.getLast?, line.text.toList ≠ []) :
    Text.splitLines (programText lines).toList = lines.map fun line => line.text.toList := by
  rw [programText, String.toList_intercalate, List.map_map]
  apply Text.splitLines_intercalate
  · intro s hs
    obtain ⟨line, hline, rfl⟩ := List.mem_map.1 hs
    exact hlines line hline
  · intro s hs
    rw [List.getLast?_map, Option.mem_def, Option.map_eq_some_iff] at hs
    obtain ⟨line, hline, rfl⟩ := hs
    exact hlast line hline

theorem splitLines_programText_iff {lines : List Line}
    (hlast : ∀ line ∈ lines.getLast?, line.text.toList ≠ []) :
    (Text.splitLines (programText lines).toList = lines.map fun line => line.text.toList) ↔
      ∀ line ∈ lines, Text.Unbroken line.text.toList := by
  refine ⟨fun h line hline => ?_, fun h => splitLines_programText h hlast⟩
  apply Text.unbroken_of_mem_splitLines (s := (programText lines).toList)
  rw [h]
  exact List.mem_map_of_mem hline

end PenPlotter
