import PenPlotter.Drawing.Extent
import PenPlotter.Proofs.Drawing.Levels

/-!
# Extents of drawings

A drawing has its own least and greatest coordinates as its extent, on each axis by itself.
-/

set_option autoImplicit false

namespace PenPlotter

/-! ## 1. Coordinates on an axis -/

def coordinatesOn (start finish : Segment → Number) (segments : List Segment) : List Number :=
  segments.flatMap fun s => [start s, finish s]

def coordinatesX (segments : List Segment) : List Number := coordinatesOn Segment.x1 Segment.x2 segments

def coordinatesY (segments : List Segment) : List Number := coordinatesOn Segment.y1 Segment.y2 segments

section Coordinates

variable {start finish : Segment → Number} {segments : List Segment} {n : Number}

theorem mem_coordinatesOn : n ∈ coordinatesOn start finish segments ↔
    ∃ s ∈ segments, n = start s ∨ n = finish s := by
  simp [coordinatesOn]

theorem coordinatesOn_ne_nil (hne : segments ≠ []) : coordinatesOn start finish segments ≠ [] := by
  simpa [coordinatesOn] using List.exists_mem_of_ne_nil _ hne

theorem coordinatesOn_map {f : Segment → Segment} {g : Number → Number}
    (hends : ∀ s, start (f s) = g (start s) ∧ finish (f s) = g (finish s)) :
    coordinatesOn start finish (segments.map f) = (coordinatesOn start finish segments).map g := by
  simp [coordinatesOn, List.flatMap_map, List.map_flatMap, hends]

theorem forall_coordinates_iff {P : Number → Prop} :
    (∀ s ∈ segments, ∀ n ∈ s.coordinates, P n) ↔
      (∀ n ∈ coordinatesX segments, P n) ∧ ∀ n ∈ coordinatesY segments, P n := by
  constructor
  · intro h
    constructor
    all_goals
      intro n hn
      obtain ⟨s, hs, rfl | rfl⟩ := mem_coordinatesOn.1 hn
      · exact h s hs _ (by simp [Segment.coordinates])
      · exact h s hs _ (by simp [Segment.coordinates])
  · intro h s hs n hn
    simp only [Segment.coordinates, List.mem_cons, List.not_mem_nil, or_false] at hn
    rcases hn with rfl | rfl | rfl | rfl
    · exact h.1 _ (mem_coordinatesOn.2 ⟨s, hs, .inl rfl⟩)
    · exact h.2 _ (mem_coordinatesOn.2 ⟨s, hs, .inl rfl⟩)
    · exact h.1 _ (mem_coordinatesOn.2 ⟨s, hs, .inr rfl⟩)
    · exact h.2 _ (mem_coordinatesOn.2 ⟨s, hs, .inr rfl⟩)

end Coordinates

/-! ## 2. Extents -/

theorem Extent.of?_of_ne_nil {segments : List Segment} (hne : segments ≠ []) :
    of? segments = some (segments.foldl widen nothing) := by
  rw [of?, if_neg (by simpa using hne)]

/-- An extent is the least and the greatest coordinate on each axis. -/
theorem Extent.of?_eq_some {segments : List Segment} {box : Extent}
    (h : of? segments = some box) :
    segments ≠ [] ∧ box = ⟨Number.lowest (coordinatesX segments),
      Number.lowest (coordinatesY segments), Number.highest (coordinatesX segments),
      Number.highest (coordinatesY segments)⟩ := by
  -- Each of the four bounds is widened on its own.
  have hfold (e : Extent) : segments.foldl widen e =
      ⟨Number.foremost (· < ·) e.minX (coordinatesX segments),
        Number.foremost (· < ·) e.minY (coordinatesY segments),
        Number.foremost (· > ·) e.maxX (coordinatesX segments),
        Number.foremost (· > ·) e.maxY (coordinatesY segments)⟩ := by
    clear h
    induction segments generalizing e with
    | nil => rfl
    | cons s rest ih =>
      rw [List.foldl_cons, ih]
      rfl
  rw [of?] at h
  split at h
  · cases h
  · rename_i hne
    rw [hfold] at h
    exact ⟨by simpa using hne, (Option.some.inj h).symm⟩

end PenPlotter
