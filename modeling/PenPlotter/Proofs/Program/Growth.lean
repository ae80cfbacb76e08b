import PenPlotter.Proofs.Program.Tracing

/-!
# Growing drawings

A new segment can move all others, since a drawing is placed as a whole.  One that goes neither to the
left of the drawing nor above it moves nothing: what is drawn so far is drawn by the same lines.
-/

set_option autoImplicit false

namespace PenPlotter

attribute [local irreducible] Tool.isAwayFrom

/-- Whether a segment goes neither to the left of a box nor above it. -/
structure Segment.KeepsCorner (s : Segment) (box : Extent) : Prop where
  left : ¬s.x1 < box.minX ∧ ¬s.x2 < box.minX
  above : ¬box.maxY < s.y1 ∧ ¬box.maxY < s.y2

section Growth

variable {settings : Settings} {segments : List Segment} {s : Segment} {box : Extent}

theorem Extent.of?_append_singleton (h : of? segments = some box) :
    of? (segments ++ [s]) = some (box.widen s) := by
  have hne : segments ≠ [] := by
    rintro rfl
    cases h
  rw [of?_of_ne_nil hne] at h
  rw [of?_of_ne_nil (by simp), List.foldl_append, Option.some.inj h]
  rfl

-- Of two equal numbers, such as an integer and a double or the zeros of both signs, the one that was
-- there first is kept, so the corner is not only equal to what it was but the same.
theorem Placement.grounding_widen (h : s.KeepsCorner box) (scale : Double) :
    grounding (box.widen s) scale = grounding box scale := by
  have hleft : (box.minX.least s.x1).least s.x2 = box.minX := by
    have hfirst : box.minX.least s.x1 = box.minX := if_neg h.left.1
    rw [hfirst]
    exact if_neg h.left.2
  have habove : (box.maxY.greatest s.y1).greatest s.y2 = box.maxY := by
    have hfirst : box.maxY.greatest s.y1 = box.maxY := if_neg h.above.1
    rw [hfirst]
    exact if_neg h.above.2
  rw [grounding, grounding, Extent.widen, hleft, habove]

theorem Placement.Places.exists_front {p : Placement} {strokes : List Stroke}
    (h : p.Places (segments ++ [s]) strokes) :
    ∃ front k, p.Places segments front ∧ strokes = front ++ [k] := by
  induction segments generalizing strokes with
  | nil =>
    obtain ⟨k, rest, -, hrest, rfl⟩ := List.forall₂_cons_left_iff.1 h
    cases hrest
    exact ⟨[], k, .nil, rfl⟩
  | cons first segments ih =>
    obtain ⟨k, rest, hk, hrest, rfl⟩ := List.forall₂_cons_left_iff.1 h
    obtain ⟨front, last, hfront, rfl⟩ := ih hrest
    exact ⟨k :: front, last, .cons hk hfront, rfl⟩

/-- What the tool has written for strokes does not depend on what comes after them. -/
theorem exists_front_strokesProgram (settings : Settings) (strokes : List Stroke) (k : Stroke) :
    ∃ front, strokesProgram settings strokes = front ++ Line.penUp settings.penUp :: closing settings ∧
      front <+: strokesProgram settings (strokes ++ [k]) := by
  refine ⟨header settings ++ Tool.atRest.traceStrokes settings strokes, ?_, ?_⟩
  · simp [strokesProgram]
  · simp [strokesProgram, Tool.traceStrokes_append_singleton]

end Growth

namespace Draft

/-- **The program of a drawing only grows at its end** as long as new segments go neither to the left of
the drawing nor above it: it stays as it is, but for the last four lines. -/
theorem rebuild_record {d d₂ : Draft} {s : Segment} {box : Extent} {text : String}
    (hbox : Extent.of? d.history.segments = some box) (hcorner : s.KeepsCorner box)
    (hrebuild : (d.record s).rebuild = (d₂, .ok text)) :
    ∃ d₁ before front, d.rebuild = (d₁, .ok before) ∧
      d₁.lines = front ++
        [Line.penUp d.settings.penUp, .blank, .returnToOrigin, .finish d.settings.finish] ∧
      front <+: d₂.lines := by
  obtain ⟨hcompile, -⟩ := rebuild_eq_ok hrebuild
  obtain ⟨strokes, hplaces, -, hlines⟩ :=
    exists_strokes_of_compile hcompile (Extent.of?_append_singleton hbox)
  rw [Placement.grounding_widen hcorner] at hplaces
  obtain ⟨earlier, k, hearlier, rfl⟩ := hplaces.exists_front
  have hfeed : d.settings.isWritable = true := isWritable_of_compile hcompile (by simp [record])
  obtain ⟨t, hbefore⟩ := compile_of_places hfeed hbox hearlier
  obtain ⟨front, hfront, hprefix⟩ := exists_front_strokesProgram d.settings earlier k
  have hfirst : d.rebuild = (d.rebuild.1, .ok d.rebuild.1.text) :=
    rebuild_of_isOk (congrArg (·.2.isOk) hbefore)
  have hsame : d.rebuild.1.lines = strokesProgram d.settings earlier :=
    Except.ok.inj (congrArg Prod.snd ((rebuild_eq_ok hfirst).1.symm.trans hbefore))
  refine ⟨_, _, front, hfirst, hsame.trans hfront, ?_⟩
  rw [hlines]
  exact hprefix

def cornered : Draft := (new .standard).record ⟨.double (.ofRank true 0), 3, 4, .double 3⟩

-- A zero of the other sign and an equal integer are no farther out.
theorem rebuild_record_cornered :
    ∃ box front, Extent.of? cornered.history.segments = some box ∧
      Segment.KeepsCorner ⟨0, .double 3, 2, 1⟩ box ∧
      cornered.rebuild.1.lines = front ++
        [Line.penUp cornered.settings.penUp, .blank, .returnToOrigin,
          .finish cornered.settings.finish] ∧
      front <+: (cornered.record ⟨0, .double 3, 2, 1⟩).rebuild.1.lines := by
  have hbox := Extent.of?_of_ne_nil (show cornered.history.segments ≠ [] by decide)
  have hcorner : Segment.KeepsCorner ⟨0, .double 3, 2, 1⟩
      (cornered.history.segments.foldl Extent.widen .nothing) :=
    ⟨by decide +kernel, by decide +kernel⟩
  have hrebuild := rebuild_of_isOk (d := cornered.record ⟨0, .double 3, 2, 1⟩) (by decide +kernel)
  obtain ⟨d₁, before, front, hfirst, hlines, hprefix⟩ := rebuild_record hbox hcorner hrebuild
  refine ⟨_, front, hbox, hcorner, ?_, hprefix⟩
  rw [hfirst]
  exact hlines

end Draft

end PenPlotter
