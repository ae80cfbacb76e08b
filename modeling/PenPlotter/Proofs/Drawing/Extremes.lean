import PenPlotter.Drawing.Placement
import PenPlotter.Proofs.Drawing.Extent

/-!
# Extremes in any order

The extent of a drawing is the true one: on each axis the minimum and the maximum of the coordinates
that are numbers, wherever the others stand among them.  So it depends neither on the order of the
segments nor on the direction in which they are drawn, and nor does the placement made from it.
Equal coordinates may differ in kind, so what stays the same are the values.
-/

set_option autoImplicit false

namespace PenPlotter

/-! ## 1. Drawings -/

def Segment.turned (s : Segment) : Segment := ⟨s.x2, s.y2, s.x1, s.y1⟩

/-- Whether a drawing has the segments of another in some order, each of them drawn either way. -/
def Redrawn (segments others : List Segment) : Prop :=
  ∃ middle, List.Forall₂ (fun s t => t = s ∨ t = s.turned) segments middle ∧ middle.Perm others

section

variable {segments others : List Segment}

-- Whatever of a segment does not depend on its direction is the same up to order.
theorem Redrawn.perm_flatMap (h : Redrawn segments others) {f : Segment → List Number}
    (hf : ∀ s, (f s).Perm (f s.turned)) : (segments.flatMap f).Perm (others.flatMap f) := by
  obtain ⟨middle, hturned, hperm⟩ := h
  refine .trans ?_ (hperm.flatMap_right f)
  clear hperm
  induction hturned with
  | nil => exact .nil
  | @cons s t rest more hst hrest ih =>
    rw [List.flatMap_cons, List.flatMap_cons]
    rcases hst with rfl | rfl
    · exact (List.Perm.refl _).append ih
    · exact (hf s).append ih

theorem Redrawn.ne_nil (h : Redrawn segments others) (hne : segments ≠ []) : others ≠ [] := by
  obtain ⟨middle, hturned, hperm⟩ := h
  rw [← List.length_pos_iff, ← hperm.length_eq, ← hturned.length_eq, List.length_pos_iff]
  exact hne

theorem Redrawn.perm_coordinates (h : Redrawn segments others) :
    (coordinatesX segments).Perm (coordinatesX others) ∧
      (coordinatesY segments).Perm (coordinatesY others) :=
  ⟨h.perm_flatMap fun s => .swap s.x2 s.x1 [], h.perm_flatMap fun s => .swap s.y2 s.y1 []⟩

end

/-! ## 2. Boxes and placements -/

def Extent.Same (e e' : Extent) : Prop :=
  e.minX.same e'.minX = true ∧ e.minY.same e'.minY = true ∧ e.maxX.same e'.maxX = true ∧
    e.maxY.same e'.maxY = true

def Placement.Same (p q : Placement) : Prop :=
  p.scale = q.scale ∧ p.xShift.same q.xShift = true ∧ p.yShift.same q.yShift = true

/-- **The box is the true extent, in whatever order it is drawn.**  Its bounds are the minimum and
the maximum of the coordinates that are numbers, infinite on the wrong side where there are none; a
drawing with the same segments in another order and direction has the same bounds, and is placed
alike. -/
theorem Extent.extremes {segments : List Segment} (hne : segments ≠ []) :
    ∃ box, of? segments = some box ∧
      box.minX.level? = some (((coordinatesX segments).filterMap Number.level?).min?.getD ⊤) ∧
      box.minY.level? = some (((coordinatesY segments).filterMap Number.level?).min?.getD ⊤) ∧
      box.maxX.level? = some (((coordinatesX segments).filterMap Number.level?).max?.getD ⊥) ∧
      box.maxY.level? = some (((coordinatesY segments).filterMap Number.level?).max?.getD ⊥) ∧
      ∀ others, Redrawn segments others → ∃ box', of? others = some box' ∧ box.Same box' ∧
        ∀ scale, (Placement.grounding box scale).Same (Placement.grounding box' scale) := by
  have hbox := of?_of_ne_nil hne
  rw [(of?_eq_some hbox).2] at hbox
  refine ⟨_, hbox, Number.level?_lowest, Number.level?_lowest, Number.level?_highest,
    Number.level?_highest, fun others h => ?_⟩
  obtain ⟨hX, hY⟩ := h.perm_coordinates
  have hbox' := of?_of_ne_nil (h.ne_nil hne)
  rw [(of?_eq_some hbox').2] at hbox'
  have hminX := Number.same_lowest hX
  have hmaxY := Number.same_highest hY
  exact ⟨_, hbox', ⟨hminX, Number.same_lowest hY, Number.same_highest hX, hmaxY⟩,
    fun scale => ⟨rfl, hminX, Number.same_neg hmaxY⟩⟩

def Extent.gapped : List Segment :=
  [⟨.double .nan, .double .nan, .int (-5), .double .nan⟩,
    ⟨.double (-5), .double .nan, 8, .double .nan⟩]

theorem Extent.extremes_gapped :
    gapped ≠ [] ∧ of? gapped = some ⟨.int (-5), .double (.inf false), 8, .double (.inf true)⟩ ∧
      Redrawn gapped (gapped.map Segment.turned).reverse ∧
      ∃ box', of? (gapped.map Segment.turned).reverse = some box' ∧
        Same ⟨.int (-5), .double (.inf false), 8, .double (.inf true)⟩ box' := by
  have hne : gapped ≠ [] := List.cons_ne_nil _ _
  have hgapped : of? gapped = some ⟨.int (-5), .double (.inf false), 8, .double (.inf true)⟩ := by
    decide +kernel
  have hredrawn : Redrawn gapped (gapped.map Segment.turned).reverse :=
    ⟨gapped.map Segment.turned, .cons (.inr rfl) (.cons (.inr rfl) .nil), (List.reverse_perm _).symm⟩
  obtain ⟨box, hbox, -, -, -, -, hothers⟩ := extremes hne
  obtain rfl := Option.some.inj (hgapped.symm.trans hbox)
  obtain ⟨box', hbox', hsame, -⟩ := hothers _ hredrawn
  exact ⟨hne, hgapped, hredrawn, box', hbox', hsame⟩

end PenPlotter
