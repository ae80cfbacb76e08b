import PenPlotter.Proofs.Program.Differences
import PenPlotter.Proofs.Program.Rounded

/-!
# Drawings that can be placed

A drawing of doubles has a program exactly if nothing in it is infinite or not a number and its scaled
extent does not overflow.  Every other point lies within the extent, and rounding keeps that order, so
none of them can overflow either.
-/

set_option autoImplicit false

namespace PenPlotter

attribute [local instance (high)] instPowNat

attribute [local irreducible] Double.unitsPerOne

/-! ## 1. Placing a drawing -/

namespace Placement

variable {p : Placement} {scale : Double} {segments : List Segment}

theorem apply_of_scaled {x y X Y : Number} (hx : (x.sub p.xShift >>= (·.mul p.scale)) = .ok X)
    (hy : (y.neg.sub p.yShift >>= (·.mul p.scale)) = .ok Y) : p.apply x y = .ok (X, Y) := by
  obtain ⟨dx, hdx, hX⟩ := bind_eq_ok.1 hx
  obtain ⟨dy, hdy, hY⟩ := bind_eq_ok.1 hy
  simp only [apply, bind_eq_ok]
  exact ⟨dx, hdx, X, hX, dy, hdy, Y, hY, rfl⟩

theorem stroke_of_apply {s : Segment} {x1 y1 x2 y2 : Double}
    (hstart : p.apply s.x1 s.y1 = .ok (.double x1, .double y1))
    (hfinish : p.apply s.x2 s.y2 = .ok (.double x2, .double y2))
    (hfinite : Stroke.IsFinite ⟨x1, y1, x2, y2⟩) : p.stroke s = .ok ⟨x1, y1, x2, y2⟩ := by
  obtain ⟨hx1, hy1, hx2, hy2⟩ := hfinite
  unfold stroke
  rw [hstart, hfinish]
  exact if_pos (by simp only [hx1, hy1, hx2, hy2, Bool.and_self])

/-- A drawing is placed if every coordinate is, on its own axis. -/
theorem exists_places (hscale : p.scale = .double scale)
    (hX : ∀ n ∈ coordinatesX segments, n.FiniteSpan p.xShift scale)
    (hY : ∀ n ∈ coordinatesY segments, n.neg.FiniteSpan p.yShift scale) :
    ∃ strokes, p.Places segments strokes := by
  unfold Number.FiniteSpan at hX hY
  rw [← hscale] at hX hY
  have hpoint {x y : Number} (hx : x ∈ coordinatesX segments) (hy : y ∈ coordinatesY segments) :
      ∃ X Y, p.apply x y = .ok (.double X, .double Y) ∧ X.isFinite = true ∧
        Y.isFinite = true := by
    obtain ⟨X, hfX, hX⟩ := hX x hx
    obtain ⟨Y, hfY, hY⟩ := hY y hy
    exact ⟨X, Y, apply_of_scaled hX hY, hfX, hfY⟩
  have hstroke : ∀ s ∈ segments, ∃ k, p.stroke s = .ok k := by
    intro s hs
    obtain ⟨x1, y1, hstart, hx1, hy1⟩ := hpoint (mem_coordinatesOn.2 ⟨s, hs, .inl rfl⟩)
      (mem_coordinatesOn.2 ⟨s, hs, .inl rfl⟩)
    obtain ⟨x2, y2, hfinish, hx2, hy2⟩ := hpoint (mem_coordinatesOn.2 ⟨s, hs, .inr rfl⟩)
      (mem_coordinatesOn.2 ⟨s, hs, .inr rfl⟩)
    exact ⟨_, stroke_of_apply hstart hfinish ⟨hx1, hy1, hx2, hy2⟩⟩
  clear hX hY hpoint
  induction segments with
  | nil => exact ⟨[], .nil⟩
  | cons s rest ih =>
    obtain ⟨⟨k, hk⟩, hrest⟩ := List.forall_mem_cons.1 hstroke
    obtain ⟨strokes, hplaces⟩ := ih hrest
    exact ⟨k :: strokes, .cons hk hplaces⟩

end Placement

/-! ## 2. Compiling a drawing of doubles -/

section Drawings

variable {settings : Settings} {segments : List Segment} {box : Extent}

theorem Number.isFinite_of_isPlaced {n : Number} (h : n.IsPlaced) : n.isFinite = true := by
  cases n with
  | int i => rfl
  | double x => exact isPlaced_double.1 h

-- Whatever its numbers are, a drawing that is compiled has none that is not finite.
theorem isFinite_of_compile {t : Tool} {lines : List Line}
    (h : compile settings segments = (t, .ok lines)) :
    ∀ s ∈ segments, ∀ n ∈ s.coordinates, n.isFinite = true := by
  by_cases hne : segments = []
  · rw [hne]
    exact List.forall_mem_nil _
  obtain ⟨box, strokes, -, hplaces, -, -⟩ := compile_eq_ok h hne
  obtain ⟨q, hq⟩ := settings.exists_scale
  rw [hq] at hplaces
  obtain ⟨hX, hY⟩ := hplaces.finiteSpan rfl
  rw [forall_coordinates_iff]
  constructor
  · intro n hn
    obtain ⟨X, hfinite, hscaled⟩ := hX n hn
    exact Number.isFinite_of_isPlaced (Number.isPlaced_of_scaled hscaled hfinite)
  · intro n hn
    obtain ⟨Y, hfinite, hscaled⟩ := hY n hn
    have hturned := Number.isPlaced_of_scaled hscaled hfinite
    exact Number.isFinite_of_isPlaced (Number.isPlaced_neg.1 hturned)

theorem ofOneKind_of_rounded (hrounded : ∀ s ∈ segments, s.isRounded = true)
    (hfinite : ∀ s ∈ segments, ∀ n ∈ s.coordinates, n.isFinite = true) : OfOneKind segments := by
  right
  intro s hs n hn
  obtain ⟨x, rfl⟩ := Number.exists_double (List.all_eq_true.1 (hrounded s hs) n hn)
  exact ⟨x, rfl, hfinite s hs _ hn⟩

theorem isOk_compile_iff_places (hbox : Extent.of? segments = some box) :
    (compile settings segments).2.isOk = true ↔ settings.isWritable = true ∧
      ∃ strokes, (Placement.grounding box settings.scale).Places segments strokes := by
  rw [isOk_iff]
  constructor
  · rintro ⟨lines, hlines⟩
    have hcompile : compile settings segments = (_, .ok lines) := Prod.ext rfl hlines
    obtain ⟨strokes, hplaces, -, -⟩ := exists_strokes_of_compile hcompile hbox
    exact ⟨isWritable_of_compile hcompile (Extent.of?_eq_some hbox).1, strokes, hplaces⟩
  · rintro ⟨hfeed, strokes, hplaces⟩
    obtain ⟨t, hcompile⟩ := compile_of_places hfeed hbox hplaces
    rw [hcompile]
    exact ⟨_, rfl⟩

-- Among numbers of one kind the bounds decide for all others.
theorem exists_places_iff (hbox : Extent.of? segments = some box) (hkind : OfOneKind segments) :
    (∃ strokes, (Placement.grounding box settings.scale).Places segments strokes) ↔
      box.maxX.FiniteSpan box.minX settings.scale ∧
        box.maxY.FiniteSpan box.minY settings.scale := by
  obtain ⟨hne, rfl⟩ := Extent.of?_eq_some hbox
  obtain ⟨q, hq⟩ := settings.exists_scale
  have hleft : LiesFrom id _ (coordinatesX segments) :=
    liesFrom_lowest (coordinatesOn_ne_nil hne) hkind.alike.1
  have htop : LiesFrom Number.neg _ (coordinatesY segments) :=
    liesFrom_highest (coordinatesOn_ne_nil hne) hkind.alike.2
  rw [hq, ← hleft.finiteSpan_iff, ← htop.finiteSpan_iff]
  constructor
  · rintro ⟨strokes, hplaces⟩
    exact hplaces.finiteSpan rfl
  · rintro ⟨hX, hY⟩
    exact Placement.exists_places rfl hX hY

theorem isOk_compile_iff (hbox : Extent.of? segments = some box)
    (hrounded : ∀ s ∈ segments, s.isRounded = true) :
    (compile settings segments).2.isOk = true ↔ settings.isWritable = true ∧
      (∀ s ∈ segments, ∀ n ∈ s.coordinates, n.isFinite = true) ∧
        box.maxX.FiniteSpan box.minX settings.scale ∧
        box.maxY.FiniteSpan box.minY settings.scale := by
  rw [isOk_compile_iff_places hbox, and_congr_right_iff]
  intro hfeed
  constructor
  · rintro ⟨strokes, hplaces⟩
    obtain ⟨t, hcompile⟩ := compile_of_places hfeed hbox hplaces
    have hfinite := isFinite_of_compile hcompile
    have hkind := ofOneKind_of_rounded hrounded hfinite
    exact ⟨hfinite, (exists_places_iff hbox hkind).1 ⟨strokes, hplaces⟩⟩
  · rintro ⟨hfinite, hspans⟩
    exact (exists_places_iff hbox (ofOneKind_of_rounded hrounded hfinite)).2 hspans

end Drawings

namespace Draft

/-- **Which drawings of doubles have a program.**  Those whose coordinates are all finite, and whose
width and height, scaled, are finite too, if the feed has few enough digits to be written.  For any
other there is an error that names one of its segments, but if the feed cannot be written and the first
segment can be placed the error tells of the feed. -/
theorem rebuild_rounded {d : Draft} {box : Extent}
    (hbox : Extent.of? d.history.segments = some box)
    (hrounded : ∀ s ∈ d.history.segments, s.isRounded = true) :
    ((∃ text, d.rebuild.2 = .ok text) ↔ d.settings.isWritable = true ∧
      (∀ s ∈ d.history.segments, ∀ n ∈ s.coordinates, n.isFinite = true) ∧
        box.maxX.FiniteSpan box.minX d.settings.scale ∧
        box.maxY.FiniteSpan box.minY d.settings.scale) ∧
    (d.rebuild.2 = .error .tooManyDigits ↔ d.settings.isWritable = false ∧
      ∃ s ∈ d.history.segments.head?,
        ((Placement.grounding box d.settings.scale).stroke s).isOk = true) ∧
    ∀ e, d.rebuild.2 = .error e →
      (∃ s ∈ d.history.segments, e = .notFinite s) ∨ e = .tooManyDigits := by
  refine ⟨?_, ?_, fun e he => ?_⟩
  · rw [← isOk_compile_iff hbox hrounded, snd_rebuild]
    cases (compile d.settings d.history.segments).2 with
    | ok lines => exact iff_of_true ⟨_, rfl⟩ rfl
    | error e => exact iff_of_false (by rintro ⟨text, ⟨⟩⟩) Bool.false_ne_true
  · rw [rebuild_eq_ofDrawing, rebuild_eq_tooManyDigits_iff d.settings hrounded, hbox]
    simp
  · rw [rebuild_eq_ofDrawing] at he
    exact (rebuild_eq_error d.settings hrounded he).imp_right And.left

def wide : Draft :=
  (new .standard).record
    ⟨.double (.ofInt (-(10 ^ 308))), .double 0, .double (.ofInt (10 ^ 308)), .double 0⟩

theorem rebuild_rounded_wide :
    ∃ box, Extent.of? wide.history.segments = some box ∧
      (∀ s ∈ wide.history.segments, s.isRounded = true) ∧
      (∀ s ∈ wide.history.segments, ∀ n ∈ s.coordinates, n.isFinite = true) ∧
      ∃ s ∈ wide.history.segments, wide.rebuild.2 = .error (.notFinite s) := by
  have hbox := Extent.of?_of_ne_nil (show wide.history.segments ≠ [] by decide)
  have hrounded : ∀ s ∈ wide.history.segments, s.isRounded = true := by decide +kernel
  obtain ⟨hplaceable, hfeed, herror⟩ := rebuild_rounded hbox hrounded
  refine ⟨_, hbox, hrounded, by decide +kernel, ?_⟩
  cases hanswer : wide.rebuild.2 with
  | error e =>
    obtain ⟨s, hs, rfl⟩ | rfl := herror e hanswer
    · exact ⟨s, hs, rfl⟩
    · cases (hfeed.1 hanswer).1
  | ok text =>
    obtain ⟨-, -, ⟨span, hfinite, hspan⟩, -⟩ := hplaceable.1 ⟨text, hanswer⟩
    have hoverflow : (wide.history.segments.foldl Extent.widen .nothing).maxX.sub
        (wide.history.segments.foldl Extent.widen .nothing).minX >>=
          (·.mul (.double wide.settings.scale)) = .ok (.double (.inf false)) := by decide +kernel
    rw [hoverflow] at hspan
    cases hspan
    cases hfinite

def hasty : Settings :=
  { Settings.standard with feedRate := 10 ^ 4300, feed_pos := by decide +kernel }

/-- One segment between finite points, but the feed is too long to be written. -/
theorem rebuild_rounded_hasty :
    ((new hasty).record ⟨.double 0, .double 0, .double 1, .double 0⟩).rebuild.2 =
      .error .tooManyDigits := by
  decide +kernel

end Draft

end PenPlotter
