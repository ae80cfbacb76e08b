import PenPlotter.Proofs.Double.Rounding
import PenPlotter.Proofs.Drawing.Extent
import PenPlotter.Proofs.Except
import PenPlotter.Proofs.Program.Purity

/-!
# Moving a drawing

A drawing is placed by its own extent, so where it lies makes no difference: a drawing of integer
coordinates that is moved by whole units has the same program, or fails in the same way.
-/

set_option autoImplicit false

namespace PenPlotter

/-! ## 1. Drawings that are placed alike -/

def Trouble.map (f : Segment → Segment) : Trouble → Trouble
  | .notFinite s => .notFinite (f s)
  | .overflow => .overflow
  | .longFeed => .longFeed

def CompileError.Alike : CompileError → CompileError → Prop
  | .notFinite _, .notFinite _ | .overflow, .overflow | .tooManyDigits, .tooManyDigits => True
  | _, _ => False

theorem Trouble.alike_error_iff {s t : Segment} :
    (Trouble.notFinite s).error.Alike (Trouble.notFinite t).error ↔ s.isWritable = t.isWritable := by
  unfold error
  cases hs : s.isWritable <;> cases ht : t.isWritable <;> simp [CompileError.Alike, hs, ht]

section Alike

variable {settings : Settings} {f : Segment → Segment} {p q : Placement} {segments : List Segment}

-- A segment has the stroke of another if both have their ends at the same places.
theorem Placement.stroke_map {s : Segment} (hstart : q.apply (f s).x1 (f s).y1 = p.apply s.x1 s.y1)
    (hfinish : q.apply (f s).x2 (f s).y2 = p.apply s.x2 s.y2) :
    q.stroke (f s) = (p.stroke s).mapError (.map f) := by
  unfold stroke
  simp only [hstart, hfinish]
  split
  · rfl
  · split <;> rfl

-- What is written for a segment depends on its stroke alone.
theorem Tool.traceAll_map {t : Tool}
    (h : ∀ s ∈ segments, q.stroke (f s) = (p.stroke s).mapError (.map f)) :
    t.traceAll settings q (segments.map f) =
      ((t.traceAll settings p segments).1,
        (t.traceAll settings p segments).2.mapError (.map f)) := by
  induction segments generalizing t with
  | nil => rfl
  | cons s rest ih =>
    obtain ⟨hs, hrest⟩ := List.forall_mem_cons.1 h
    rw [List.map_cons, traceAll, traceAll, hs]
    cases p.stroke s with
    | error e => rfl
    | ok k =>
      simp only [mapError_ok, ih hrest]
      split
      · cases (Tool.traceAll settings p (t.trace settings k).2 rest).2 <;> rfl
      · rfl

/-- If segments are placed alike after they are changed, the drawing is compiled alike. -/
theorem compile_map
    (h : ∀ box, Extent.of? segments = some box → ∃ box', Extent.of? (segments.map f) = some box' ∧
      ∀ s ∈ segments, (Placement.grounding box' settings.scale).stroke (f s) =
        ((Placement.grounding box settings.scale).stroke s).mapError (.map f)) :
    compile settings (segments.map f) =
      ((compile settings segments).1, (compile settings segments).2.mapError (.map f)) := by
  unfold compile body
  cases hbox : Extent.of? segments with
  | none =>
    have hnil : segments = [] := by
      by_contra hne
      rw [Extent.of?, if_neg (by simpa using hne)] at hbox
      cases hbox
    subst hnil
    rfl
  | some box =>
    obtain ⟨box', hbox', hstroke⟩ := h box hbox
    simp only [hbox', Tool.traceAll_map hstroke]
    rcases Tool.traceAll settings _ Tool.atRest segments with ⟨t, e | lines⟩ <;> rfl

theorem Placement.apply_congr {x y x' y' : Number}
    (hx : (x'.sub q.xShift >>= (·.mul q.scale)) = (x.sub p.xShift >>= (·.mul p.scale)))
    (hy : (y'.neg.sub q.yShift >>= (·.mul q.scale)) = (y.neg.sub p.yShift >>= (·.mul p.scale))) :
    q.apply x' y' = p.apply x y := by
  have happly (p : Placement) (x y : Number) : p.apply x y =
      (x.sub p.xShift >>= (·.mul p.scale)) >>= fun X =>
        (y.neg.sub p.yShift >>= (·.mul p.scale)) >>= fun Y => pure (X, Y) := by
    simp only [apply, bind_assoc]
  rw [happly, happly, hx, hy]

end Alike

/-! ## 2. Drawings that are changed axis by axis -/

def Segment.mapAxes (f g : Number → Number) (s : Segment) : Segment :=
  ⟨f s.x1, g s.y1, f s.x2, g s.y2⟩

section Axes

variable {f g : Number → Number} {segments : List Segment}

theorem coordinatesX_mapAxes :
    coordinatesX (segments.map (.mapAxes f g)) = (coordinatesX segments).map f :=
  coordinatesOn_map fun _ => ⟨rfl, rfl⟩

theorem coordinatesY_mapAxes :
    coordinatesY (segments.map (.mapAxes f g)) = (coordinatesY segments).map g :=
  coordinatesOn_map fun _ => ⟨rfl, rfl⟩

/-- A change of numbers that is not seen in a placed drawing: their order stays as it is, and so does
every scaled difference of two of them, turned around as `turn` says. -/
structure Number.KeepsDifferences (turn f : Number → Number) (scale : Double)
    (numbers : List Number) : Prop extends Number.KeepsOrder f numbers where
  scaled : ∀ m ∈ numbers, ∀ n ∈ numbers,
    ((turn (f m)).sub (turn (f n)) >>= (·.mul (.double scale))) =
      ((turn m).sub (turn n) >>= (·.mul (.double scale)))

/-- Each point of a drawing keeps its place in the extent if order and scaled differences are kept on
both axes. -/
theorem stroke_mapAxes {scale : Double} (hX : Number.KeepsDifferences id f scale (coordinatesX segments))
    (hY : Number.KeepsDifferences .neg g scale (coordinatesY segments)) {box : Extent}
    (hbox : Extent.of? segments = some box) :
    ∃ box', Extent.of? (segments.map (.mapAxes f g)) = some box' ∧
      ∀ s ∈ segments, (Placement.grounding box' scale).stroke (s.mapAxes f g) =
        ((Placement.grounding box scale).stroke s).mapError (.map (.mapAxes f g)) := by
  obtain ⟨hne, hbounds⟩ := Extent.of?_eq_some hbox
  obtain ⟨box', hbox'⟩ : ∃ box', Extent.of? (segments.map (.mapAxes f g)) = some box' :=
    ⟨_, if_neg (by simpa using hne)⟩
  obtain ⟨-, hbounds'⟩ := Extent.of?_eq_some hbox'
  have hneX : coordinatesX segments ≠ [] := coordinatesOn_ne_nil hne
  have hneY : coordinatesY segments ≠ [] := coordinatesOn_ne_nil hne
  have hleft := (Number.lowest_spec hneX fun n hn => (hX.placed n hn).1).1
  have htop := (Number.highest_spec hneY fun n hn => (hY.placed n hn).1).1
  rw [coordinatesX_mapAxes, coordinatesY_mapAxes, Number.lowest_map hneX hX.toKeepsOrder,
    Number.highest_map hneY hY.toKeepsOrder] at hbounds'
  have happly {x y : Number} (hx : x ∈ coordinatesX segments) (hy : y ∈ coordinatesY segments) :
      (Placement.grounding box' scale).apply (f x) (g y) =
        (Placement.grounding box scale).apply x y := by
    rw [hbounds, hbounds']
    exact Placement.apply_congr (hX.scaled x hx _ hleft) (hY.scaled y hy _ htop)
  refine ⟨box', hbox', fun s hs => Placement.stroke_map ?_ ?_⟩
  · exact happly (mem_coordinatesOn.2 ⟨s, hs, .inl rfl⟩) (mem_coordinatesOn.2 ⟨s, hs, .inl rfl⟩)
  · exact happly (mem_coordinatesOn.2 ⟨s, hs, .inr rfl⟩) (mem_coordinatesOn.2 ⟨s, hs, .inr rfl⟩)

end Axes

/-! ## 3. Drawings of integer coordinates -/

namespace Number

def moved (d : Int) : Number → Number
  | .int n => .int (n + d)
  | .double x => .double (x + .ofInt d)

-- Between integers the distance is exact, so the moves of two of them cancel.
theorem keepsDifferences_moved {numbers : List Number} (h : ∀ n ∈ numbers, ∃ i, n = .int i) (d : Int)
    (scale : Double) :
    KeepsDifferences id (moved d) scale numbers ∧ KeepsDifferences neg (moved d) scale numbers := by
  have horder : KeepsOrder (moved d) numbers := by
    constructor
    · intro n hn
      obtain ⟨i, rfl⟩ := h n hn
      exact ⟨rfl, rfl⟩
    · intro m hm n hn
      obtain ⟨i, rfl⟩ := h m hm
      obtain ⟨j, rfl⟩ := h n hn
      have hone : (0 : Int) < Double.unitsPerOne := Int.natCast_pos.2 Double.unitsPerOne_pos
      show (i + d) * (Double.unitsPerOne : Int) < (j + d) * Double.unitsPerOne ↔
        i * (Double.unitsPerOne : Int) < j * Double.unitsPerOne
      rw [Int.mul_lt_mul_right hone, Int.mul_lt_mul_right hone]
      omega
  refine ⟨⟨horder, ?_⟩, ⟨horder, ?_⟩⟩
  · intro m hm n hn
    obtain ⟨i, rfl⟩ := h m hm
    obtain ⟨j, rfl⟩ := h n hn
    have hdistance : i + d - (j + d) = i - j := by omega
    unfold moved sub combine
    simp only [id, hdistance]
  · intro m hm n hn
    obtain ⟨i, rfl⟩ := h m hm
    obtain ⟨j, rfl⟩ := h n hn
    have hdistance : -(i + d) - -(j + d) = -i - -j := by omega
    unfold moved neg sub combine
    simp only [hdistance]

end Number

namespace Segment

def IsWhole (s : Segment) : Prop := ∃ x1 y1 x2 y2 : Int, s = ⟨.int x1, .int y1, .int x2, .int y2⟩

def moved (dx dy : Int) (s : Segment) : Segment :=
  ⟨s.x1.moved dx, s.y1.moved dy, s.x2.moved dx, s.y2.moved dy⟩

end Segment

section Moved

variable {segments : List Segment} (dx dy : Int)

theorem exists_int_of_isWhole (hwhole : ∀ s ∈ segments, s.IsWhole) :
    (∀ n ∈ coordinatesX segments, ∃ i, n = .int i) ∧
      ∀ n ∈ coordinatesY segments, ∃ i, n = .int i := by
  rw [← forall_coordinates_iff]
  intro s hs n hn
  obtain ⟨x1, y1, x2, y2, rfl⟩ := hwhole s hs
  simp only [Segment.coordinates, List.mem_cons, List.not_mem_nil, or_false] at hn
  rcases hn with rfl | rfl | rfl | rfl
  all_goals exact ⟨_, rfl⟩

/-- The extent of a drawing moves with it, and each point keeps its place in the extent. -/
theorem stroke_moved (scale : Double) (hwhole : ∀ s ∈ segments, s.IsWhole) {box : Extent}
    (hbox : Extent.of? segments = some box) :
    ∃ box', Extent.of? (segments.map (.moved dx dy)) = some box' ∧
      ∀ s ∈ segments, (Placement.grounding box' scale).stroke (s.moved dx dy) =
        ((Placement.grounding box scale).stroke s).mapError (.map (.moved dx dy)) := by
  obtain ⟨hX, hY⟩ := exists_int_of_isWhole hwhole
  exact stroke_mapAxes (Number.keepsDifferences_moved hX dx scale).1
    (Number.keepsDifferences_moved hY dy scale).2 hbox

end Moved

namespace Draft

/-- **A program does not depend on where the drawing lies.**  A drawing of integer coordinates that is
recorded farther on by whole units has the same program, or fails for the same reason at the same
segment.  The errors that tell of it are of one kind, unless it is about a segment that can be written
in one place but has too many digits in the other. -/
theorem rebuild_moved (settings : Settings) {segments : List Segment}
    (hwhole : ∀ s ∈ segments, s.IsWhole) (dx dy : Int) :
    ∃ outcome : Except Trouble String,
      (ofDrawing settings segments).rebuild.2 = outcome.mapError Trouble.error ∧
      (ofDrawing settings (segments.map (.moved dx dy))).rebuild.2 =
        outcome.mapError (fun trouble => (trouble.map (.moved dx dy)).error) ∧
      ∀ trouble, outcome = .error trouble →
        ((trouble.map (.moved dx dy)).error.Alike trouble.error ↔
          ∀ s, trouble = .notFinite s → (s.moved dx dy).isWritable = s.isWritable) := by
  have hcompile := compile_map fun box => stroke_moved dx dy settings.scale hwhole
  refine ⟨(compile settings segments).2.map programText, snd_rebuild_ofDrawing .., ?_, ?_⟩
  · rw [snd_rebuild_ofDrawing, hcompile, map_mapError]
    cases (compile settings segments).2 <;> rfl
  · intro trouble _
    cases trouble with
    | notFinite s =>
      rw [Trouble.map, Trouble.alike_error_iff]
      simp
    | _ => exact iff_of_true trivial fun s h => Trouble.noConfusion h

/-- So far away from the origin that doubles are thousands of units apart. -/
theorem rebuild_moved_far :
    let drawing : List Segment := [⟨2, 3, 10, 3⟩, ⟨10, 3, 10, 8⟩, ⟨4, 4, 6, 6⟩]
    (∀ s ∈ drawing, s.IsWhole) ∧ ∃ text,
      (ofDrawing .standard drawing).rebuild.2 = .ok text ∧
      (ofDrawing .standard
          (drawing.map (.moved 100000000000000000000 (-100000000000000000000)))).rebuild.2 =
        .ok text := by
  intro drawing
  have hwhole : ∀ s ∈ drawing, s.IsWhole := by
    simp only [drawing, List.forall_mem_cons]
    exact ⟨⟨2, 3, 10, 3, rfl⟩, ⟨10, 3, 10, 8, rfl⟩, ⟨4, 4, 6, 6, rfl⟩, by simp⟩
  have hok : (ofDrawing .standard drawing).rebuild.2.isOk = true := by decide +kernel
  obtain ⟨text, htext⟩ := isOk_iff.1 hok
  obtain ⟨outcome, hhere, hthere, -⟩ := rebuild_moved .standard hwhole 100000000000000000000
    (-100000000000000000000)
  obtain rfl : outcome = .ok text := mapError_eq_ok.1 (hhere.symm.trans htext)
  rw [mapError_ok] at hthere
  exact ⟨hwhole, text, htext, hthere⟩

def doubled : Settings :=
  { Settings.standard with
    scalePercent := .ofInt 200
    scale_finite := by decide +kernel
    scale_pos := by decide +kernel }

/-- A drawing that is too wide is named in the error, but not where its coordinates have too many
digits. -/
theorem rebuild_moved_beyond :
    let drawing : List Segment := [⟨0, 0, .int (10 ^ 308), 0⟩]
    (ofDrawing doubled drawing).rebuild.2 = .error (.notFinite ⟨0, 0, .int (10 ^ 308), 0⟩) ∧
      (ofDrawing doubled (drawing.map (.moved (10 ^ 4300) 0))).rebuild.2 =
        .error .tooManyDigits := by
  constructor <;> decide +kernel

end Draft

end PenPlotter
