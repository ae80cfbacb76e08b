import PenPlotter.Drawing.Pattern
import PenPlotter.Proofs.Drawing.Entries
import PenPlotter.Proofs.Drawing.Extent
import PenPlotter.Proofs.Except
import PenPlotter.Proofs.Program.Purity

/-!
# Drawings in doubles

Coordinates are rounded to doubles when a drawing is read, and a turtle only knows doubles.  No
calculation with doubles fails and no double has too many digits, so all that can be wrong with such a
drawing is that a point of it is not finite.
-/

set_option autoImplicit false

namespace PenPlotter

open Files

/-! ## 1. Rounded drawings -/

def Number.isDouble : Number → Bool
  | .int _ => false
  | .double _ => true

theorem Number.exists_double {n : Number} (h : n.isDouble = true) : ∃ x, n = .double x := by
  cases n with
  | int i => cases h
  | double x => exact ⟨x, rfl⟩

def Segment.isRounded (s : Segment) : Bool := s.coordinates.all Number.isDouble

theorem Number.isDouble_asDouble (n : Number) : n.asDouble.isDouble = true := by cases n <;> rfl

theorem Segment.isRounded_asDoubles (s : Segment) : s.asDoubles.isRounded = true := by
  simp [isRounded, asDoubles, mapAxes, coordinates, Number.isDouble_asDouble]

theorem isRounded_of_readDrawing {files : Store} {p : Runtime} {path : Path}
    {segments : List Segment} (h : readDrawing files p path = .ok segments) :
    ∀ s ∈ segments, s.isRounded = true := by
  rw [readDrawing] at h
  obtain ⟨v, -, h⟩ := bind_eq_ok.mp h
  obtain ⟨entries, -, h⟩ := bind_eq_ok.mp h
  obtain ⟨recorded, -, -, rfl⟩ := segmentsOf_eq_ok.mp h
  exact List.forall_mem_map.mpr fun s _ => s.isRounded_asDoubles

-- The patterns that come with the library can be walked.
theorem Pattern.exists_segments : ∀ name ∈ names, ∃ pattern segments,
    named? name = some pattern ∧ pattern.segments = .ok segments ∧
      ∀ s ∈ segments, s.isRounded = true := by
  have hall : ∀ name ∈ names, ((named? name).bind fun pattern =>
      pattern.segments.toOption.map (·.all Segment.isRounded)) = some true := by decide +kernel
  intro name hname
  obtain ⟨pattern, hpattern, hsegments⟩ := Option.bind_eq_some_iff.mp (hall name hname)
  obtain ⟨segments, hsegments, hrounded⟩ := Option.map_eq_some_iff.mp hsegments
  exact ⟨pattern, segments, hpattern, eq_ok_of_toOption hsegments, List.all_eq_true.mp hrounded⟩

/-! ## 2. Compiling them -/

def Placement.IsRounded (p : Placement) : Prop :=
  p.scale.isDouble = true ∧ p.xShift.isDouble = true ∧ p.yShift.isDouble = true

theorem Placement.stroke_ne_overflow {p : Placement} (hp : p.IsRounded) {s : Segment}
    (hs : s.isRounded = true) : p.stroke s ≠ .error .overflow := by
  obtain ⟨scale, xShift, yShift⟩ := p
  obtain ⟨hscale, hx, hy⟩ := hp
  obtain ⟨scale, rfl⟩ := Number.exists_double hscale
  obtain ⟨xShift, rfl⟩ := Number.exists_double hx
  obtain ⟨yShift, rfl⟩ := Number.exists_double hy
  obtain ⟨x1, y1, x2, y2⟩ := s
  simp only [Segment.isRounded, Segment.coordinates, List.all_cons, List.all_nil,
    Bool.and_eq_true] at hs
  obtain ⟨h1, h2, h3, h4, -⟩ := hs
  obtain ⟨x1, rfl⟩ := Number.exists_double h1
  obtain ⟨y1, rfl⟩ := Number.exists_double h2
  obtain ⟨x2, rfl⟩ := Number.exists_double h3
  obtain ⟨y2, rfl⟩ := Number.exists_double h4
  -- Between doubles every operation gives a double.
  have happly : ∀ x y : Double, ∃ X Y : Double,
      (⟨.double scale, .double xShift, .double yShift⟩ : Placement).apply (.double x) (.double y)
        = .ok (.double X, .double Y) := fun _ _ => ⟨_, _, rfl⟩
  obtain ⟨X1, Y1, hstart⟩ := happly x1 y1
  obtain ⟨X2, Y2, hfinish⟩ := happly x2 y2
  rw [stroke]
  simp only [hstart, hfinish]
  change (if _ then _ else _ : Except Trouble Stroke) ≠ _
  split <;> simp

theorem Extent.isDouble_of? {segments : List Segment} {box : Extent}
    (hrounded : ∀ s ∈ segments, s.isRounded = true) (h : Extent.of? segments = some box) :
    box.minX.isDouble = true ∧ box.maxY.isDouble = true := by
  obtain ⟨hX, hY⟩ := forall_coordinates_iff.mp fun s hs n hn =>
    List.all_eq_true.mp (hrounded s hs) n hn
  obtain ⟨-, rfl⟩ := Extent.of?_eq_some h
  constructor
  · obtain hstart | hmem := List.mem_cons.mp (Number.foremost_mem (R := (· < ·)) _)
    · exact congrArg Number.isDouble hstart
    · exact hX _ hmem
  · obtain hstart | hmem := List.mem_cons.mp (Number.foremost_mem (R := (· > ·)) _)
    · exact congrArg Number.isDouble hstart
    · exact hY _ hmem

theorem Number.isDouble_neg {n : Number} (h : n.isDouble = true) : n.neg.isDouble = true := by
  obtain ⟨x, rfl⟩ := exists_double h
  rfl

theorem Placement.isRounded_grounding {segments : List Segment} {box : Extent}
    (hrounded : ∀ s ∈ segments, s.isRounded = true) (h : Extent.of? segments = some box)
    (scale : Double) : (grounding box scale).IsRounded := by
  obtain ⟨hx, hy⟩ := Extent.isDouble_of? hrounded h
  exact ⟨rfl, hx, Number.isDouble_neg hy⟩

theorem compile_ne_overflow (settings : Settings) {segments : List Segment}
    (hrounded : ∀ s ∈ segments, s.isRounded = true) :
    (compile settings segments).2 ≠ .error .overflow := by
  intro herror
  obtain ⟨box, hbox, ⟨s, hs, hstroke⟩ | ⟨-, hlong, -⟩⟩ :=
    exists_breaks_of_compile_error (Prod.ext rfl herror)
  · have hplacement := Placement.isRounded_grounding hrounded hbox settings.scale
    exact Placement.stroke_ne_overflow hplacement (hrounded s hs) hstroke
  · cases hlong

theorem Segment.isWritable_of_isRounded {s : Segment} (h : s.isRounded = true) :
    s.isWritable = true := by
  refine List.all_eq_true.mpr fun n hn => ?_
  obtain ⟨x, rfl⟩ := Number.exists_double (List.all_eq_true.mp h n hn)
  rfl

/-- What is reported of a rounded drawing that is not compiled: a segment of it, by name, or its feed. -/
theorem rebuild_eq_error (settings : Settings) {segments : List Segment}
    (hrounded : ∀ s ∈ segments, s.isRounded = true) {e : CompileError}
    (h : (Draft.ofDrawing settings segments).rebuild.2 = .error e) :
    (∃ s ∈ segments, e = .notFinite s) ∨
      (e = .tooManyDigits ∧ (compile settings segments).2 = .error .longFeed) := by
  rw [Draft.snd_rebuild_ofDrawing] at h
  obtain ⟨trouble, htrouble, rfl⟩ := mapError_eq_error.mp h
  have hcompile := map_eq_error.mp htrouble
  cases trouble with
  | notFinite s =>
    have hs := mem_of_compile_error (Prod.ext rfl hcompile)
    exact .inl ⟨s, hs, if_pos (Segment.isWritable_of_isRounded (hrounded s hs))⟩
  | overflow => exact absurd hcompile (compile_ne_overflow settings hrounded)
  | longFeed => exact .inr ⟨rfl, hcompile⟩

theorem rebuild_eq_tooManyDigits_iff (settings : Settings) {segments : List Segment}
    (hrounded : ∀ s ∈ segments, s.isRounded = true) :
    (Draft.ofDrawing settings segments).rebuild.2 = .error .tooManyDigits ↔
      settings.isWritable = false ∧ ∃ box, Extent.of? segments = some box ∧
        ∃ s ∈ segments.head?, ((Placement.grounding box settings.scale).stroke s).isOk = true := by
  rw [← compile_eq_longFeed_iff]
  constructor
  · intro h
    obtain ⟨s, -, hs⟩ | ⟨-, hfeed⟩ := rebuild_eq_error settings hrounded h
    · cases hs
    · exact hfeed
  · intro h
    rw [Draft.snd_rebuild_ofDrawing, h]
    rfl

end PenPlotter
