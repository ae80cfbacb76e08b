import Mathlib.Data.Finset.Max
import PenPlotter.Proofs.Program.Differences

/-!
# Grounding

The leftmost point of a drawing is placed at `X = 0` and the lowest at `Y = 0`, so no coordinate is
printed with a sign.  A zero is printed where such a point is moved to.  But the tool does not move to
the start of a segment that it is near, and then the smallest coordinate printed may be larger.
-/

set_option autoImplicit false

namespace PenPlotter

attribute [local instance (high)] instPowNat

attribute [local irreducible] Double.unitsPerOne

/-! ## 1. Axes -/

inductive Axis where
  | x
  | y
deriving DecidableEq

namespace Axis

/-- The coordinate of a drawing-space point, turned the way of output space. -/
def along : Axis → Number × Number → Number
  | .x, p => p.1
  | .y, p => p.2.neg

def of : Axis → Double × Double → Double
  | .x, p => p.1
  | .y, p => p.2

def base : Axis → Extent → Number
  | .x, box => box.minX
  | .y, box => box.maxY.neg

def Starts (axis : Axis) (box : Extent) (s : Segment) : Prop :=
  (axis.along s.start).same (axis.base box) = true

def Ends (axis : Axis) (box : Extent) (s : Segment) : Prop :=
  (axis.along s.finish).same (axis.base box) = true

def printed (axis : Axis) (lines : List Line) : List ℚ :=
  (lines.filterMap Line.goal?).map fun p => decimalValue (coordinateText (axis.of p)).toList

variable {axis : Axis} {box : Extent} {scale : Double} {segments : List Segment} {s : Segment}

theorem scaled_of_apply {x y : Number} {X Y : Double}
    (h : (Placement.grounding box scale).apply x y = .ok (.double X, .double Y)) :
    ((axis.along (x, y)).sub (axis.base box) >>= (·.mul (.double scale))) =
      .ok (.double (axis.of (X, Y))) := by
  obtain ⟨hX, hY⟩ := Placement.apply_eq_ok h
  cases axis
  · exact hX
  · exact hY

def coordinates (axis : Axis) (segments : List Segment) : List Number :=
  segments.flatMap fun s => [axis.along s.start, axis.along s.finish]

theorem mem_coordinates {n : Number} : n ∈ axis.coordinates segments ↔
    ∃ s ∈ segments, n = axis.along s.start ∨ n = axis.along s.finish := by
  simp [coordinates]

-- The base of a drawing is one of its coordinates, and none lies below it.
theorem base_spec (hbox : Extent.of? segments = some box)
    (hplaced : ∀ n ∈ axis.coordinates segments, n.IsPlaced) :
    axis.base box ∈ axis.coordinates segments ∧
      ∀ n ∈ axis.coordinates segments, (axis.base box).place ≤ n.place := by
  obtain ⟨hne, rfl⟩ := Extent.of?_eq_some hbox
  cases axis with
  | x => exact Number.lowest_spec (coordinatesOn_ne_nil hne) hplaced
  | y =>
    -- Turned around, the greatest coordinate is the smallest.
    have hturned : y.coordinates segments = (coordinatesY segments).map Number.neg := by
      simp [coordinates, coordinatesY, coordinatesOn, along, List.map_flatMap, Segment.start,
        Segment.finish]
    rw [hturned, List.forall_mem_map] at hplaced
    obtain ⟨hmem, hhigh⟩ := Number.highest_spec (coordinatesOn_ne_nil hne)
      fun n hn => Number.isPlaced_neg.1 (hplaced n hn)
    rw [hturned, List.forall_mem_map]
    refine ⟨List.mem_map_of_mem hmem, fun n hn => ?_⟩
    show (Number.neg _).place ≤ n.neg.place
    rw [Number.place_neg, Number.place_neg]
    exact Int.neg_le_neg (hhigh n hn)

theorem exists_starts_or_ends (hbox : Extent.of? segments = some box)
    (hplaced : ∀ n ∈ axis.coordinates segments, n.IsPlaced) :
    ∃ s ∈ segments, axis.Starts box s ∨ axis.Ends box s := by
  obtain ⟨hmem, -⟩ := base_spec hbox hplaced
  have hbase := hplaced _ hmem
  have hsame {n : Number} (h : axis.base box = n) : n.same (axis.base box) = true := by
    rw [← h]
    exact (Number.same_iff hbase hbase).2 rfl
  obtain ⟨s, hs, hends⟩ := mem_coordinates.1 hmem
  exact ⟨s, hs, hends.imp hsame hsame⟩

end Axis

/-! ## 2. Printed coordinates -/

theorem decimalValue_of_unsigned {s : Bool} {r : Fin rankLimit} (h : s = true → r.val = 0) :
    decimalValue (coordinateText (.finite s r)).toList = thousandths r / 1000 := by
  rw [coordinateText_of_unsigned h, (decimalValue_point _).2]

-- The tolerance is printed as ten thousandths.
theorem thousandths_toleranceRank : thousandths toleranceRank = 10 := by decide +kernel

-- A tool that is near a zero is printed within a hundredth of it.
theorem decimalValue_le_of_near {s t : Bool} {r q : Fin rankLimit} (hr : r.val = 0)
    (ht : t = true → q.val = 0)
    (hnear : ¬positionTolerance < (Double.finite s r - Double.finite t q).abs) :
    decimalValue (coordinateText (.finite t q)).toList ≤ 1 / 100 := by
  obtain ⟨n, hsub, -⟩ := Double.sub_eq_ofRank s t r q
  have hrank :
      Double.nearestRank (Double.signedUnits s r - Double.signedUnits t q).natAbs 1 = q := by
    have hzero : Double.signedUnits s r = 0 := by
      rw [hr, Double.signedUnits, Double.units_zero]
      simp
    rw [hzero, Int.zero_sub, Int.natAbs_neg, Double.natAbs_signedUnits, Double.nearestRank_units]
  rw [positionTolerance_eq, hsub, Double.abs_ofRank, Double.finite_false_lt_ofRank_iff, hrank,
    Nat.not_lt] at hnear
  have hle : (thousandths q : ℚ) ≤ 10 := by
    rw [← Nat.cast_ofNat, ← thousandths_toleranceRank]
    exact Nat.cast_le.2 (thousandths_mono hnear)
  rw [decimalValue_of_unsigned ht]
  linarith

/-! ## 3. Moves -/

theorem Tool.traceStrokes_append {settings : Settings} {t : Tool} (front rest : List Stroke) :
    t.traceStrokes settings (front ++ rest) =
      t.traceStrokes settings front ++ (t.after front).traceStrokes settings rest := by
  induction front generalizing t with
  | nil => rfl
  | cons k front ih =>
    rw [List.cons_append, traceStrokes, ih, traceStrokes, List.append_assoc, after_cons]

section Moves

variable {settings : Settings} {strokes : List Stroke} {i : Nat} {k : Stroke}

theorem trace_subset_strokesProgram (hk : strokes[i]? = some k) :
    ∀ line ∈ ((Tool.atRest.after (strokes.take i)).trace settings k).1,
      line ∈ strokesProgram settings strokes := by
  intro line hline
  have hsplit : strokes = strokes.take i ++ k :: strokes.drop (i + 1) := by
    obtain ⟨hi, rfl⟩ := List.getElem?_eq_some_iff.1 hk
    rw [List.cons_getElem_drop_succ, List.take_append_drop]
  have htrace : line ∈ Tool.atRest.traceStrokes settings strokes := by
    rw [hsplit, Tool.traceStrokes_append, Tool.traceStrokes]
    exact List.mem_append_right _ (List.mem_append_left _ hline)
  simp [strokesProgram, htrace]

theorem draw_mem_strokesProgram (hk : strokes[i]? = some k) :
    .draw k.x2 k.y2 settings.feedRate ∈ strokesProgram settings strokes := by
  apply trace_subset_strokesProgram hk
  simp [Tool.trace_fst]

theorem travel_mem_strokesProgram (hk : strokes[i]? = some k) (hi : i ∈ travelled strokes) :
    .travel k.x1 k.y1 ∈ strokesProgram settings strokes := by
  apply trace_subset_strokesProgram hk
  obtain ⟨k', hk', haway⟩ := mem_travelled.1 hi
  obtain rfl : k = k' := Option.some.inj (hk.symm.trans hk')
  simp [Tool.trace_fst, Tool.prepare, haway]

-- After the first stroke the tool stands where the one before ends.
theorem exists_near (hk : strokes[i]? = some k) (hpos : 0 < i) (hi : i ∉ travelled strokes) :
    ∃ last, strokes[i - 1]? = some last ∧
      Tool.isAwayFrom ⟨last.x2, last.y2, true⟩ k.x1 k.y1 = false := by
  obtain ⟨hlt, -⟩ := List.getElem?_eq_some_iff.1 hk
  obtain ⟨j, rfl⟩ := Nat.exists_eq_succ_of_ne_zero hpos.ne'
  have hj : strokes[j]? = some strokes[j] := List.getElem?_eq_getElem (by omega)
  refine ⟨strokes[j], hj, ?_⟩
  have htool : Tool.atRest.after (strokes.take (j + 1)) = ⟨strokes[j].x2, strokes[j].y2, true⟩ := by
    rw [List.take_succ_eq_append_getElem (by omega), Tool.after_append_singleton]
  rw [mem_travelled] at hi
  push Not at hi
  have hnear := hi k hk
  rw [htool] at hnear
  simpa using hnear

end Moves

theorem Placement.Places.getElem? {p : Placement} {segments : List Segment} {strokes : List Stroke}
    (h : p.Places segments strokes) {i : Nat} {s : Segment} (hs : segments[i]? = some s) :
    ∃ k, strokes[i]? = some k ∧ p.stroke s = .ok k := by
  induction h generalizing i with
  | nil => cases hs
  | @cons first k rest ks hk _ ih =>
    cases i with
    | zero =>
      obtain rfl := Option.some.inj hs
      exact ⟨k, rfl, hk⟩
    | succ i => exact ih hs

/-! ## 4. The smallest coordinate -/

namespace Axis

variable (axis : Axis) (settings : Settings) {box : Extent} {q : Fin rankLimit}
  {segments : List Segment} {strokes : List Stroke} {s : Segment} {k : Stroke}

theorem mem_printed {lines : List Line} {line : Line} (hline : line ∈ lines) {x y : Double}
    (hgoal : line.goal? = some (x, y)) :
    decimalValue (coordinateText (axis.of (x, y))).toList ∈ axis.printed lines :=
  List.mem_map.2 ⟨(x, y), List.mem_filterMap.2 ⟨line, hline, hgoal⟩, rfl⟩

theorem isFinite_of (hk : k.IsFinite) : (axis.of (k.x1, k.y1)).isFinite = true ∧
    (axis.of (k.x2, k.y2)).isFinite = true := by
  obtain ⟨hx1, hy1, hx2, hy2⟩ := hk
  cases axis
  · exact ⟨hx1, hx2⟩
  · exact ⟨hy1, hy2⟩

theorem isPlaced_coordinates
    (hplaces : (Placement.grounding box (.finite false q)).Places segments strokes) :
    ∀ n ∈ axis.coordinates segments, n.IsPlaced := by
  intro n hn
  obtain ⟨s, hs, hends⟩ := mem_coordinates.1 hn
  obtain ⟨k, hk, hstroke⟩ := hplaces.exists_stroke hs
  obtain ⟨hstart, hfinish⟩ := Placement.apply_of_stroke rfl hstroke
  obtain ⟨hfinite, hfinite'⟩ := isFinite_of axis (hplaces.isFinite k hk)
  rcases hends with rfl | rfl
  · exact Number.isPlaced_of_scaled (scaled_of_apply hstart) hfinite
  · exact Number.isPlaced_of_scaled (scaled_of_apply hfinish) hfinite'

/-- Whether a double is not negative, and zero under a condition; a zero may have a sign. -/
def Unsigned (x : Double) (zero : Prop) : Prop :=
  ∃ s r, x = .finite s r ∧ (s = true → r.val = 0) ∧ (zero → r.val = 0)

theorem Unsigned.decimalValue_nonneg {x : Double} {zero : Prop} (h : Unsigned x zero) :
    0 ≤ decimalValue (coordinateText x).toList := by
  obtain ⟨s, r, rfl, hsign, -⟩ := h
  rw [decimalValue_of_unsigned hsign]
  exact div_nonneg (Nat.cast_nonneg _) (by norm_num)

theorem Unsigned.decimalValue_eq_zero {x : Double} {zero : Prop} (h : Unsigned x zero)
    (hzero : zero) : decimalValue (coordinateText x).toList = 0 := by
  obtain ⟨s, r, rfl, hsign, hr⟩ := h
  rw [decimalValue_of_unsigned hsign, hr hzero, thousandths_zero]
  norm_num

/-- The ends of a stroke are not negative, and zero where its segment is at the edge. -/
theorem unsigned_of_stroke (hbox : Extent.of? segments = some box)
    (hplaces : (Placement.grounding box (.finite false q)).Places segments strokes)
    (hs : s ∈ segments) (hk : (Placement.grounding box (.finite false q)).stroke s = .ok k) :
    Unsigned (axis.of (k.x1, k.y1)) (axis.Starts box s) ∧
      Unsigned (axis.of (k.x2, k.y2)) (axis.Ends box s) := by
  have hplaced := isPlaced_coordinates axis hplaces
  obtain ⟨hmem, hbelow⟩ := base_spec hbox hplaced
  obtain ⟨hfinite, hfinite'⟩ := isFinite_of axis (Placement.stroke_eq_ok hk).2
  obtain ⟨hstart, hfinish⟩ := Placement.apply_of_stroke rfl hk
  have hbase := hplaced _ hmem
  have hunsigned {n : Number} (hn : n ∈ axis.coordinates segments) {X : Double}
      (hX : (n.sub (axis.base box) >>= (·.mul (.double (.finite false q)))) = .ok (.double X))
      (hfinite : X.isFinite = true) : Unsigned X (n.same (axis.base box) = true) := by
    rw [Unsigned, Number.same_iff (hplaced n hn) hbase]
    exact Number.exists_scaled_of_le (hplaced n hn) hbase (hbelow n hn) hX hfinite
  constructor
  · exact hunsigned (mem_coordinates.2 ⟨s, hs, .inl rfl⟩) (scaled_of_apply hstart) hfinite
  · exact hunsigned (mem_coordinates.2 ⟨s, hs, .inr rfl⟩) (scaled_of_apply hfinish) hfinite'

theorem isAwayFrom_along {t : Tool} {x y : Double} (h : t.isAwayFrom x y = false) :
    ¬positionTolerance < (axis.of (x, y) - axis.of (t.x, t.y)).abs := by
  rw [Tool.isAwayFrom, Bool.or_eq_false_iff, decide_eq_false_iff_not, decide_eq_false_iff_not] at h
  cases axis
  · exact h.1
  · exact h.2

section Program

variable (hbox : Extent.of? segments = some box)
  (hplaces : (Placement.grounding box (.finite false q)).Places segments strokes)
include hbox hplaces

theorem printed_nonneg : ∀ v ∈ axis.printed (strokesProgram settings strokes), 0 ≤ v := by
  intro v hv
  obtain ⟨⟨x, y⟩, hgoal, rfl⟩ := List.mem_map.1 hv
  obtain ⟨line, hline, hgoal⟩ := List.mem_filterMap.1 hgoal
  obtain ⟨k, hk, hends⟩ := goal_of_mem_strokesProgram hline hgoal
  obtain ⟨s, hs, hstroke⟩ := hplaces.exists_segment hk
  obtain ⟨hstart, hfinish⟩ := unsigned_of_stroke axis hbox hplaces hs hstroke
  rcases hends with ⟨rfl, rfl⟩ | ⟨rfl, rfl⟩
  · exact hstart.decimalValue_nonneg
  · exact hfinish.decimalValue_nonneg

theorem zero_mem_printed_of_ends (hs : s ∈ segments) (hends : axis.Ends box s) :
    0 ∈ axis.printed (strokesProgram settings strokes) := by
  obtain ⟨i, hi⟩ := List.mem_iff_getElem?.1 hs
  obtain ⟨k, hk, hstroke⟩ := hplaces.getElem? hi
  obtain ⟨-, hfinish⟩ := unsigned_of_stroke axis hbox hplaces hs hstroke
  rw [← hfinish.decimalValue_eq_zero hends]
  exact mem_printed axis (draw_mem_strokesProgram hk) rfl

variable {i : Nat}

theorem zero_mem_printed_of_travelled (hi : i ∈ travelled strokes) (hs : segments[i]? = some s)
    (hstarts : axis.Starts box s) : 0 ∈ axis.printed (strokesProgram settings strokes) := by
  obtain ⟨k, hk, hstroke⟩ := hplaces.getElem? hs
  obtain ⟨hstart, -⟩ :=
    unsigned_of_stroke axis hbox hplaces (List.mem_of_getElem? hs) hstroke
  rw [← hstart.decimalValue_eq_zero hstarts]
  exact mem_printed axis (travel_mem_strokesProgram hk hi) rfl

-- Where the tool does not travel to a start, the end before it was printed, and is near.
theorem exists_printed_le (hpos : 0 < i) (hs : segments[i]? = some s)
    (hstarts : axis.Starts box s) :
    ∃ v ∈ axis.printed (strokesProgram settings strokes), v ≤ 1 / 100 := by
  by_cases hi : i ∈ travelled strokes
  · exact ⟨0, zero_mem_printed_of_travelled axis settings hbox hplaces hi hs hstarts, by norm_num⟩
  · obtain ⟨k, hk, hstroke⟩ := hplaces.getElem? hs
    obtain ⟨last, hlast, hnear⟩ := exists_near hk hpos hi
    obtain ⟨s', hs', hstroke'⟩ := hplaces.exists_segment (List.mem_of_getElem? hlast)
    obtain ⟨⟨b, r, hr, -, hzero⟩, -⟩ :=
      unsigned_of_stroke axis hbox hplaces (List.mem_of_getElem? hs) hstroke
    obtain ⟨-, ⟨c, p, hp, hsign, -⟩⟩ := unsigned_of_stroke axis hbox hplaces hs' hstroke'
    have hdistance := isAwayFrom_along axis hnear
    rw [hr, hp] at hdistance
    refine ⟨_, mem_printed axis (draw_mem_strokesProgram hlast) rfl, ?_⟩
    rw [hp]
    exact decimalValue_le_of_near (hzero hstarts) hsign hdistance

end Program

/-- What the smallest printed coordinate of a program is: zero, if the edge of the box is moved to, and
small, if the tool draws on from near it. -/
structure Least (axis : Axis) (box : Extent) (segments : List Segment) (travelled : Finset Nat)
    (lines : List Line) (least : ℚ) : Prop where
  isLeast : IsLeast {v | v ∈ axis.printed lines} least
  nonneg : 0 ≤ least
  reached : ∃ s ∈ segments, axis.Starts box s ∨ axis.Ends box s
  ends : ∀ s ∈ segments, axis.Ends box s → least = 0
  travels : ∀ i ∈ travelled, ∀ s, segments[i]? = some s → axis.Starts box s → least = 0
  near : ∀ i s, 0 < i → segments[i]? = some s → axis.Starts box s → least ≤ 1 / 100

theorem exists_least (hbox : Extent.of? segments = some box)
    (hplaces : (Placement.grounding box (.finite false q)).Places segments strokes) :
    ∃ least,
      axis.Least box segments (travelled strokes) (strokesProgram settings strokes) least := by
  have hnonneg := printed_nonneg axis settings hbox hplaces
  obtain ⟨s, hs, hreached⟩ :=
    exists_starts_or_ends hbox (isPlaced_coordinates axis hplaces)
  -- Something is drawn, so something is printed.
  obtain ⟨k, hk, -⟩ := hplaces.exists_stroke hs
  obtain ⟨i, hi⟩ := List.mem_iff_getElem?.1 hk
  have hne : (axis.printed (strokesProgram settings strokes)).toFinset.Nonempty :=
    ⟨_, List.mem_toFinset.2 (mem_printed axis (draw_mem_strokesProgram hi) rfl)⟩
  have hleast := Finset.isLeast_min' _ hne
  generalize Finset.min' _ hne = least at hleast
  rw [List.coe_toFinset] at hleast
  have hzero (h : 0 ∈ axis.printed (strokesProgram settings strokes)) : least = 0 :=
    le_antisymm (hleast.2 h) (hnonneg _ hleast.1)
  refine ⟨least, hleast, hnonneg _ hleast.1, ⟨s, hs, hreached⟩, fun s hs hends => ?_,
    fun i hi s hs hstarts => ?_, fun i s hpos hs hstarts => ?_⟩
  · exact hzero (zero_mem_printed_of_ends axis settings hbox hplaces hs hends)
  · exact hzero (zero_mem_printed_of_travelled axis settings hbox hplaces hi hs hstarts)
  · obtain ⟨v, hv, hle⟩ := exists_printed_le axis settings hbox hplaces hpos hs hstarts
    exact (hleast.2 hv).trans hle

end Axis

namespace Draft

/-- **What grounding a drawing means for its program.**  On each axis the smallest printed coordinate
is not negative.  It is zero if the end of a segment lies at that edge of the drawing, or a start that
the tool travels to, and at most a hundredth if any start but the first does.  What is left is a drawing
that reaches the edge only where its first segment starts, and the tool is there already. -/
theorem exists_least_rebuild {d d' : Draft} {text : String} {box : Extent}
    (hrebuild : d.rebuild = (d', .ok text)) (hbox : Extent.of? d.history.segments = some box) :
    ∃ strokes, (Placement.grounding box d.settings.scale).Places d.history.segments strokes ∧
      ∀ axis : Axis, ∃ least,
        axis.Least box d.history.segments (travelled strokes) d'.lines least := by
  obtain ⟨hcompile, -⟩ := rebuild_eq_ok hrebuild
  obtain ⟨strokes, hplaces, -, hlines⟩ := exists_strokes_of_compile hcompile hbox
  refine ⟨strokes, hplaces, fun axis => ?_⟩
  obtain ⟨q, hq⟩ := d.settings.exists_scale
  rw [hq] at hplaces
  rw [hlines]
  exact Axis.exists_least axis d.settings hbox hplaces

/-- Integers and doubles.  The left edge is reached at the second start only, eight thousandths from
where the first segment ends. -/
def edge : Draft :=
  (new .standard).record ⟨.double 3, 0, .double (.ofDecimal false 8 (-3)), 5⟩
    |>.record ⟨0, .double 5, 4, 4⟩

theorem exists_least_rebuild_edge :
    ∃ box strokes, edge.rebuild = (edge.rebuild.1, .ok edge.rebuild.1.text) ∧
      Extent.of? edge.history.segments = some box ∧
      (Placement.grounding box edge.settings.scale).Places edge.history.segments strokes ∧
      ∀ axis : Axis, ∃ least,
        axis.Least box edge.history.segments (travelled strokes) edge.rebuild.1.lines least := by
  have hbox := Extent.of?_of_ne_nil (show edge.history.segments ≠ [] by decide)
  have hrebuild : edge.rebuild = (edge.rebuild.1, .ok edge.rebuild.1.text) :=
    rebuild_of_isOk (by decide +kernel)
  obtain ⟨strokes, hplaces, hleast⟩ := exists_least_rebuild hrebuild hbox
  exact ⟨_, strokes, hrebuild, hbox, hplaces, hleast⟩

def diagonal : Draft := (new .standard).record ⟨0, 0, 10, .int (-10)⟩

/-- The tool draws from the origin at once, so nothing near zero is printed on either axis. -/
theorem not_grounded_diagonal :
    diagonal.history.segments ≠ [] ∧
      diagonal.rebuild = (diagonal.rebuild.1, .ok diagonal.rebuild.1.text) ∧
      ∀ axis : Axis, ¬∃ least, IsLeast {v | v ∈ axis.printed diagonal.rebuild.1.lines} least ∧
        |least| ≤ 1 / 1000000 := by
  have hprinted : ∀ axis : Axis, axis.printed diagonal.rebuild.1.lines = [10] := by
    intro axis
    cases axis <;> decide +kernel
  refine ⟨by decide, rebuild_of_isOk (by decide +kernel), ?_⟩
  rintro axis ⟨least, ⟨hmem, -⟩, hsmall⟩
  obtain rfl : least = 10 := by
    rw [hprinted axis] at hmem
    exact List.mem_singleton.1 hmem
  norm_num at hsmall

end Draft

end PenPlotter
