import PenPlotter.Proofs.Replay.Simulation

/-!
# The accuracy of what is drawn

A replayed program draws each segment where it is placed, up to what three decimals and the skipping
of short travels cost.  The error of one segment does not reach the next: the tool is compared with
exact places, never with printed ones.
-/

set_option autoImplicit false

namespace PenPlotter

attribute [local instance (high)] instPowNat

attribute [local irreducible] Double.unitsPerOne Double.printed

/-! ## 1. Nearness -/

-- The tolerance for skipping a travel, and the next double, are within eleven thousandths.
theorem units_succ_toleranceRank :
    Double.units (toleranceRank + 1) * 1000 ≤ 11 * Double.unitsPerOne := by decide +kernel

theorem mul_le_of_midpoint {u low high one : Nat} (h : 2 * u ≤ low + high) (hstep : low < high)
    (hhigh : high * 1000 ≤ 11 * one) : u * 1000 ≤ 11 * one := by linarith

/-- Where no tolerated distance is exceeded after rounding, none much larger is exceeded before. -/
theorem Double.abs_value_sub_le_of_near {x t : Double} (hx : x.isFinite = true)
    (ht : t.isFinite = true) (hnear : ¬positionTolerance < (x - t).abs) :
    |x.value - t.value| ≤ 11 / 1000 := by
  obtain ⟨s, r, rfl⟩ := isFinite_iff.1 hx
  obtain ⟨s', r', rfl⟩ := isFinite_iff.1 ht
  obtain ⟨n, hsub, -⟩ := sub_eq_ofRank s s' r r'
  rw [positionTolerance_eq, hsub, abs_ofRank, finite_false_lt_ofRank_iff, Nat.not_lt,
    nearestRank_le_iff _ _ _ Nat.one_pos, Nat.one_mul] at hnear
  -- What rounds to the tolerance at most is not beyond the point half way to the next double.
  have hle : 2 * (signedUnits s r - signedUnits s' r').natAbs ≤
      units toleranceRank + units (toleranceRank + 1) := hnear.elim le_of_lt fun h => h.1.le
  have herror := mul_le_of_midpoint hle (units_lt_succ toleranceRank) units_succ_toleranceRank
  simpa only [Nat.cast_ofNat] using abs_value_sub_le (by decide) herror

namespace Replay

structure Point.Within (p : Point) (distance : ℚ) (x y : Double) : Prop where
  finite : p.x.isFinite = true ∧ p.y.isFinite = true ∧ x.isFinite = true ∧ y.isFinite = true
  onX : |p.x.value - x.value| ≤ distance
  onY : |p.y.value - y.value| ≤ distance

theorem within_printed {x y : Double} (hx : x.isFinite = true) (hy : y.isFinite = true) :
    Point.Within ⟨x.printed, y.printed⟩ (1 / 1000) x y where
  finite := ⟨Double.isFinite_printed hx, Double.isFinite_printed hy, hx, hy⟩
  onX := Double.abs_value_printed_sub_le hx
  onY := Double.abs_value_printed_sub_le hy

theorem Point.Within.mono {p : Point} {d e : ℚ} {x y : Double} (h : p.Within d x y) (hle : d ≤ e) :
    p.Within e x y := ⟨h.finite, h.onX.trans hle, h.onY.trans hle⟩

-- A tool that is not away from a point is printed near it: one thousandth is for the print, the
-- others are for the travel that was skipped.
theorem within_of_near {t : Tool} {x y : Double} (htx : t.x.isFinite = true)
    (hty : t.y.isFinite = true) (hx : x.isFinite = true) (hy : y.isFinite = true)
    (hnear : t.isAwayFrom x y = false) :
    Point.Within ⟨t.x.printed, t.y.printed⟩ (12 / 1000) x y := by
  rw [Tool.isAwayFrom, Bool.or_eq_false_iff, decide_eq_false_iff_not, decide_eq_false_iff_not]
    at hnear
  have hprinted := within_printed htx hty
  have hsplit (a b c : ℚ) (hab : |a - b| ≤ 1 / 1000) (hcb : |c - b| ≤ 11 / 1000) :
      |a - c| ≤ 12 / 1000 := by
    calc |a - c| = |(a - b) - (c - b)| := by rw [sub_sub_sub_cancel_right]
      _ ≤ |a - b| + |c - b| := abs_sub _ _
      _ ≤ 12 / 1000 := by linarith
  refine ⟨⟨hprinted.finite.1, hprinted.finite.2.1, hx, hy⟩, ?_, ?_⟩
  · exact hsplit _ _ _ hprinted.onX (Double.abs_value_sub_le_of_near hx htx hnear.1)
  · exact hsplit _ _ _ hprinted.onY (Double.abs_value_sub_le_of_near hy hty hnear.2)

/-- A move that draws a stroke starts and ends near the ends of the stroke. -/
theorem Draws.within {k : Stroke} {move : Machine × Machine} (h : Draws k move)
    (hk : k.IsFinite) :
    move.1.position.Within (12 / 1000) k.x1 k.y1 ∧ move.2.position.Within (1 / 1000) k.x2 k.y2 := by
  obtain ⟨hx1, hy1, hx2, hy2⟩ := hk
  constructor
  · rcases h.start with hstart | ⟨t, htx, hty, hnear, hstart⟩
    · rw [hstart]
      exact (within_printed hx1 hy1).mono (by norm_num)
    · rw [hstart]
      exact within_of_near htx hty hx1 hy1 hnear
  · rw [h.finish]
    exact within_printed hx2 hy2

/-! ## 2. Moves -/

/-- What drawing a segment accurately takes: the pen is down, the move starts within twelve thousandths
of the segment's start as it is placed, and ends within one thousandth of its end. -/
def DrawsPlaced (p : Placement) (s : Segment) (move : Machine × Machine) : Prop :=
  ∃ x1 y1 x2 y2, p.apply s.x1 s.y1 = .ok (.double x1, .double y1) ∧
    p.apply s.x2 s.y2 = .ok (.double x2, .double y2) ∧ move.1.penDown = true ∧
    move.1.position.Within (12 / 1000) x1 y1 ∧ move.2.position.Within (1 / 1000) x2 y2

-- Each move is judged by its own stroke, so nothing is carried over from one to the next.
theorem forall₂_drawsPlaced {p : Placement} {q : Double} (hscale : p.scale = .double q)
    {segments : List Segment} {strokes : List Stroke} {moves : List (Machine × Machine)}
    (hplaces : p.Places segments strokes) (hdraws : List.Forall₂ Draws strokes moves) :
    List.Forall₂ (DrawsPlaced p) segments moves := by
  induction hplaces generalizing moves with
  | nil =>
    cases hdraws
    exact .nil
  | cons hstroke _ ih =>
    cases hdraws with
    | cons hdraw hrest =>
      obtain ⟨hstart, hfinish⟩ := Placement.apply_of_stroke hscale hstroke
      obtain ⟨hnearStart, hnearFinish⟩ := hdraw.within (Placement.stroke_eq_ok hstroke).2
      exact .cons ⟨_, _, _, _, hstart, hfinish, hdraw.penDown, hnearStart, hnearFinish⟩ (ih hrest)

def Replayer.drawings (r : Replayer) : List (Machine × Machine) :=
  Machine.initial.drawings r.setup 0 r.lines

end Replay

namespace Draft

open Replay

/-- **Drawing is accurate.**  In the replay of a drawing's program each segment is drawn by a move of its
own, which is accurate however many segments were chained before it. -/
theorem drawings_rebuild {d d' : Draft} {text : String} {box : Extent}
    (hrebuild : d.rebuild = (d', .ok text)) (hbox : Extent.of? d.history.segments = some box)
    (hbreaks : ∀ c ∈ d.settings.commands, Text.Unbroken c.text.toList)
    (hrec : Recognisable d.settings d'.lines) :
    List.Forall₂ (DrawsPlaced (.grounding box d.settings.scale)) d.history.segments
      (Replayer.of d.settings text (.double 6000)).drawings := by
  obtain ⟨hcompile, rfl⟩ := rebuild_eq_ok hrebuild
  have hne : d.history.segments ≠ [] := by
    intro hnil
    rw [hnil] at hbox
    cases hbox
  obtain ⟨found, strokes, m, moves, hfound, hplaces, -, -, hdraws, hruns, hlines, -⟩ :=
    exists_replay hcompile hne hbreaks hrec
  obtain rfl : box = found := Option.some.inj (hbox.symm.trans hfound)
  have hmoves : (Replayer.of d.settings (programText d'.lines) (.double 6000)).drawings = moves := by
    rw [Replayer.drawings, hlines]
    exact hruns.drawings 0
  rw [hmoves]
  exact forall₂_drawsPlaced rfl hplaces hdraws

/-- Two segments that follow on from each other, and one apart. -/
theorem drawings_rebuild_sample :
    ∃ box, Extent.of? sample.history.segments = some box ∧
      List.Forall₂ (DrawsPlaced (.grounding box sample.settings.scale)) sample.history.segments
        (Replayer.of sample.settings sample.rebuild.1.text (.double 6000)).drawings := by
  have hbox := Extent.of?_of_ne_nil (show sample.history.segments ≠ [] by decide)
  exact ⟨_, hbox, drawings_rebuild rebuild_sample hbox (by decide) recognisable_sample⟩

end Draft

end PenPlotter
