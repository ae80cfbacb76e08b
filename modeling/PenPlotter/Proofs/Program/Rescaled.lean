import PenPlotter.Proofs.Double.Doubling
import PenPlotter.Proofs.Program.Differences
import PenPlotter.Proofs.Program.Strokes

/-!
# Drawings at twice the scale

At twice the scale every stroke is twice as large, up to what rounding costs among the smallest numbers.
The tolerance within which a travel is skipped does not grow with the drawing, so there can be more
travels, but none is lost.
-/

set_option autoImplicit false

namespace PenPlotter

open Decimal

attribute [local instance (high)] instPowNat

attribute [local irreducible] Double.unitsPerOne

/-! ## 1. Twice the percentage -/

namespace Settings

-- A percentage that is not tiny is a hundred blocks of units at least, so a hundredth of it is still
-- one block.
theorem hundred_blocks_le_percent {settings : Settings} {r : Fin rankLimit}
    (hpercent : settings.scalePercent = .finite false r)
    (hlarge : .ofDecimal false 1 (-300) ≤ settings.scalePercent) :
    100 * blockSize ≤ Double.units r := by
  obtain ⟨least, hleast, hblocks⟩ : ∃ least : Fin rankLimit,
      .ofDecimal false 1 (-300) = Double.finite false least ∧
        100 * blockSize ≤ Double.units least :=
    ⟨⟨Double.nearestRank (1 * Double.unitsPerOne) (10 ^ 300), by decide +kernel⟩,
      by decide +kernel, by decide +kernel⟩
  rw [hleast, hpercent, Double.finite_false_le_iff] at hlarge
  exact hblocks.trans (Double.units_mono hlarge)

theorem units_percent_twice {settings twice : Settings} {r r' : Fin rankLimit}
    (hpercent : settings.scalePercent = .finite false r)
    (hpercent' : twice.scalePercent = .finite false r')
    (htwice : twice.scalePercent = 2 * settings.scalePercent)
    (hlarge : 100 * blockSize ≤ Double.units r) :
    Double.units r' = 2 * Double.units r := by
  obtain ⟨two, htwo, hunits⟩ := Double.exists_ofInt_of_le (show 2 ≤ _ by decide)
  have hone := Double.unitsPerOne_pos
  rw [hpercent, hpercent', show (2 : Double) = _ from htwo, Double.mul_eq_ofRank, hunits, eq_comm,
    Double.ofRank_eq_finite_iff] at htwice
  rw [← htwice.2, Nat.mul_assoc, Nat.mul_comm Double.unitsPerOne,
    Double.units_nearestRank_two_mul_of_le hone (Nat.mul_le_mul_right _ (by omega)),
    Double.nearestRank_exact _ _ hone]

/-- Twice the percentage is exactly twice the scale. -/
theorem scale_twice {settings twice : Settings}
    (htwice : twice.scalePercent = 2 * settings.scalePercent)
    (hlarge : .ofDecimal false 1 (-300) ≤ settings.scalePercent) :
    ∃ q q' : Fin rankLimit, settings.scale = .finite false q ∧ twice.scale = .finite false q' ∧
      Double.units q' = 2 * Double.units q := by
  obtain ⟨r, hpercent⟩ := settings.exists_percent
  obtain ⟨r', hpercent'⟩ := twice.exists_percent
  have hblocks := hundred_blocks_le_percent hpercent hlarge
  have hunits := units_percent_twice hpercent hpercent' htwice hblocks
  obtain ⟨q, hq, hrank⟩ := scale_of_percent hpercent
  obtain ⟨q', hq', hrank'⟩ := scale_of_percent hpercent'
  refine ⟨q, q', hq, hq', ?_⟩
  have hblock : blockSize * (100 * Double.unitsPerOne) ≤ Double.units r * Double.unitsPerOne := by
    rw [← Nat.mul_assoc, Nat.mul_comm blockSize]
    exact Nat.mul_le_mul_right _ hblocks
  rw [hrank', hunits, Nat.mul_assoc, hrank, Double.units_nearestRank_two_mul_of_le
    (Nat.mul_pos (by decide) Double.unitsPerOne_pos) hblock]

end Settings

/-! ## 2. Strokes at both scales -/

-- The difference is the same for both scales, only the factor is not.
theorem Number.doublesTo_of_scaled {n base : Number} {q q' : Fin rankLimit} {X X' : Double}
    (hq : Double.units q' = 2 * Double.units q)
    (h : (n.sub base >>= (·.mul (.double (.finite false q)))) = .ok (.double X))
    (h' : (n.sub base >>= (·.mul (.double (.finite false q')))) = .ok (.double X'))
    (hX : X.isFinite = true) (hX' : X'.isFinite = true) : X.DoublesTo X' := by
  obtain ⟨d, a, hd, ha, rfl⟩ := scaled_eq_ok.1 h
  obtain ⟨d', a', hd', ha', rfl⟩ := scaled_eq_ok.1 h'
  obtain rfl : d = d' := Except.ok.inj (hd.symm.trans hd')
  obtain rfl : a = a' := Except.ok.inj (ha.symm.trans ha')
  exact Double.doublesTo_mul hq (Double.isFinite_of_mul hX) hX hX'

structure Stroke.DoublesTo (k k' : Stroke) : Prop where
  x1 : k.x1.DoublesTo k'.x1
  y1 : k.y1.DoublesTo k'.y1
  x2 : k.x2.DoublesTo k'.x2
  y2 : k.y2.DoublesTo k'.y2

theorem Placement.doublesTo_of_stroke {box : Extent} {q q' : Fin rankLimit} {s : Segment}
    {k k' : Stroke} (hq : Double.units q' = 2 * Double.units q)
    (h : (grounding box (.finite false q)).stroke s = .ok k)
    (h' : (grounding box (.finite false q')).stroke s = .ok k') : k.DoublesTo k' := by
  obtain ⟨hx1, hy1, hx2, hy2⟩ := (stroke_eq_ok h).2
  obtain ⟨hx1', hy1', hx2', hy2'⟩ := (stroke_eq_ok h').2
  obtain ⟨hstart, hfinish⟩ := apply_of_stroke rfl h
  obtain ⟨hstart', hfinish'⟩ := apply_of_stroke rfl h'
  obtain ⟨hX1, hY1⟩ := apply_eq_ok hstart
  obtain ⟨hX2, hY2⟩ := apply_eq_ok hfinish
  obtain ⟨hX1', hY1'⟩ := apply_eq_ok hstart'
  obtain ⟨hX2', hY2'⟩ := apply_eq_ok hfinish'
  constructor
  · exact Number.doublesTo_of_scaled hq hX1 hX1' hx1 hx1'
  · exact Number.doublesTo_of_scaled hq hY1 hY1' hy1 hy1'
  · exact Number.doublesTo_of_scaled hq hX2 hX2' hx2 hx2'
  · exact Number.doublesTo_of_scaled hq hY2 hY2' hy2 hy2'

theorem Placement.Places.doublesTo {box : Extent} {q q' : Fin rankLimit} {segments : List Segment}
    {strokes strokes' : List Stroke} (hq : Double.units q' = 2 * Double.units q)
    (h : (grounding box (.finite false q)).Places segments strokes)
    (h' : (grounding box (.finite false q')).Places segments strokes') :
    List.Forall₂ Stroke.DoublesTo strokes strokes' := by
  induction h generalizing strokes' with
  | nil =>
    cases h'
    exact .nil
  | cons hk _ ih =>
    cases h' with
    | cons hk' hrest => exact .cons (doublesTo_of_stroke hq hk hk') (ih hrest)

/-! ## 3. Drawing lines -/

theorem decimalValue_minus {s : List Char} (h : '-' ∉ s) :
    decimalValue ('-' :: s) = -decimalValue s := by
  have hdigit : Text.digit? '-' = none := by decide
  have hpoint : ('-' :: s).dropWhile (· ≠ '.') = s.dropWhile (· ≠ '.') :=
    List.dropWhile_cons_of_pos rfl
  rw [decimalValue, decimalValue, if_pos List.mem_cons_self, if_neg h,
    List.filterMap_cons_none hdigit, hpoint]

-- The sign is printed unless the thousandths are zero, where it makes no difference.
theorem decimalValue_coordinateText (s : Bool) (r : Fin rankLimit) :
    decimalValue (coordinateText (.finite s r)).toList =
      (if s then -1 else 1) * (thousandths r / 1000) := by
  obtain ⟨hunsigned, hvalue⟩ := decimalValue_point (thousandths r)
  rw [coordinateText_finite]
  by_cases hnegative : s = true ∧ thousandths r ≠ 0
  · obtain ⟨rfl, hne⟩ := hnegative
    rw [Bool.true_and, decide_eq_true hne, signed, if_pos rfl, decimalValue_minus hunsigned, hvalue,
      if_pos rfl, neg_one_mul]
  · have hsign : (s && decide (thousandths r ≠ 0)) = false := by simpa using hnegative
    have hzero : s = true → thousandths r = 0 := by simpa using hnegative
    rw [hsign, signed, if_neg Bool.false_ne_true, hvalue]
    cases s
    · simp
    · simp [hzero rfl]

theorem thousandths_twice {r r' : Nat} (hle : Double.units r' ≤ 2 * Double.units r + 1)
    (hge : 2 * Double.units r ≤ Double.units r' + 1) :
    thousandths r' ≤ 2 * thousandths r + 1 ∧ 2 * thousandths r ≤ thousandths r' + 1 := by
  obtain ⟨hlow, hhigh⟩ := Double.thousandths_error r
  obtain ⟨hlow', hhigh'⟩ := Double.thousandths_error r'
  have hunit : 2000 < Double.unitsPerOne := by decide +kernel
  -- Half a thousandth is lost twice before and once after, so what they differ by is less than two.
  have hup : thousandths r' * Double.unitsPerOne < (2 * thousandths r + 2) * Double.unitsPerOne := by
    nlinarith
  have hdown : 2 * thousandths r * Double.unitsPerOne <
      (thousandths r' + 2) * Double.unitsPerOne := by
    nlinarith
  have hup' := Nat.lt_of_mul_lt_mul_right hup
  have hdown' := Nat.lt_of_mul_lt_mul_right hdown
  omega

/-- Whether the second of two coordinates is printed within a thousandth of twice the first. -/
def PrintsTwice (x x' : Double) : Prop :=
  |decimalValue (coordinateText x').toList - 2 * decimalValue (coordinateText x).toList| ≤ 1 / 1000

theorem Double.DoublesTo.printsTwice {x x' : Double} (h : x.DoublesTo x') : PrintsTwice x x' := by
  cases h with
  | @intro s r r' hle hge =>
    obtain ⟨hup, hdown⟩ := thousandths_twice hle hge
    have hup' : (thousandths r' : ℚ) ≤ 2 * thousandths r + 1 := by exact_mod_cast hup
    have hdown' : 2 * (thousandths r : ℚ) ≤ thousandths r' + 1 := by exact_mod_cast hdown
    rw [PrintsTwice, decimalValue_coordinateText, decimalValue_coordinateText, abs_le]
    cases s <;> constructor <;> simp only [if_true, Bool.false_eq_true, if_false] <;> linarith

inductive Line.DrawsTwice : Line → Line → Prop where
  | intro {x y x' y' : Double} (feed feed' : Int) (hx : PrintsTwice x x') (hy : PrintsTwice y y') :
    DrawsTwice (.draw x y feed) (.draw x' y' feed')

section Programs

variable {settings settings' : Settings} {strokes strokes' : List Stroke}

theorem filter_traceStrokes {t : Tool} :
    (t.traceStrokes settings strokes).filter Line.isDraw =
      strokes.map fun k => .draw k.x2 k.y2 settings.feedRate := by
  induction strokes generalizing t with
  | nil => rfl
  | cons k rest ih =>
    have hprepare : (t.prepare settings k).filter Line.isDraw = [] := by
      rw [List.filter_eq_nil_iff]
      intro line hline
      rw [Tool.prepare_spec.1 line hline]
      exact Bool.false_ne_true
    rw [Tool.traceStrokes, Tool.trace_fst, List.filter_append, List.filter_append, hprepare, ih]
    rfl

theorem filter_strokesProgram :
    (strokesProgram settings strokes).filter Line.isDraw =
      strokes.map fun k => .draw k.x2 k.y2 settings.feedRate := by
  have hheader : (header settings).filter Line.isDraw = [] := rfl
  have hclosing : ([Line.penUp settings.penUp] ++ closing settings).filter Line.isDraw = [] := rfl
  rw [strokesProgram, List.append_assoc, List.append_assoc, List.filter_append, List.filter_append,
    hheader, hclosing, filter_traceStrokes, List.append_nil, List.nil_append]

theorem drawsTwice_strokesProgram (h : List.Forall₂ Stroke.DoublesTo strokes strokes') :
    List.Forall₂ Line.DrawsTwice ((strokesProgram settings strokes).filter Line.isDraw)
      ((strokesProgram settings' strokes').filter Line.isDraw) := by
  rw [filter_strokesProgram, filter_strokesProgram, List.forall₂_map_left_iff,
    List.forall₂_map_right_iff]
  exact h.imp fun k k' hk => .intro _ _ hk.x2.printsTwice hk.y2.printsTwice

/-! ## 4. Travels -/

namespace Line

def isTravel : Line → Bool
  | .travel _ _ => true
  | _ => false

def KeepsTravel (gap gap' : List Line) : Prop :=
  gap.any isTravel = true → gap'.any isTravel = true

end Line

namespace Tool

variable {t t' : Tool} {k k' : Stroke}

theorem any_isTravel_prepare :
    (t.prepare settings k).any Line.isTravel = t.isAwayFrom k.x1 k.y1 := by
  rw [prepare]
  split <;> split <;> simp [Line.isTravel, *]

theorem units_succ_le_toleranceRank :
    Double.units (toleranceRank + 1) ≤ 2 * Double.units toleranceRank := by
  decide +kernel

/-- What the tool is away from it is away from at twice the scale. -/
theorem isAwayFrom_twice (hx : t.x.DoublesTo t'.x) (hy : t.y.DoublesTo t'.y) (hk : k.DoublesTo k')
    (haway : t.isAwayFrom k.x1 k.y1 = true) : t'.isAwayFrom k'.x1 k'.y1 = true := by
  rw [isAwayFrom, Bool.or_eq_true, decide_eq_true_iff, decide_eq_true_iff, positionTolerance_eq]
    at haway ⊢
  rcases haway with h | h
  · exact .inl (hk.x1.lt_abs_sub hx units_succ_le_toleranceRank h)
  · exact .inr (hk.y1.lt_abs_sub hy units_succ_le_toleranceRank h)

theorem keepsTravel_prepare (hx : t.x.DoublesTo t'.x) (hy : t.y.DoublesTo t'.y)
    (hk : k.DoublesTo k') : Line.KeepsTravel (t.prepare settings k) (t'.prepare settings' k') := by
  intro htravel
  rw [any_isTravel_prepare] at htravel ⊢
  exact isAwayFrom_twice hx hy hk htravel

-- After each stroke the tool stands at its end, so the two tools stay apart by the factor of two
-- whatever they were made to do before.
theorem keepsTravel_prepares (hx : t.x.DoublesTo t'.x) (hy : t.y.DoublesTo t'.y)
    (h : List.Forall₂ Stroke.DoublesTo strokes strokes') :
    List.Forall₂ Line.KeepsTravel (t.prepares settings strokes)
      (t'.prepares settings' strokes') := by
  induction h generalizing t t' with
  | nil => exact .nil
  | cons hk _ ih =>
    rw [prepares, prepares, trace_snd, trace_snd]
    exact .cons (keepsTravel_prepare hx hy hk) (ih hk.x2 hk.y2)

end Tool

theorem keepsTravel_strokesProgram (h : List.Forall₂ Stroke.DoublesTo strokes strokes') :
    List.Forall₂ Line.KeepsTravel (gaps Line.isDraw (strokesProgram settings strokes))
      (gaps Line.isDraw (strokesProgram settings' strokes')) := by
  have hheader (settings : Settings) : (header settings).any Line.isTravel = false := rfl
  have hprepares : List.Forall₂ Line.KeepsTravel (Tool.atRest.prepares settings strokes)
      (Tool.atRest.prepares settings' strokes') :=
    Tool.keepsTravel_prepares Double.doublesTo_zero Double.doublesTo_zero h
  rw [gaps_strokesProgram, gaps_strokesProgram]
  -- The headers are in the first gaps, but there is no travel in them.
  generalize Tool.atRest.prepares settings strokes = first at *
  generalize Tool.atRest.prepares settings' strokes' = second at *
  cases hprepares with
  | nil => exact .nil
  | cons hgap hgaps =>
    refine .cons ?_ hgaps
    rwa [Line.KeepsTravel, List.any_append, List.any_append, hheader, hheader, Bool.false_or,
      Bool.false_or]

theorem isDraw_blank :
    ∀ line ∈ header settings ++ [Line.noDrawing] ++ closing settings, line.isDraw = false := by
  simp [header, closing, Line.isDraw]

end Programs

namespace Draft

/-- **Doubling the scale doubles the drawing and joins nothing.**  Where a drawing has programs at a
percentage that is not tiny and at twice that, whatever else the settings say, both draw one line for
each segment, the second to a point that is printed within a thousandth of twice the first on either
axis, and before each segment that the first travels to the second travels too. -/
theorem rebuild_twice {d d₁ d₂ : Draft} {settings : Settings} {text text' : String}
    (htwice : settings.scalePercent = 2 * d.settings.scalePercent)
    (hlarge : .ofDecimal false 1 (-300) ≤ d.settings.scalePercent)
    (hrebuild : d.rebuild = (d₁, .ok text))
    (hrebuild' : (d.configure settings).rebuild = (d₂, .ok text')) :
    (d₁.lines.filter Line.isDraw).length = d.history.segments.length ∧
      List.Forall₂ Line.DrawsTwice (d₁.lines.filter Line.isDraw) (d₂.lines.filter Line.isDraw) ∧
      List.Forall₂ Line.KeepsTravel (gaps Line.isDraw d₁.lines) (gaps Line.isDraw d₂.lines) := by
  obtain ⟨hcompile, -⟩ := rebuild_eq_ok hrebuild
  obtain ⟨hcompile', -⟩ := rebuild_eq_ok hrebuild'
  change compile settings d.history.segments = _ at hcompile'
  by_cases hne : d.history.segments = []
  · -- Without a drawing there is nothing to be drawn at either scale.
    have hblank {settings : Settings} {d' : Draft}
        (h : compile settings d.history.segments = (d'.tool, .ok d'.lines)) :
        d'.lines.filter Line.isDraw = [] ∧ gaps Line.isDraw d'.lines = [] := by
      rw [hne, compile_nil] at h
      rw [← Except.ok.inj (congrArg Prod.snd h), List.filter_eq_nil_iff]
      refine ⟨fun line hline => ?_, gaps_of_forall isDraw_blank⟩
      rw [isDraw_blank line hline]
      exact Bool.false_ne_true
    rw [(hblank hcompile).1, (hblank hcompile).2, (hblank hcompile').1, (hblank hcompile').2, hne]
    exact ⟨rfl, .nil, .nil⟩
  · obtain ⟨box, strokes, hbox, hplaces, -, hlines⟩ := compile_eq_ok hcompile hne
    obtain ⟨strokes', hplaces', -, hlines'⟩ := exists_strokes_of_compile hcompile' hbox
    obtain ⟨q, q', hq, hq', hunits⟩ := Settings.scale_twice htwice hlarge
    rw [hq] at hplaces
    rw [hq'] at hplaces'
    have hstrokes := hplaces.doublesTo hunits hplaces'
    rw [hlines, hlines']
    refine ⟨?_, drawsTwice_strokesProgram hstrokes, keepsTravel_strokesProgram hstrokes⟩
    rw [filter_strokesProgram, List.length_map, hplaces.length_eq]

def twofold : Settings :=
  { Settings.standard with
    scalePercent := 200
    scale_finite := by decide +kernel
    scale_pos := by decide +kernel }

def stepped : Draft :=
  (new .standard).record ⟨0, 0, 10, 0⟩
    |>.record ⟨.double (.ofDecimal false 10008 (-3)), 0, 20, 0⟩
    |>.record ⟨4, 4, 6, .double 6⟩

-- The gap is not worth a travel until it is doubled.
theorem rebuild_twice_stepped :
    twofold.scalePercent = 2 * stepped.settings.scalePercent ∧
      .ofDecimal false 1 (-300) ≤ stepped.settings.scalePercent ∧
      List.Forall₂ Line.DrawsTwice (stepped.rebuild.1.lines.filter Line.isDraw)
        ((stepped.configure twofold).rebuild.1.lines.filter Line.isDraw) ∧
      List.Forall₂ Line.KeepsTravel (gaps Line.isDraw stepped.rebuild.1.lines)
        (gaps Line.isDraw (stepped.configure twofold).rebuild.1.lines) ∧
      (gaps Line.isDraw stepped.rebuild.1.lines).map (·.any Line.isTravel) =
        [true, false, true] ∧
      (gaps Line.isDraw (stepped.configure twofold).rebuild.1.lines).map (·.any Line.isTravel) =
        [true, true, true] := by
  have htwice : twofold.scalePercent = 2 * stepped.settings.scalePercent := by decide +kernel
  have hlarge : .ofDecimal false 1 (-300) ≤ stepped.settings.scalePercent := by decide +kernel
  have hrebuild := rebuild_of_isOk (d := stepped) (by decide +kernel)
  have hrebuild' := rebuild_of_isOk (d := stepped.configure twofold) (by decide +kernel)
  obtain ⟨-, hdraws, htravels⟩ := rebuild_twice htwice hlarge hrebuild hrebuild'
  exact ⟨htwice, hlarge, hdraws, htravels, by decide +kernel, by decide +kernel⟩

end Draft

end PenPlotter
