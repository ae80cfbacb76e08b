import Mathlib.Data.Finset.Card
import Mathlib.Data.List.SplitBy
import PenPlotter.Program.Draft
import PenPlotter.Proofs.Drawing.Extent
import PenPlotter.Proofs.Except
import PenPlotter.Proofs.Replay.Recognition

/-!
# Tracing a drawing

A program is made of the strokes of a drawing: its segments, placed as a whole.  Between two strokes
the tool either travels or goes on in one chain; which of these happens is said here of the strokes
alone, without the lines that are written for them.
-/

set_option autoImplicit false

namespace PenPlotter

attribute [local irreducible] Tool.isAwayFrom

/-! ## 1. Strokes -/

namespace Stroke

def IsFinite (k : Stroke) : Prop :=
  k.x1.isFinite = true ∧ k.y1.isFinite = true ∧ k.x2.isFinite = true ∧ k.y2.isFinite = true

end Stroke

-- A product with a double is a double.
theorem Number.mul_double_eq_ok {n r : Number} {q : Double} :
    n.mul (.double q) = .ok r ↔ ∃ x, n.toDouble = .ok x ∧ r = .double (x * q) := by
  have hmul : n.mul (.double q) = (n.toDouble >>= fun x => .ok (.double (x * q))) := by
    cases n <;> rfl
  rw [hmul, bind_eq_ok]
  simp only [Except.ok.injEq, eq_comm]

theorem Number.scaled_eq_ok {m n : Number} {q X : Double} :
    (m.sub n >>= (·.mul (.double q))) = .ok (.double X) ↔
      ∃ d a, m.sub n = .ok d ∧ d.toDouble = .ok a ∧ X = a * q := by
  simp only [bind_eq_ok, mul_double_eq_ok, double.injEq, exists_and_left]

def Placement.Places (p : Placement) (segments : List Segment) (strokes : List Stroke) : Prop :=
  List.Forall₂ (fun s k => p.stroke s = .ok k) segments strokes

namespace Placement

variable {p : Placement} {segments : List Segment} {strokes : List Stroke}

theorem stroke_eq_ok {s : Segment} {k : Stroke} (h : p.stroke s = .ok k) :
    (∃ x1 y1 x2 y2 : Number, p.apply s.x1 s.y1 = .ok (x1, y1) ∧ p.apply s.x2 s.y2 = .ok (x2, y2) ∧
      x1.toDouble = .ok k.x1 ∧ y1.toDouble = .ok k.y1 ∧ x2.toDouble = .ok k.x2 ∧
      y2.toDouble = .ok k.y2) ∧ k.IsFinite := by
  rw [stroke] at h
  split at h
  · cases h
  rename_i found hfound
  simp only [bind_eq_ok] at hfound
  obtain ⟨⟨x1, y1⟩, hstart, ⟨x2, y2⟩, hfinish, a1, hx1, b1, hy1, a2, hx2, b2, hy2, hends⟩ := hfound
  obtain rfl : Stroke.mk a1 b1 a2 b2 = found := by simpa [pure, Except.pure] using hends
  split at h
  · rename_i hfinite
    cases h
    simp only [Bool.and_eq_true] at hfinite
    obtain ⟨⟨⟨hfx1, hfy1⟩, hfx2⟩, hfy2⟩ := hfinite
    exact ⟨⟨_, _, _, _, hstart, hfinish, hx1, hy1, hx2, hy2⟩, hfx1, hfy1, hfx2, hfy2⟩
  · cases h

-- A placed point is a shifted point, scaled.
theorem apply_eq_ok {x y X Y : Number} (h : p.apply x y = .ok (X, Y)) :
    (x.sub p.xShift >>= (·.mul p.scale)) = .ok X ∧
      (y.neg.sub p.yShift >>= (·.mul p.scale)) = .ok Y := by
  simp only [apply, bind_eq_ok] at h
  obtain ⟨dx, hdx, gx, hgx, dy, hdy, gy, hgy, hpair⟩ := h
  cases hpair
  exact ⟨bind_eq_ok.2 ⟨dx, hdx, hgx⟩, bind_eq_ok.2 ⟨dy, hdy, hgy⟩⟩

/-- The ends of a stroke are its segment's points, placed. -/
theorem apply_of_stroke {q : Double} (hscale : p.scale = .double q) {s : Segment} {k : Stroke}
    (h : p.stroke s = .ok k) :
    p.apply s.x1 s.y1 = .ok (.double k.x1, .double k.y1) ∧
      p.apply s.x2 s.y2 = .ok (.double k.x2, .double k.y2) := by
  obtain ⟨⟨x1, y1, x2, y2, hstart, hfinish, hx1, hy1, hx2, hy2⟩, -⟩ := stroke_eq_ok h
  -- The scale is a double, so what is scaled is one already and is not converted again.
  have hdouble {n r : Number} {x : Double} (hn : (n.sub p.xShift >>= (·.mul p.scale)) = .ok r ∨
      (n.sub p.yShift >>= (·.mul p.scale)) = .ok r) (hx : r.toDouble = .ok x) : r = .double x := by
    obtain ⟨d, hd⟩ : ∃ d : Number, d.mul p.scale = .ok r := by
      rcases hn with hn | hn
      all_goals
        obtain ⟨d, -, hd⟩ := bind_eq_ok.1 hn
        exact ⟨d, hd⟩
    rw [hscale] at hd
    obtain ⟨a, -, rfl⟩ := Number.mul_double_eq_ok.1 hd
    rw [Except.ok.inj hx]
  obtain ⟨hX1, hY1⟩ := apply_eq_ok hstart
  obtain ⟨hX2, hY2⟩ := apply_eq_ok hfinish
  rw [hstart, hfinish, hdouble (.inl hX1) hx1, hdouble (.inr hY1) hy1, hdouble (.inl hX2) hx2,
    hdouble (.inr hY2) hy2]
  exact ⟨rfl, rfl⟩

theorem Places.isFinite (h : p.Places segments strokes) : ∀ k ∈ strokes, k.IsFinite := by
  induction h with
  | nil => simp
  | cons hk _ ih => exact List.forall_mem_cons.2 ⟨(stroke_eq_ok hk).2, ih⟩

theorem Places.exists_stroke (h : p.Places segments strokes) {s : Segment} (hs : s ∈ segments) :
    ∃ k ∈ strokes, p.stroke s = .ok k := by
  induction h with
  | nil => cases hs
  | @cons first k rest ks hk _ ih =>
    rcases List.mem_cons.1 hs with rfl | hs
    · exact ⟨k, List.mem_cons_self, hk⟩
    · obtain ⟨k', hmem, hk'⟩ := ih hs
      exact ⟨k', List.mem_cons_of_mem k hmem, hk'⟩

theorem Places.exists_segment (h : p.Places segments strokes) {k : Stroke} (hk : k ∈ strokes) :
    ∃ s ∈ segments, p.stroke s = .ok k := by
  induction h with
  | nil => cases hk
  | @cons s first rest ks hs _ ih =>
    rcases List.mem_cons.1 hk with rfl | hk
    · exact ⟨s, List.mem_cons_self, hs⟩
    · obtain ⟨s', hmem, hs'⟩ := ih hk
      exact ⟨s', List.mem_cons_of_mem s hmem, hs'⟩

end Placement

/-! ## 2. The tool between strokes -/

def toleranceRank : Fin rankLimit :=
  ⟨Double.nearestRank (1 * Double.unitsPerOne) 100, by decide +kernel⟩

theorem positionTolerance_eq : positionTolerance = .finite false toleranceRank := by decide +kernel

def Line.goal? : Line → Option (Double × Double)
  | .travel x y | .draw x y _ => some (x, y)
  | _ => none

namespace Tool

variable {settings : Settings} {t : Tool} {strokes : List Stroke} {k : Stroke}

def after (t : Tool) (strokes : List Stroke) : Tool :=
  strokes.foldl (fun _ k => ⟨k.x2, k.y2, true⟩) t

@[simp] theorem after_nil : t.after [] = t := rfl

@[simp] theorem after_singleton : t.after [k] = ⟨k.x2, k.y2, true⟩ := rfl

@[simp] theorem after_append_singleton : t.after (strokes ++ [k]) = ⟨k.x2, k.y2, true⟩ := by
  simp [after]

theorem penDown_after (hne : strokes ≠ []) : (t.after strokes).penDown = true := by
  rw [← List.dropLast_append_getLast hne, after_append_singleton]

def traceStrokes (settings : Settings) (t : Tool) : List Stroke → List Line
  | [] => []
  | k :: rest => (t.trace settings k).1 ++ (t.trace settings k).2.traceStrokes settings rest

theorem trace_snd : (t.trace settings k).2 = ⟨k.x2, k.y2, true⟩ := by
  rw [trace]

/-- The lines that make the tool ready to draw: the pen is lifted for a travel only, and lowered
unless it is down. -/
def prepare (settings : Settings) (t : Tool) (k : Stroke) : List Line :=
  if t.isAwayFrom k.x1 k.y1 then
    (if t.penDown then [Line.penUp settings.penUp] else []) ++
      ([Line.travel k.x1 k.y1] ++ [Line.penDown settings.penDown])
  else if t.penDown then [] else [.penDown settings.penDown]

theorem trace_fst :
    (t.trace settings k).1 =
      t.prepare settings k ++ [Line.draw k.x2 k.y2 settings.feedRate] := by
  by_cases haway : t.isAwayFrom k.x1 k.y1 = true
  · simp [trace, approach, prepare, haway]
  · simp [trace, approach, prepare, haway]

theorem after_cons : t.after (k :: strokes) = (t.trace settings k).2.after strokes := by
  rw [trace_snd]
  rfl

theorem traceStrokes_append_singleton :
    t.traceStrokes settings (strokes ++ [k]) =
      t.traceStrokes settings strokes ++ ((t.after strokes).trace settings k).1 := by
  induction strokes generalizing t with
  | nil => simp [traceStrokes]
  | cons first rest ih =>
    rw [List.cons_append, traceStrokes, ih, traceStrokes, List.append_assoc, after_cons]

-- The moves for a stroke lead to its start and its end.
theorem goal_of_mem_trace {line : Line} (hline : line ∈ (t.trace settings k).1) {x y : Double}
    (hgoal : line.goal? = some (x, y)) : (x = k.x1 ∧ y = k.y1) ∨ (x = k.x2 ∧ y = k.y2) := by
  have hprepare : ∀ line ∈ t.prepare settings k,
      line.goal? = none ∨ line.goal? = some (k.x1, k.y1) := by
    unfold prepare
    split <;> split <;> simp [Line.goal?]
  rw [trace_fst, List.mem_append, List.mem_singleton] at hline
  rcases hline with hmem | rfl
  · exact .inl (by simpa [hgoal] using hprepare line hmem)
  · cases hgoal
    exact .inr ⟨rfl, rfl⟩

theorem goal_of_mem_traceStrokes {line : Line} (hline : line ∈ t.traceStrokes settings strokes)
    {x y : Double} (hgoal : line.goal? = some (x, y)) :
    ∃ k ∈ strokes, (x = k.x1 ∧ y = k.y1) ∨ (x = k.x2 ∧ y = k.y2) := by
  induction strokes generalizing t with
  | nil => cases hline
  | cons k rest ih =>
    rw [traceStrokes, List.mem_append] at hline
    rcases hline with hmem | hmem
    · exact ⟨k, List.mem_cons_self, goal_of_mem_trace hmem hgoal⟩
    · obtain ⟨k', hk', hends⟩ := ih hmem
      exact ⟨k', List.mem_cons_of_mem k hk', hends⟩

theorem traceAll_eq_ok {p : Placement} {t' : Tool} {segments : List Segment} {lines : List Line}
    (h : t.traceAll settings p segments = (t', .ok lines)) :
    ∃ strokes, p.Places segments strokes ∧ lines = t.traceStrokes settings strokes ∧
      t' = t.after strokes := by
  -- The tool that a stroke leaves behind is the one that the next is traced with.
  induction segments generalizing t t' lines with
  | nil =>
    obtain ⟨rfl, rfl⟩ : t = t' ∧ [] = lines := by simpa [traceAll] using h
    exact ⟨[], .nil, rfl, rfl⟩
  | cons s rest ih =>
    rw [traceAll] at h
    cases hk : p.stroke s with
    | error e => simp [hk] at h
    | ok k =>
      simp only [hk] at h
      split at h
      · cases hrest : (t.trace settings k).2.traceAll settings p rest with
        | mk last others =>
          rw [hrest] at h
          cases others with
          | error e => simp [Except.map] at h
          | ok others =>
            obtain ⟨rfl, rfl⟩ : last = t' ∧ (t.trace settings k).1 ++ others = lines := by
              simpa [Except.map] using h
            obtain ⟨strokes, hplaces, rfl, rfl⟩ := ih hrest
            exact ⟨k :: strokes, .cons hk hplaces, rfl, after_cons.symm⟩
      · cases h

theorem traceAll_of_places {p : Placement} {segments : List Segment}
    (hfeed : settings.isWritable = true) (h : p.Places segments strokes) :
    t.traceAll settings p segments = (t.after strokes, .ok (t.traceStrokes settings strokes)) := by
  induction h generalizing t with
  | nil => rfl
  | cons hk _ ih =>
    rw [traceAll, hk]
    simp only [hfeed, if_true, ih, traceStrokes]
    rfl

-- Where something is drawn, the feed is written.
theorem isWritable_of_traceAll {p : Placement} {t' : Tool} {segments : List Segment}
    {lines : List Line} (h : t.traceAll settings p segments = (t', .ok lines))
    (hne : segments ≠ []) : settings.isWritable = true := by
  cases segments with
  | nil => exact absurd rfl hne
  | cons s rest =>
    rw [traceAll] at h
    split at h
    · cases h
    · split at h
      · assumption
      · cases h

end Tool

/-! ## 3. Programs -/

section Programs

variable {settings : Settings}

theorem Tool.fits_of_mem_trace {t : Tool} {k : Stroke} (hk : k.IsFinite) :
    ∀ line ∈ (t.trace settings k).1, line.Fits settings := by
  obtain ⟨hx1, hy1, hx2, hy2⟩ := hk
  have hdraw : (Line.draw k.x2 k.y2 settings.feedRate).Fits settings := ⟨hx2, hy2, rfl⟩
  have htravel : (Line.travel k.x1 k.y1).Fits settings := ⟨hx1, hy1⟩
  have hdown : (Line.penDown settings.penDown).Fits settings := rfl
  have hup : (Line.penUp settings.penUp).Fits settings := rfl
  rw [trace_fst, prepare]
  split <;> cases t.penDown <;> simp [hdraw, htravel, hdown, hup]

theorem Tool.fits_of_mem_traceStrokes {t : Tool} {strokes : List Stroke}
    (hfinite : ∀ k ∈ strokes, k.IsFinite) :
    ∀ line ∈ t.traceStrokes settings strokes, line.Fits settings := by
  induction strokes generalizing t with
  | nil => simp [traceStrokes]
  | cons k rest ih =>
    obtain ⟨hk, hrest⟩ := List.forall_mem_cons.1 hfinite
    rw [traceStrokes, List.forall_mem_append]
    exact ⟨fits_of_mem_trace hk, ih hrest⟩

theorem fits_of_mem_header : ∀ line ∈ header settings, line.Fits settings := by
  simp [header, Line.Fits]

theorem fits_of_mem_closing : ∀ line ∈ closing settings, line.Fits settings := by
  simp [closing, Line.Fits]

def strokesProgram (settings : Settings) (strokes : List Stroke) : List Line :=
  header settings ++ (Tool.atRest.traceStrokes settings strokes ++ [Line.penUp settings.penUp]) ++
    closing settings

theorem fits_of_mem_strokesProgram (settings : Settings) {strokes : List Stroke}
    (hfinite : ∀ k ∈ strokes, k.IsFinite) :
    ∀ line ∈ strokesProgram settings strokes, line.Fits settings := by
  have hup : (Line.penUp settings.penUp).Fits settings := rfl
  intro line hline
  simp only [strokesProgram, List.mem_append, List.mem_singleton] at hline
  rcases hline with (h | h | rfl) | h
  · exact fits_of_mem_header line h
  · exact Tool.fits_of_mem_traceStrokes hfinite line h
  · exact hup
  · exact fits_of_mem_closing line h

-- The first stroke has the pen lowered, and is drawn.
theorem mem_strokesProgram (settings : Settings) (k : Stroke) (rest : List Stroke) :
    .penDown settings.penDown ∈ strokesProgram settings (k :: rest) ∧
      .draw k.x2 k.y2 settings.feedRate ∈ strokesProgram settings (k :: rest) := by
  have hlower : .penDown settings.penDown ∈ Tool.atRest.prepare settings k := by
    rw [Tool.prepare, show Tool.atRest.penDown = false from rfl]
    split <;> simp
  rw [strokesProgram, Tool.traceStrokes, Tool.trace_fst]
  simp [hlower]

theorem goal_of_mem_strokesProgram {strokes : List Stroke} {line : Line}
    (hline : line ∈ strokesProgram settings strokes) {x y : Double}
    (hgoal : line.goal? = some (x, y)) :
    ∃ k ∈ strokes, (x = k.x1 ∧ y = k.y1) ∨ (x = k.x2 ∧ y = k.y2) := by
  -- Only the lines of strokes have a goal.
  have hother : ∀ other ∈ header settings ++ (.penUp settings.penUp :: closing settings),
      other.goal? = none := by
    simp [header, closing, Line.goal?]
  simp only [strokesProgram, List.mem_append, List.mem_singleton] at hline
  rcases hline with (h | h | rfl) | h
  · simp [hother line (by simp [h])] at hgoal
  · exact Tool.goal_of_mem_traceStrokes h hgoal
  · cases hgoal
  · simp [hother line (by simp [h])] at hgoal

/-- A drawing is compiled to the program of its strokes. -/
theorem compile_eq_ok {segments : List Segment} {t : Tool} {lines : List Line}
    (h : compile settings segments = (t, .ok lines)) (hne : segments ≠ []) :
    ∃ box strokes, Extent.of? segments = some box ∧
      (Placement.grounding box settings.scale).Places segments strokes ∧ strokes ≠ [] ∧
      lines = strokesProgram settings strokes := by
  have hbox := Extent.of?_of_ne_nil hne
  rw [compile, body, hbox] at h
  simp only at h
  generalize segments.foldl Extent.widen Extent.nothing = box at *
  cases htrace : Tool.atRest.traceAll settings (.grounding box settings.scale) segments with
  | mk last found =>
    rw [htrace] at h
    cases found with
    | error e => simp [Except.map] at h
    | ok found =>
      obtain ⟨strokes, hplaces, rfl, rfl⟩ := Tool.traceAll_eq_ok htrace
      have hstrokes : strokes ≠ [] := by
        rintro rfl
        cases hplaces
        exact hne rfl
      -- After a stroke the pen is down, so it is lifted before the program closes.
      have hdown := Tool.penDown_after (t := .atRest) hstrokes
      obtain ⟨-, rfl⟩ : _ ∧ strokesProgram settings strokes = lines := by
        simpa [Except.map, hdown, strokesProgram] using h
      exact ⟨box, strokes, hbox, hplaces, hstrokes, rfl⟩

theorem exists_strokes_of_compile {segments : List Segment} {box : Extent} {t : Tool}
    {lines : List Line} (h : compile settings segments = (t, .ok lines))
    (hbox : Extent.of? segments = some box) :
    ∃ strokes, (Placement.grounding box settings.scale).Places segments strokes ∧ strokes ≠ [] ∧
      lines = strokesProgram settings strokes := by
  have hne : segments ≠ [] := by
    rintro rfl
    cases hbox
  obtain ⟨found, strokes, hfound, hstrokes⟩ := compile_eq_ok h hne
  obtain rfl := Option.some.inj (hbox.symm.trans hfound)
  exact ⟨strokes, hstrokes⟩

theorem isWritable_of_compile {segments : List Segment} {t : Tool} {lines : List Line}
    (h : compile settings segments = (t, .ok lines)) (hne : segments ≠ []) :
    settings.isWritable = true := by
  rw [compile, body, Extent.of?_of_ne_nil hne] at h
  simp only at h
  generalize segments.foldl Extent.widen Extent.nothing = box at h
  cases htrace : Tool.atRest.traceAll settings (.grounding box settings.scale) segments with
  | mk last found =>
    rw [htrace] at h
    cases found with
    | error e => simp [Except.map] at h
    | ok found => exact Tool.isWritable_of_traceAll htrace hne

-- What can be placed is compiled, if its feed can be written.
theorem compile_of_places {segments : List Segment} {box : Extent} {strokes : List Stroke}
    (hfeed : settings.isWritable = true) (hbox : Extent.of? segments = some box)
    (hplaces : (Placement.grounding box settings.scale).Places segments strokes) :
    ∃ t, compile settings segments = (t, .ok (strokesProgram settings strokes)) := by
  have hstrokes : strokes ≠ [] := by
    rintro rfl
    cases hplaces
    cases hbox
  have hdown := Tool.penDown_after (t := .atRest) hstrokes
  refine ⟨{ Tool.atRest.after strokes with penDown := false }, ?_⟩
  unfold compile body
  rw [hbox]
  simp only [Tool.traceAll_of_places hfeed hplaces, hdown, if_true]
  rfl

theorem compile_nil (settings : Settings) :
    compile settings [] = (.atRest, .ok (header settings ++ [Line.noDrawing] ++ closing settings)) :=
  rfl

-- Whether something is drawn or not, a program ends in its closing lines.
theorem exists_front_of_compile {segments : List Segment} {t : Tool} {lines : List Line}
    (h : compile settings segments = (t, .ok lines)) :
    ∃ front, lines = front ++ closing settings ∧ ∀ line ∈ lines, line.Fits settings := by
  by_cases hne : segments = []
  · rw [hne, compile_nil] at h
    obtain rfl : header settings ++ [Line.noDrawing] ++ closing settings = lines := by
      simpa using congrArg Prod.snd h
    refine ⟨_, rfl, ?_⟩
    simp only [List.forall_mem_append, List.forall_mem_singleton]
    exact ⟨⟨fits_of_mem_header, trivial⟩, fits_of_mem_closing⟩
  · obtain ⟨box, strokes, -, hplaces, -, rfl⟩ := compile_eq_ok h hne
    exact ⟨_, rfl, fits_of_mem_strokesProgram settings hplaces.isFinite⟩

end Programs

/-! ## 4. Drawings without a program -/

theorem Placement.stroke_eq_error {p : Placement} {s : Segment} {e : Trouble}
    (h : p.stroke s = .error e) : e = .overflow ∨ e = .notFinite s := by
  rw [stroke] at h
  split at h
  · exact .inl (Except.error.inj h).symm
  · split at h
    · cases h
    · exact .inr (Except.error.inj h).symm

/-- Why a drawing is not traced: a segment of it cannot be placed, or the first can, but the feed
cannot be written. -/
def Placement.Breaks (p : Placement) (settings : Settings) (segments : List Segment)
    (e : Trouble) : Prop :=
  (∃ s ∈ segments, p.stroke s = .error e) ∨
    (settings.isWritable = false ∧ e = .longFeed ∧
      ∃ s ∈ segments.head?, (p.stroke s).isOk = true)

theorem Tool.breaks_of_traceAll_error {settings : Settings} {p : Placement} {t t' : Tool}
    {segments : List Segment} {e : Trouble}
    (h : t.traceAll settings p segments = (t', .error e)) : p.Breaks settings segments e := by
  induction segments generalizing t t' with
  | nil => cases h
  | cons s rest ih =>
    rw [traceAll] at h
    split at h
    · next e' hstroke =>
      obtain ⟨-, he⟩ := Prod.mk.inj h
      obtain rfl := Except.error.inj he
      exact .inl ⟨s, List.mem_cons_self, hstroke⟩
    · next k hstroke =>
      split at h
      · next hfeed =>
        cases hrest : (t.trace settings k).2.traceAll settings p rest with
        | mk t'' others =>
          simp only [hrest] at h
          obtain ⟨-, he⟩ := Prod.mk.inj h
          cases others with
          | ok lines => cases he
          | error e' =>
            obtain rfl := Except.error.inj he
            rcases ih hrest with ⟨s', hs', hstroke'⟩ | ⟨hlong, -⟩
            · exact .inl ⟨s', List.mem_cons_of_mem s hs', hstroke'⟩
            · rw [hfeed] at hlong
              cases hlong
      · next hfeed =>
        obtain ⟨-, he⟩ := Prod.mk.inj h
        obtain rfl := Except.error.inj he
        exact .inr ⟨Bool.eq_false_of_not_eq_true hfeed, rfl, s, rfl, by rw [hstroke]; rfl⟩

theorem exists_breaks_of_compile_error {settings : Settings} {segments : List Segment} {t : Tool}
    {e : Trouble} (h : compile settings segments = (t, .error e)) :
    ∃ box, Extent.of? segments = some box ∧
      (Placement.grounding box settings.scale).Breaks settings segments e := by
  unfold compile body at h
  cases hbox : Extent.of? segments with
  | none => simp [hbox, Except.map] at h
  | some box =>
    rw [hbox] at h
    refine ⟨box, rfl, ?_⟩
    cases htrace : Tool.atRest.traceAll settings (.grounding box settings.scale) segments with
    | mk last found =>
      simp only [htrace] at h
      cases found with
      | ok lines => simp [Except.map] at h
      | error e' =>
        obtain ⟨-, rfl⟩ : last = t ∧ e' = e := by simpa [Except.map] using h
        exact Tool.breaks_of_traceAll_error htrace

/-- The feed is in the way of a drawing whose first segment can be placed. -/
theorem compile_eq_longFeed_iff {settings : Settings} {segments : List Segment} :
    (compile settings segments).2 = .error .longFeed ↔
      settings.isWritable = false ∧ ∃ box, Extent.of? segments = some box ∧
        ∃ s ∈ segments.head?, ((Placement.grounding box settings.scale).stroke s).isOk = true := by
  constructor
  · intro h
    obtain ⟨box, hbox, ⟨s, hs, hstroke⟩ | ⟨hfeed, -, hfirst⟩⟩ :=
      exists_breaks_of_compile_error (Prod.ext rfl h)
    · obtain hlarge | hfinite := Placement.stroke_eq_error hstroke
      · cases hlarge
      · cases hfinite
    · exact ⟨hfeed, box, hbox, hfirst⟩
  · rintro ⟨hfeed, box, hbox, s, hs, hstroke⟩
    obtain ⟨k, hk⟩ := isOk_iff.1 hstroke
    cases segments with
    | nil => cases hs
    | cons first rest =>
      obtain rfl := Option.some.inj hs
      rw [compile, body, hbox]
      simp only [Tool.traceAll, hk, hfeed]
      rfl

-- The segment that is named in an error is one of the drawing.
theorem mem_of_compile_error {settings : Settings} {segments : List Segment} {t : Tool} {s : Segment}
    (h : compile settings segments = (t, .error (.notFinite s))) : s ∈ segments := by
  obtain ⟨box, -, ⟨s', hs', hstroke⟩ | ⟨-, hfeed, -⟩⟩ := exists_breaks_of_compile_error h
  · obtain hlarge | hsame := Placement.stroke_eq_error hstroke
    · cases hlarge
    · rwa [Trouble.notFinite.inj hsame]
  · cases hfeed

/-! ## 5. Travelling and chaining -/

section Chains

variable {strokes : List Stroke} {k : Stroke}

/-- The strokes, by number, to whose start the tool has to travel: from where the stroke before ends,
or from the origin. -/
def travelled (strokes : List Stroke) : Finset Nat :=
  (Finset.range strokes.length).filter fun i =>
    strokes[i]?.any (fun k => (Tool.atRest.after (strokes.take i)).isAwayFrom k.x1 k.y1) = true

theorem mem_travelled {i : Nat} :
    i ∈ travelled strokes ↔
      ∃ k, strokes[i]? = some k ∧ (Tool.atRest.after (strokes.take i)).isAwayFrom k.x1 k.y1 = true := by
  simp only [travelled, Finset.mem_filter, Finset.mem_range, Option.any_eq_true]
  constructor
  · rintro ⟨-, k, hk, haway⟩
    exact ⟨k, hk, haway⟩
  · rintro ⟨k, hk, haway⟩
    exact ⟨(List.getElem?_eq_some_iff.1 hk).1, k, hk, haway⟩

theorem length_notMem_travelled (strokes : List Stroke) : strokes.length ∉ travelled strokes := by
  simp [travelled]

theorem travelled_append_singleton (strokes : List Stroke) (k : Stroke) :
    travelled (strokes ++ [k]) =
      if (Tool.atRest.after strokes).isAwayFrom k.x1 k.y1 then
        insert strokes.length (travelled strokes)
      else travelled strokes := by
  have hlast : strokes.length ∈ travelled (strokes ++ [k]) ↔
      (Tool.atRest.after strokes).isAwayFrom k.x1 k.y1 = true := by
    simp [mem_travelled]
  -- Strokes before the new one are asked for the same tool, and there is none after it.
  ext i
  rcases lt_trichotomy i strokes.length with hlt | rfl | hgt
  · have hkeep : i ∈ travelled (strokes ++ [k]) ↔ i ∈ travelled strokes := by
      rw [mem_travelled, mem_travelled, List.getElem?_append_left hlt,
        List.take_append_of_le_length hlt.le]
    split
    · rw [hkeep, Finset.mem_insert, or_iff_right hlt.ne]
    · exact hkeep
  · rw [hlast]
    split
    · simp [*]
    · simp [*, length_notMem_travelled]
  · have hout : i ∉ travelled (strokes ++ [k]) := by
      rw [travelled, Finset.mem_filter, Finset.mem_range, List.length_append, List.length_singleton]
      omega
    have hout' : i ∉ travelled strokes := by
      rw [travelled, Finset.mem_filter, Finset.mem_range]
      omega
    split
    · simp [hout, hout', hgt.ne']
    · simp [hout, hout']

theorem travelled_singleton :
    travelled [k] = if Tool.atRest.isAwayFrom k.x1 k.y1 then {0} else ∅ :=
  travelled_append_singleton [] k

/-- Whether the next stroke starts where a stroke ends, so that the pen stays down. -/
def Stroke.leadsTo (k next : Stroke) : Bool := !Tool.isAwayFrom ⟨k.x2, k.y2, true⟩ next.x1 next.y1

def chains (strokes : List Stroke) : List (List Stroke) := strokes.splitBy Stroke.leadsTo

theorem leadsTo_getLast (hne : strokes ≠ []) :
    (strokes.getLast hne).leadsTo k = !(Tool.atRest.after strokes).isAwayFrom k.x1 k.y1 := by
  have htool : Tool.atRest.after (strokes.dropLast ++ [strokes.getLast hne]) = _ :=
    Tool.after_append_singleton
  rw [List.dropLast_append_getLast] at htool
  rw [htool, Stroke.leadsTo]

theorem chains_append_of_away (hne : strokes ≠ [])
    (haway : (Tool.atRest.after strokes).isAwayFrom k.x1 k.y1 = true) :
    chains (strokes ++ [k]) = chains strokes ++ [[k]] := by
  rw [chains, List.splitBy_append_cons []]
  · rfl
  · intro last hlast
    rw [List.getLast?_eq_some_getLast hne, Option.mem_some_iff] at hlast
    rw [← hlast, leadsTo_getLast, haway]
    rfl

theorem exists_chains_append_of_near (hne : strokes ≠ [])
    (hnear : (Tool.atRest.after strokes).isAwayFrom k.x1 k.y1 = false) :
    ∃ front final, final ≠ [] ∧ chains strokes = front ++ [final] ∧
      chains (strokes ++ [k]) = front ++ [final ++ [k]] := by
  obtain ⟨front, final, hchains⟩ : ∃ front final, chains strokes = front ++ [final] :=
    ⟨_, _, (List.dropLast_append_getLast (List.splitBy_ne_nil.2 hne)).symm⟩
  obtain ⟨hflat, hnil, hchain, hbreak⟩ := List.splitBy_eq_iff.1 hchains
  have hfinal : final ≠ [] := fun h => hnil (by simp [h])
  have hlast : final.getLast hfinal = strokes.getLast hne := by
    have hend := congrArg List.getLast? hflat
    rw [List.flatten_append, List.flatten_singleton, List.getLast?_append_of_ne_nil _ hfinal,
      List.getLast?_eq_some_getLast hne, List.getLast?_eq_some_getLast hfinal] at hend
    exact (Option.some.inj hend).symm
  have hleads : (final.getLast hfinal).leadsTo k = true := by
    rw [hlast, leadsTo_getLast, hnear]
    rfl
  -- The last chain grows at its end, so where it is cut from the one before stays the same.
  refine ⟨front, final, hfinal, hchains, List.splitBy_eq_iff.2 ⟨?_, ?_, ?_, ?_⟩⟩
  · rw [hflat]
    simp
  · simpa [hfinal] using hnil
  · rw [List.forall_mem_append, List.forall_mem_singleton] at hchain ⊢
    refine ⟨hchain.1, hchain.2.append (.singleton k) ?_⟩
    simpa [List.getLast?_eq_some_getLast hfinal] using hleads
  · rw [List.isChain_append] at hbreak ⊢
    refine ⟨hbreak.1, .singleton _, fun x hx y hy => ?_⟩
    obtain ⟨hx', hy', hr⟩ := hbreak.2.2 x hx final rfl
    obtain rfl : final ++ [k] = y := by simpa using hy
    exact ⟨hx', by simp, by rw [List.head_append_of_ne_nil hfinal, hr]⟩

end Chains

/-! ## 6. Drafts -/

namespace Draft

theorem rebuild_eq_ok {d d' : Draft} {text : String} (h : d.rebuild = (d', .ok text)) :
    compile d.settings d.history.segments = (d'.tool, .ok d'.lines) ∧
      text = programText d'.lines := by
  rw [rebuild] at h
  split at h
  · rename_i tool lines hcompile
    cases h
    exact ⟨hcompile, rfl⟩
  · cases h

theorem rebuild_of_isOk {d : Draft} (h : (compile d.settings d.history.segments).2.isOk = true) :
    d.rebuild = (d.rebuild.1, .ok d.rebuild.1.text) := by
  rw [rebuild]
  split
  · rfl
  · rename_i hcompile
    rw [hcompile] at h
    cases h

def sample : Draft :=
  (((new .standard).record ⟨2, 3, 10, 3⟩).record ⟨10, 3, 10, 8⟩).record ⟨4, 4, 6, 6⟩

theorem rebuild_sample : sample.rebuild = (sample.rebuild.1, .ok sample.rebuild.1.text) :=
  rebuild_of_isOk (by decide +kernel)

end Draft

end PenPlotter
