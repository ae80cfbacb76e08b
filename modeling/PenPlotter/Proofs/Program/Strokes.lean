import PenPlotter.Proofs.Double.Value
import PenPlotter.Proofs.Drawing.Trail
import PenPlotter.Proofs.Program.Purity
import PenPlotter.Proofs.Program.Tracing

/-!
# Unbroken paths

Where a turtle goes on drawing, its next line starts at exactly the point where the last one ended.
Both are placed alike, whatever the placement is, so the tool is there already and draws on: nothing
at all stands between the two drawing lines of the program.
-/

set_option autoImplicit false

namespace PenPlotter

attribute [local irreducible] Tool.isAwayFrom

/-! ## 1. Gaps in a list -/

section Gaps

variable {α : Type} {p : α → Bool}

/-- What stands before each element with a property, back to the one before it. -/
def gaps (p : α → Bool) (l : List α) : List (List α) := (l.splitOnP p).dropLast

def between (p : α → Bool) (l : List α) : List (List α) := (gaps p l).tail

theorem gaps_of_forall {l : List α} (h : ∀ a ∈ l, p a = false) : gaps p l = [] := by
  rw [gaps, List.splitOnP_eq_singleton h]
  rfl

theorem gaps_append_cons {front : List α} (h : ∀ a ∈ front, p a = false) {a : α} (ha : p a = true)
    (l : List α) : gaps p (front ++ a :: l) = front :: gaps p l := by
  rw [gaps, List.splitOnP_append_cons_of_forall_mem h a ha,
    List.dropLast_cons_of_ne_nil (List.splitOnP_ne_nil p l)]
  rfl

theorem between_of_forall {l : List α} (h : ∀ a ∈ l, p a = false) : between p l = [] := by
  rw [between, gaps_of_forall h]
  rfl

theorem between_cons_of_pos {a : α} (ha : p a = true) (l : List α) :
    between p (a :: l) = gaps p l :=
  congrArg List.tail (gaps_append_cons (List.forall_mem_nil _) ha l)

theorem gaps_cons_of_neg {a : α} (ha : p a = false) (l : List α) :
    gaps p (a :: l) = (gaps p l).modifyHead (List.cons a) := by
  rw [gaps, gaps, List.splitOnP_cons_eq_if_modifyHead, if_neg (by simp [ha]),
    List.modifyHead_dropLast]

-- Other elements in front make the first gap longer.
theorem gaps_append {front : List α} (h : ∀ a ∈ front, p a = false) (l : List α) :
    gaps p (front ++ l) = (gaps p l).modifyHead (front ++ ·) := by
  induction front with
  | nil =>
    show gaps p l = (gaps p l).modifyHead id
    rw [List.modifyHead_id]
    rfl
  | cons a front ih =>
    obtain ⟨ha, hfront⟩ := List.forall_mem_cons.1 h
    rw [List.cons_append, gaps_cons_of_neg ha, ih hfront, List.modifyHead_modifyHead]
    rfl

-- What stands before the first such element is between no two of them.
theorem between_cons_of_neg {a : α} (ha : p a = false) (l : List α) :
    between p (a :: l) = between p l := by
  rw [between, gaps_cons_of_neg ha, List.tail_modifyHead, between]

theorem gaps_of_all {l : List α} (h : ∀ a ∈ l, p a = true) : ∀ gap ∈ gaps p l, gap = [] := by
  induction l with
  | nil => simp [gaps_of_forall]
  | cons a l ih =>
    obtain ⟨ha, hl⟩ := List.forall_mem_cons.1 h
    have hgaps : gaps p (a :: l) = [] :: gaps p l := gaps_append_cons (List.forall_mem_nil _) ha l
    rw [hgaps, List.forall_mem_cons]
    exact ⟨rfl, ih hl⟩

def Closes {β : Type} (gap : List α) (other : List β) : Prop := gap = [] → other = []

-- With one thing at most in each gap, there are at most as many as gaps that are open.
theorem countP_flatten_le {β : Type} {q : β → Bool} {ls : List (List α)} {others : List (List β)}
    (h : List.Forall₂ Closes ls others) (hone : ∀ other ∈ others, other.countP q ≤ 1) :
    others.flatten.countP q ≤ ls.countP (!·.isEmpty) := by
  induction h with
  | nil => simp
  | @cons gap other ls others hgap _ ih =>
    obtain ⟨hother, hothers⟩ := List.forall_mem_cons.1 hone
    have hrest := ih hothers
    rw [List.flatten_cons, List.countP_append, List.countP_cons]
    by_cases hnil : gap = []
    · rw [hgap hnil, hnil]
      simpa using hrest
    · rw [if_pos (by simpa using hnil)]
      omega

end Gaps

/-! ## 2. Between drawing lines -/

namespace Line

def isDraw : Line → Bool
  | .draw _ _ _ => true
  | _ => false

def isPenDown : Line → Bool
  | .penDown _ => true
  | _ => false

end Line

namespace Tool

variable {settings : Settings} {t : Tool} {k : Stroke} {strokes : List Stroke}

def prepares (settings : Settings) (t : Tool) : List Stroke → List (List Line)
  | [] => []
  | k :: rest => t.prepare settings k :: (t.trace settings k).2.prepares settings rest

theorem prepare_spec : (∀ line ∈ t.prepare settings k, line.isDraw = false) ∧
    (t.prepare settings k).countP Line.isPenDown ≤ 1 := by
  unfold prepare
  split <;> split <;> simp [Line.isDraw, Line.isPenDown]

theorem countP_le_of_mem_prepares {lines : List Line} (h : lines ∈ t.prepares settings strokes) :
    lines.countP Line.isPenDown ≤ 1 := by
  induction strokes generalizing t with
  | nil => cases h
  | cons k rest ih =>
    rcases List.mem_cons.1 h with rfl | h
    · exact prepare_spec.2
    · exact ih h

theorem gaps_traceStrokes {rest : List Line} (hrest : ∀ line ∈ rest, line.isDraw = false) :
    gaps Line.isDraw (t.traceStrokes settings strokes ++ rest) = t.prepares settings strokes := by
  induction strokes generalizing t with
  | nil => exact gaps_of_forall hrest
  | cons k strokes ih =>
    have hdraw : (Line.draw k.x2 k.y2 settings.feedRate).isDraw = true := rfl
    rw [traceStrokes, trace_fst, prepares, List.append_assoc, List.append_assoc,
      List.singleton_append, gaps_append_cons prepare_spec.1 hdraw, ih]

theorem countP_traceStrokes :
    (t.traceStrokes settings strokes).countP Line.isPenDown =
      (t.prepares settings strokes).flatten.countP Line.isPenDown := by
  induction strokes generalizing t with
  | nil => rfl
  | cons k rest ih =>
    rw [traceStrokes, trace_fst, prepares, List.flatten_cons, List.countP_append,
      List.countP_append, List.countP_append, ih]
    rfl

end Tool

section Programs

variable {settings : Settings} {strokes : List Stroke}

theorem isDraw_header : ∀ line ∈ header settings, line.isDraw = false := by
  simp [header, Line.isDraw]

theorem isDraw_ending :
    ∀ line ∈ [Line.penUp settings.penUp] ++ closing settings, line.isDraw = false := by
  simp [closing, Line.isDraw]

-- The header stands before the first stroke too.
theorem gaps_strokesProgram :
    gaps Line.isDraw (strokesProgram settings strokes) =
      (Tool.atRest.prepares settings strokes).modifyHead (header settings ++ ·) := by
  rw [strokesProgram, List.append_assoc, List.append_assoc, gaps_append isDraw_header,
    Tool.gaps_traceStrokes isDraw_ending]

theorem between_strokesProgram :
    between Line.isDraw (strokesProgram settings strokes) =
      (Tool.atRest.prepares settings strokes).tail := by
  rw [between, gaps_strokesProgram, List.tail_modifyHead]

theorem countP_strokesProgram :
    (strokesProgram settings strokes).countP Line.isPenDown =
      (Tool.atRest.prepares settings strokes).flatten.countP Line.isPenDown := by
  have hheader : (header settings).countP Line.isPenDown = 0 := rfl
  have hclosing : (closing settings).countP Line.isPenDown = 0 := rfl
  have hup : [Line.penUp settings.penUp].countP Line.isPenDown = 0 := rfl
  rw [strokesProgram, List.countP_append, List.countP_append, List.countP_append, hheader, hclosing,
    hup, Tool.countP_traceStrokes]
  omega

end Programs

/-! ## 3. Going on from where the pen is -/

theorem Double.sub_self_of_isFinite {x : Double} (hx : x.isFinite = true) :
    ∃ s, x - x = .ofRank s 0 := by
  obtain ⟨s, r, rfl⟩ := isFinite_iff.1 hx
  obtain ⟨sign, hsub, -⟩ := sub_eq_ofRank s s r r
  refine ⟨sign, ?_⟩
  rw [hsub, Int.sub_self, Int.natAbs_zero, nearestRank_zero]

theorem not_tolerance_lt_zero (s : Bool) : ¬positionTolerance < (Double.ofRank s 0).abs := by
  cases s <;> decide +kernel

-- Nobody travels to where they are.
theorem Tool.isAwayFrom_self {t : Tool} (hx : t.x.isFinite = true) (hy : t.y.isFinite = true) :
    t.isAwayFrom t.x t.y = false := by
  obtain ⟨s, hs⟩ := Double.sub_self_of_isFinite hx
  obtain ⟨s', hs'⟩ := Double.sub_self_of_isFinite hy
  rw [isAwayFrom, hs, hs', decide_eq_false (not_tolerance_lt_zero s),
    decide_eq_false (not_tolerance_lt_zero s')]
  rfl

structure Tool.StandsAt (t : Tool) (p : Placement) (point : Double × Double) : Prop where
  penDown : t.penDown = true
  finite : t.x.isFinite = true ∧ t.y.isFinite = true
  place : p.apply (.double point.1) (.double point.2) = .ok (.double t.x, .double t.y)

theorem Tool.StandsAt.prepare_eq_nil {settings : Settings} {t : Tool} {p : Placement}
    {point : Double × Double} (h : t.StandsAt p point) {k : Stroke}
    (hk : p.apply (.double point.1) (.double point.2) = .ok (.double k.x1, .double k.y1)) :
    t.prepare settings k = [] := by
  obtain ⟨hx, hy⟩ : t.x = k.x1 ∧ t.y = k.y1 := by simpa [hk] using h.place.symm
  rw [Tool.prepare, ← hx, ← hy, Tool.isAwayFrom_self h.finite.1 h.finite.2,
    if_neg Bool.false_ne_true, if_pos h.penDown]

section Walks

variable {settings : Settings} {p : Placement} {q : Double} {ms : List Motion}
  {strokes : List Stroke} {a b : Double × Double}

theorem standsAt_of_stroke (hscale : p.scale = .double q) {m : Motion} {k : Stroke}
    (hk : p.stroke m.segment = .ok k) (t : Tool) :
    (t.trace settings k).2.StandsAt p (m.x2, m.y2) := by
  rw [Tool.trace_snd]
  obtain ⟨-, -, hx, hy⟩ := (Placement.stroke_eq_ok hk).2
  exact ⟨rfl, ⟨hx, hy⟩, (Placement.apply_of_stroke hscale hk).2⟩

/-- From a drawing on, each stroke with no motion in the gap before it is drawn on at once. -/
theorem closes_gaps (hscale : p.scale = .double q) {t : Tool} {front : List Motion}
    (hfront : ∀ m ∈ front, m.drawn = false) (hstands : front = [] → t.StandsAt p a)
    (hlead : Motion.Lead a ms b)
    (hplaces : p.Places ((ms.filter Motion.drawn).map Motion.segment) strokes) :
    List.Forall₂ Closes (gaps Motion.drawn (front ++ ms)) (t.prepares settings strokes) := by
  -- The motions in the gap that is open so far are kept in front; with the first of them the tool
  -- need not be where the turtle is any more.
  induction ms generalizing t front a strokes with
  | nil =>
    cases hplaces
    rw [List.append_nil, gaps_of_forall hfront]
    exact .nil
  | cons m ms ih =>
    obtain ⟨rfl, hlead⟩ := hlead
    cases hm : m.drawn with
    | false =>
      have hfront' : ∀ d ∈ front ++ [m], d.drawn = false := by
        rw [List.forall_mem_append, List.forall_mem_singleton]
        exact ⟨hfront, hm⟩
      rw [List.filter_cons_of_neg (by simp [hm])] at hplaces
      have hrest := ih (t := t) hfront' (by simp) hlead hplaces
      rwa [List.append_assoc, List.singleton_append] at hrest
    | true =>
      rw [List.filter_cons_of_pos hm, List.map_cons] at hplaces
      obtain ⟨k, rest, hk, hrest, rfl⟩ := List.forall₂_cons_left_iff.1 hplaces
      rw [gaps_append_cons hfront hm, Tool.prepares]
      constructor
      · intro hnil
        exact (hstands hnil).prepare_eq_nil (Placement.apply_of_stroke hscale hk).1
      · exact ih (List.forall_mem_nil _) (fun _ => standsAt_of_stroke hscale hk t) hlead hrest

theorem closes_between (hscale : p.scale = .double q) {t : Tool} (hlead : Motion.Lead a ms b)
    (hplaces : p.Places ((ms.filter Motion.drawn).map Motion.segment) strokes) :
    List.Forall₂ Closes (between Motion.drawn ms) (t.prepares settings strokes).tail := by
  induction ms generalizing a with
  | nil =>
    cases hplaces
    exact .nil
  | cons m ms ih =>
    obtain ⟨rfl, hlead⟩ := hlead
    cases hm : m.drawn with
    | false =>
      rw [List.filter_cons_of_neg (by simp [hm])] at hplaces
      rw [between_cons_of_neg hm]
      exact ih hlead hplaces
    | true =>
      rw [List.filter_cons_of_pos hm, List.map_cons] at hplaces
      obtain ⟨k, rest, hk, hrest, rfl⟩ := List.forall₂_cons_left_iff.1 hplaces
      rw [between_cons_of_pos hm]
      exact closes_gaps hscale (List.forall_mem_nil _)
        (fun _ => standsAt_of_stroke hscale hk t) hlead hrest

/-- A walk that is compiled: nothing is written where no motion lies between two that are drawn, and the
pen is lowered once and then at most once in each gap. -/
theorem compile_walk {t t' : Turtle} (hwalks : t.Walks ms t') (hlines : t.lines = []) {tool : Tool}
    {lines : List Line} (h : compile settings t'.lines = (tool, .ok lines)) :
    List.Forall₂ Closes (between Motion.drawn ms) (between Line.isDraw lines) ∧
      lines.countP Line.isPenDown ≤ 1 + (between Motion.drawn ms).countP (!·.isEmpty) ∧
      (t'.lines ≠ [] → 0 < lines.countP Line.isPenDown) := by
  have hdrawn : t'.lines = (ms.filter Motion.drawn).map Motion.segment := by
    rw [hwalks.lines, hlines, List.nil_append]
  by_cases hne : t'.lines = []
  · rw [hne, compile_nil] at h
    obtain ⟨-, hlines⟩ := Prod.mk.inj h
    obtain rfl := Except.ok.inj hlines
    have hnone : ∀ m ∈ ms, m.drawn = false := by
      simpa [hne, List.filter_eq_nil_iff] using hdrawn.symm
    rw [between_of_forall hnone]
    exact ⟨.nil, Nat.zero_le _, fun hne' => absurd hne hne'⟩
  · obtain ⟨box, strokes, -, hplaces, hstrokes, rfl⟩ := compile_eq_ok h hne
    rw [hdrawn] at hplaces
    have hcloses : List.Forall₂ Closes (between Motion.drawn ms)
        (Tool.atRest.prepares settings strokes).tail := closes_between rfl hwalks.leads hplaces
    obtain ⟨k, rest, rfl⟩ := List.exists_cons_of_ne_nil hstrokes
    have hrest := countP_flatten_le hcloses fun lines hmem =>
      Tool.countP_le_of_mem_prepares (List.mem_of_mem_tail hmem)
    have hfirst : (Tool.atRest.prepare settings k).countP Line.isPenDown ≤ 1 := Tool.prepare_spec.2
    refine ⟨by rwa [between_strokesProgram], ?_, fun _ => ?_⟩
    · rw [countP_strokesProgram, Tool.prepares, List.flatten_cons, List.countP_append]
      rw [Tool.prepares, List.tail_cons] at hrest
      omega
    · exact List.countP_pos_iff.2 ⟨_, (mem_strokesProgram settings k rest).1, rfl⟩

end Walks

/-! ## 4. Turtles and patterns -/

section Ahead

theorem Turtle.measure_int {n : Int} {x : Double} (hx : Double.ofInt? n = some x) :
    Turtle.measure (.int n) = .ok x := by
  rw [measure, Number.toDouble, hx]
  rfl

theorem Turtle.right_full {t : Turtle} (ht : t.heading = 0) :
    t.right 360 = .ok { t with heading := 0 } := by
  have hmodulo : ((0 : Double) + 360).modulo fullTurn = 0 := by decide +kernel
  have hmeasure : measure 360 = .ok 360 := measure_int (by decide +kernel)
  unfold right
  simp only [ht, hmeasure, bind, Except.bind, pure, Except.pure, hmodulo]

variable (hcos : Double.cosine? 0 = some 1) (hsin : Double.sine? 0 = some 0)
include hcos hsin

theorem Turtle.forward_ahead {t : Turtle} (ht : t.heading = 0) {n : Int} {x : Double}
    (hx : Double.ofInt? n = some x) :
    t.forward (.int n) = .ok (t.moveTo (t.x + 1 * x) (t.y + 0 * x)) := by
  have hradians : (0 : Double).radians = 0 := by decide +kernel
  unfold forward
  simp only [ht, hradians, hcos, hsin, measure_int hx]
  rfl

-- A spiral that turns all the way round after each of two lines.
theorem segments_ahead : (Pattern.spiral 2 10 360 ⟨0, 0⟩).segments =
    .ok [⟨.double 0, .double 0, .double 10, .double 0⟩,
      ⟨.double 10, .double 0, .double 30, .double 0⟩] := by
  let t₀ := (Turtle.placed 0 0 false).jumpTo 0 0
  have hstart : Pattern.turtleAt ⟨0, 0⟩ = .ok t₀ := by
    have hzero : Turtle.measure 0 = .ok 0 := Turtle.measure_int (by decide +kernel)
    rw [Pattern.turtleAt, hzero]
    rfl
  let t₁ := t₀.moveTo (t₀.x + 1 * 10) (t₀.y + 0 * 10)
  have hfirst :=
    Turtle.forward_ahead hcos hsin (t := t₀) rfl (n := 1 * 10) (x := 10) (by decide +kernel)
  have hturn : t₁.right 360 = .ok { t₁ with heading := 0 } := Turtle.right_full rfl
  let t₂ : Turtle := { t₁ with heading := 0 }
  have hsecond :=
    Turtle.forward_ahead hcos hsin (t := t₂) rfl (n := 2 * 10) (x := 20) (by decide +kernel)
  let t₃ := t₂.moveTo (t₂.x + 1 * 20) (t₂.y + 0 * 20)
  have hturn' : t₃.right 360 = .ok { t₃ with heading := 0 } := Turtle.right_full rfl
  have hwalk : (Pattern.turtleAt ⟨0, 0⟩).bind (Pattern.walkSpiral 2 10 360) =
      .ok { t₃ with heading := 0 } := by
    refine bind_eq_ok.2 ⟨t₀, hstart, ?_⟩
    refine bind_eq_ok.2 ⟨_, bind_eq_ok.2 ⟨_, rfl, bind_eq_ok.2 ⟨_, hfirst, hturn⟩⟩, ?_⟩
    refine bind_eq_ok.2 ⟨_, bind_eq_ok.2 ⟨_, rfl, bind_eq_ok.2 ⟨_, hsecond, hturn'⟩⟩, rfl⟩
  have hcollected : t₃.collected = [⟨.double 0, .double 0, .double 10, .double 0⟩,
      ⟨.double 10, .double 0, .double 30, .double 0⟩] := by decide +kernel
  rw [Pattern.segments, Pattern.walk, hwalk, ← hcollected]
  rfl

end Ahead

namespace Draft

theorem compile_of_rebuild {settings : Settings} {segments : List Segment} {d : Draft} {text : String}
    (h : (ofDrawing settings segments).rebuild = (d, .ok text)) :
    compile settings segments = (d.tool, .ok d.lines) := by
  have hcompile := (rebuild_eq_ok h).1
  rwa [settings_ofDrawing, segments_ofDrawing] at hcompile

-- The pen stays down all along a pattern in one stroke, so no gap of the trail is open.
theorem countP_isPenDown_outline {settings : Settings} {p : Pattern} {segments : List Segment}
    {d : Draft} {text : String} (hp : p.isOutline = true) (hsegments : p.segments = .ok segments)
    (hne : segments ≠ []) (h : (ofDrawing settings segments).rebuild = (d, .ok text)) :
    d.lines.countP Line.isPenDown = 1 := by
  cases hwalk : p.walk with
  | error e => simp [Pattern.segments, hwalk, Except.map] at hsegments
  | ok t' =>
    obtain ⟨t, hready, moves, hgoes, hlifts⟩ := Pattern.drawsOn_walk hp hwalk
    have hwalks := hgoes.walks_trail
    have hunheard : t'.heard = false := hwalks.heard.trans hready.unheard
    obtain rfl : t'.lines = segments := by
      simpa [Pattern.segments, hwalk, Except.map, Turtle.lines, hunheard] using hsegments
    obtain ⟨-, hcount, hpos⟩ := compile_walk hwalks hready.lines (compile_of_rebuild h)
    have hopen : (between Motion.drawn (t.trail moves)).countP (!·.isEmpty) = 0 := by
      rw [List.countP_eq_zero]
      intro gap hgap
      have hdrawn := hgoes.drawn_trail hready.penDown hlifts
      have hnil := gaps_of_all hdrawn gap (List.mem_of_mem_tail hgap)
      simp [hnil]
    have := hpos hne
    omega

/-- **An unbroken path is one stroke.**  A turtle that goes through a run without an error makes a
trail of motions, and its lines are those that are drawn.  In their program nothing stands between the
lines of two drawn motions with no other motion in between, so that the pen is lowered at most once,
and once more in each gap of the trail.  All patterns but the grid are drawn in one stroke. -/
theorem rebuild_trail (settings : Settings) :
    (∀ (x y : Double) (heard : Bool) (moves : List Turtle.Move),
      let start := Turtle.placed x y heard
      (∀ st ∈ Run.steps Turtle.perform start moves, st.answer = none) →
      start.Walks (start.trail moves) (Run.final Turtle.perform start moves) ∧
      ∀ (d : Draft) (text : String),
        (ofDrawing settings (Run.final Turtle.perform start moves).lines).rebuild = (d, .ok text) →
        List.Forall₂ Closes (between Motion.drawn (start.trail moves))
            (between Line.isDraw d.lines) ∧
          d.lines.countP Line.isPenDown ≤
            1 + (between Motion.drawn (start.trail moves)).countP (!·.isEmpty)) ∧
    ∀ (p : Pattern) (segments : List Segment) (d : Draft) (text : String), p.isOutline = true →
      p.segments = .ok segments → segments ≠ [] →
      (ofDrawing settings segments).rebuild = (d, .ok text) →
      d.lines.countP Line.isPenDown = 1 := by
  refine ⟨?_, fun _ _ _ _ => countP_isPenDown_outline⟩
  intro x y heard moves start hanswers
  have hwalks := (Turtle.goes_of_answers hanswers).walks_trail
  have hlines : start.lines = [] := by cases heard <;> rfl
  refine ⟨hwalks, fun d text h => ?_⟩
  obtain ⟨hcloses, hcount, -⟩ := compile_walk hwalks hlines (compile_of_rebuild h)
  exact ⟨hcloses, hcount⟩

def tour : List Turtle.Move :=
  [.goto 10 0, .goto 10 10, .penUp, .goto 20 20, .left 90, .penDown, .goto 30 20, .jump 0 50, .home]

-- Sine and cosine come from the machine, so what the spiral needs of them is said here: it turns all
-- the way round after each line, and never looks any other way.
theorem rebuild_trail_tour :
    let start := Turtle.placed 2 3 true
    let drawing := (Run.final Turtle.perform start tour).lines
    let d := (ofDrawing .standard drawing).rebuild.1
    (∀ st ∈ Run.steps Turtle.perform start tour, st.answer = none) ∧
      (ofDrawing .standard drawing).rebuild = (d, .ok d.text) ∧
      List.Forall₂ Closes (between Motion.drawn (start.trail tour)) (between Line.isDraw d.lines) ∧
      d.lines.countP Line.isPenDown ≤
        1 + (between Motion.drawn (start.trail tour)).countP (!·.isEmpty) ∧
      (Double.cosine? 0 = some 1 → Double.sine? 0 = some 0 →
        ∃ segments, (Pattern.spiral 2 10 360 ⟨0, 0⟩).segments = .ok segments ∧ segments ≠ [] ∧
          (ofDrawing .standard segments).rebuild.1.lines.countP Line.isPenDown = 1) := by
  intro start drawing d
  have hanswers : ∀ st ∈ Run.steps Turtle.perform start tour, st.answer = none := by
    decide +kernel
  have hrebuild : (ofDrawing .standard drawing).rebuild = (d, .ok d.text) :=
    rebuild_of_isOk (by decide +kernel)
  obtain ⟨htrail, hpattern⟩ := rebuild_trail .standard
  obtain ⟨-, hcompiled⟩ := htrail 2 3 true tour hanswers
  obtain ⟨hcloses, hcount⟩ := hcompiled d d.text hrebuild
  refine ⟨hanswers, hrebuild, hcloses, hcount, fun hcos hsin => ?_⟩
  refine ⟨_, segments_ahead hcos hsin, by decide, ?_⟩
  exact hpattern _ _ _ _ rfl (segments_ahead hcos hsin) (by decide)
    (rebuild_of_isOk (by decide +kernel))

end Draft

end PenPlotter
