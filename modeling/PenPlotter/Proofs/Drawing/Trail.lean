import PenPlotter.Drawing.Pattern
import PenPlotter.Proofs.Except
import PenPlotter.Proofs.Run

/-!
# The trail of a turtle

Whatever a turtle is told, it makes straight motions, each with the pen down or up, and each from
where the one before it ended.  An arc is a run of plain moves, and so is a pattern; only the grid lifts
the pen once it has begun to draw.
-/

set_option autoImplicit false

namespace PenPlotter

structure Motion where
  drawn : Bool
  x1 : Double
  y1 : Double
  x2 : Double
  y2 : Double

namespace Motion

def segment (m : Motion) : Segment := ⟨.double m.x1, .double m.y1, .double m.x2, .double m.y2⟩

def Lead : Double × Double → List Motion → Double × Double → Prop
  | p, [], q => p = q
  | p, m :: rest, q => p = (m.x1, m.y1) ∧ Lead (m.x2, m.y2) rest q

theorem Lead.append {p q r : Double × Double} {ms more : List Motion} (h : Lead p ms q)
    (hmore : Lead q more r) : Lead p (ms ++ more) r := by
  induction ms generalizing p with
  | nil =>
    obtain rfl : p = q := h
    exact hmore
  | cons m rest ih => exact ⟨h.1, ih h.2⟩

end Motion

namespace Turtle

variable {t t' : Turtle}

/-! ## 1. Lines -/

def lines (t : Turtle) : List Segment := if t.heard then t.reported else t.collected

theorem lines_line (s : Segment) : (t.line s).lines = t.lines ++ [s] := by
  unfold line lines
  by_cases h : t.heard = true
  · simp [h]
  · simp [h]

theorem lines_moveTo (x y : Double) :
    (t.moveTo x y).lines =
      t.lines ++ if t.penDown then [⟨.double t.x, .double t.y, .double x, .double y⟩] else [] := by
  unfold moveTo
  by_cases h : t.penDown = true
  · rw [if_pos h, if_pos h, ← lines_line]
    rfl
  · rw [if_neg h, if_neg h, List.append_nil]
    rfl

theorem exists_moveTo (t : Turtle) (x y : Double) :
    ∃ collected reported, t.moveTo x y = { t with x, y, collected, reported } := by
  unfold moveTo line
  split
  · split <;> exact ⟨_, _, rfl⟩
  · exact ⟨_, _, rfl⟩

@[simp] theorem penDown_moveTo (x y : Double) : (t.moveTo x y).penDown = t.penDown := by
  obtain ⟨_, _, h⟩ := t.exists_moveTo x y
  rw [h]

@[simp] theorem heard_moveTo (x y : Double) : (t.moveTo x y).heard = t.heard := by
  obtain ⟨_, _, h⟩ := t.exists_moveTo x y
  rw [h]

@[simp] theorem heading_moveTo (x y : Double) : (t.moveTo x y).heading = t.heading := by
  obtain ⟨_, _, h⟩ := t.exists_moveTo x y
  rw [h]

/-! ## 2. Runs without an error -/

/-- Whether a turtle does one thing after another, without an error, and is then another turtle. -/
inductive Goes : Turtle → List Move → Turtle → Prop where
  | nil (t : Turtle) : Goes t [] t
  | cons {t u t' : Turtle} {m : Move} {moves : List Move} (hstep : t.perform m = (u, none))
      (hrest : Goes u moves t') : Goes t (m :: moves) t'

theorem Goes.append {u : Turtle} {moves more : List Move} (h : Goes t moves u)
    (hmore : Goes u more t') : Goes t (moves ++ more) t' := by
  induction h with
  | nil => exact hmore
  | cons hstep _ ih => exact .cons hstep (ih hmore)

theorem Goes.single {m : Move} (h : t.perform m = (t', none)) : Goes t [m] t' := .cons h (.nil t')

theorem goes_of_answers {moves : List Move}
    (h : ∀ st ∈ Run.steps perform t moves, st.answer = none) :
    Goes t moves (Run.final perform t moves) := by
  induction moves generalizing t with
  | nil => exact .nil t
  | cons m moves ih =>
    rw [Run.steps, List.forall_mem_cons] at h
    exact .cons (Prod.ext rfl h.1) (ih h.2)

theorem Goes.answers {moves : List Move} (h : Goes t moves t') :
    ∀ st ∈ Run.steps perform t moves, st.answer = none := by
  induction h with
  | nil => simp [Run.steps]
  | @cons t u t' m moves hstep hrest ih =>
    have hu : (t.perform m).1 = u := congrArg Prod.fst hstep
    rw [Run.steps, hu]
    exact List.forall_mem_cons.2 ⟨congrArg Prod.snd hstep, ih⟩

theorem perform_home (t : Turtle) : t.perform .home = (t.home, none) := rfl

theorem perform_circle (t : Turtle) (radius extent : Number) (steps : Option Number) :
    t.perform (.circle radius extent steps) = t.circle radius extent steps := rfl

theorem perform_of_ok {m : Move} {r : Except Error Turtle} (hm : t.perform m = t.orElse r)
    (hr : r = .ok t') : t.perform m = (t', none) := by
  rw [hm, hr, orElse]

theorem eq_ok_of_orElse {r : Except Error Turtle} (h : t.orElse r = (t', none)) : r = .ok t' := by
  cases r with
  | error e => cases h
  | ok u =>
    cases h
    rfl

/-! ## 3. Arcs -/

/-- The plain moves that an arc comes to: all of it, or the first turn if the number of its chords is no
integer. -/
def Arc.moves (a : Arc) : List Move :=
  .left (.double a.half) ::
    match a.steps with
    | .int n => (List.replicate n.toNat [.forward (.double a.chord), .left (.double a.turn)]).flatten
        ++ [.right (.double a.half)]
    | .double _ => []

theorem Arc.moves_of_int {a : Arc} {n : Int} (h : a.steps = .int n) :
    a.moves = .left (.double a.half) ::
      ((List.replicate n.toNat [.forward (.double a.chord), .left (.double a.turn)]).flatten ++
        [.right (.double a.half)]) := by
  rw [moves, h]

theorem Arc.forall_moves (a : Arc) {P : Move → Prop}
    (h : (∀ d, P (.forward d)) ∧ (∀ turn, P (.left turn)) ∧ ∀ turn, P (.right turn)) :
    ∀ m ∈ a.moves, P m := by
  obtain ⟨hforward, hleft, hright⟩ := h
  rw [moves]
  cases a.steps with
  | int n => simp [hforward, hleft, hright, or_imp, forall_and]
  | double x => simpa using hleft _

-- An arc is drawn if it can be worked out and has a whole number of chords.
theorem circle_eq_ok {radius extent : Number} {steps : Option Number} :
    t.circle radius extent steps = (t', none) ↔
      ∃ a n, arc radius extent steps = .ok a ∧ a.steps = .int n ∧ t.along a n.toNat = .ok t' := by
  rw [circle]
  cases arc radius extent steps with
  | error e => simp
  | ok a =>
    cases hsteps : a.steps with
    | int n => cases h : t.along a n.toNat <;> simp [orElse, hsteps, h]
    | double x => simp [hsteps]

theorem goes_chords {chord turn : Double} {n : Nat} (h : t.chords chord turn n = .ok t') :
    Goes t (List.replicate n [Move.forward (.double chord), .left (.double turn)]).flatten t' := by
  induction n generalizing t with
  | zero =>
    cases h
    exact .nil _
  | succ n ih =>
    obtain ⟨u, hforward, h⟩ := bind_eq_ok.1 h
    obtain ⟨v, hleft, h⟩ := bind_eq_ok.1 h
    exact .cons (perform_of_ok rfl hforward) (.cons (perform_of_ok rfl hleft) (ih h))

theorem goes_along {a : Arc} {n : Int} (hsteps : a.steps = .int n)
    (h : t.along a n.toNat = .ok t') : Goes t a.moves t' := by
  obtain ⟨u, hfirst, h⟩ := bind_eq_ok.1 h
  obtain ⟨v, hchords, hlast⟩ := bind_eq_ok.1 h
  rw [Arc.moves_of_int hsteps]
  have hturn : Goes v [.right (.double a.half)] t' := .single (perform_of_ok rfl hlast)
  exact .cons (perform_of_ok rfl hfirst) ((goes_chords hchords).append hturn)

def Move.parts : Move → List Move
  | .circle radius extent steps => ((arc radius extent steps).toOption.map Arc.moves).getD []
  | m => [m]

theorem parts_circle (radius extent : Number) (steps : Option Number) :
    (Move.circle radius extent steps).parts = [] ∨
      ∃ a : Arc, (Move.circle radius extent steps).parts = a.moves := by
  rw [Move.parts]
  cases arc radius extent steps with
  | error e => exact .inl rfl
  | ok a => exact .inr ⟨a, rfl⟩

theorem goes_parts {m : Move} (h : t.perform m = (t', none)) : Goes t m.parts t' := by
  cases m with
  | circle radius extent steps =>
    obtain ⟨a, n, ha, hsteps, halong⟩ := circle_eq_ok.1 h
    rw [Move.parts, ha]
    exact goes_along hsteps halong
  | _ => exact .single h

theorem Goes.parts {moves : List Move} (h : Goes t moves t') :
    Goes t (moves.flatMap Move.parts) t' := by
  induction h with
  | nil => exact .nil _
  | cons hstep _ ih =>
    rw [List.flatMap_cons]
    exact (goes_parts hstep).append ih

/-! ## 4. Motions -/

def Move.lifts : Move → Bool
  | .penUp | .jump _ _ => true
  | _ => false

def motion? (st : Step Turtle Move (Option Error)) : Option Motion :=
  match st.operation with
  | .forward _ | .backward _ | .goto _ _ | .home =>
    some ⟨st.before.penDown, st.before.x, st.before.y, st.after.x, st.after.y⟩
  | .jump _ _ => some ⟨false, st.before.x, st.before.y, st.after.x, st.after.y⟩
  | _ => none

def trail (t : Turtle) (moves : List Move) : List Motion :=
  (Run.steps perform t (moves.flatMap Move.parts)).filterMap motion?

theorem exists_of_forward {d : Number} (h : t.forward d = .ok t') : ∃ x y, t' = t.moveTo x y := by
  unfold forward at h
  simp only at h
  split at h
  · obtain ⟨d, -, h⟩ := bind_eq_ok.1 h
    cases h
    exact ⟨_, _, rfl⟩
  · cases h

theorem exists_of_goto {x y : Number} (h : t.goto x y = .ok t') : ∃ x y, t' = t.moveTo x y := by
  obtain ⟨x, -, h⟩ := bind_eq_ok.1 h
  obtain ⟨y, -, h⟩ := bind_eq_ok.1 h
  cases h
  exact ⟨x, y, rfl⟩

theorem exists_of_home (t : Turtle) : ∃ x y heading, t.home = { t.moveTo x y with heading } :=
  ⟨0, 0, 0, rfl⟩

theorem exists_of_jump {x y : Number}
    (h : (({ t with penDown := false }.goto x y).map fun u : Turtle =>
      { u with penDown := t.penDown }) = .ok t') :
    ∃ x y, t' = { { t with penDown := false }.moveTo x y with penDown := t.penDown } := by
  cases hgoto : { t with penDown := false }.goto x y with
  | error e =>
    rw [hgoto] at h
    cases h
  | ok u =>
    rw [hgoto] at h
    cases h
    obtain ⟨x, y, rfl⟩ := exists_of_goto hgoto
    exact ⟨x, y, rfl⟩

theorem exists_of_turn {a : Number} {turned : Double → Double}
    (h : (measure a >>= fun a => pure { t with heading := turned a }) = .ok t') :
    ∃ heading, t' = { t with heading } := by
  obtain ⟨a, -, h⟩ := bind_eq_ok.1 h
  cases h
  exact ⟨_, rfl⟩

def Move.IsPlain (m : Move) : Prop := m.parts = [m]

theorem not_isPlain_circle {radius extent : Number} {steps : Option Number} :
    ¬(Move.circle radius extent steps).IsPlain := by
  unfold Move.IsPlain
  rcases parts_circle radius extent steps with h | ⟨a, h⟩
  · simp [h]
  · simp [h, Arc.moves]

-- A part is the move itself, or belongs to an arc.
theorem mem_parts_cases {m n : Move} (h : n ∈ m.parts) :
    (n = m ∧ m.IsPlain) ∨ ∃ a : Arc, n ∈ a.moves := by
  cases m with
  | circle radius extent steps =>
    rcases parts_circle radius extent steps with hparts | ⟨a, hparts⟩
    · simp [hparts] at h
    · rw [hparts] at h
      exact .inr ⟨a, h⟩
  | _ => exact .inl ⟨List.mem_singleton.1 h, rfl⟩

theorem plain_of_mem_parts {m n : Move} (h : n ∈ m.parts) : n.IsPlain := by
  rcases mem_parts_cases h with ⟨rfl, hplain⟩ | ⟨a, ha⟩
  · exact hplain
  · exact a.forall_moves ⟨fun _ => rfl, fun _ => rfl, fun _ => rfl⟩ n ha

/-- All that a plain move can do: go straight somewhere, go somewhere with the pen lifted meanwhile,
turn, or set the pen. -/
inductive Does (t : Turtle) (m : Move) : Option Motion → Turtle → Prop where
  | go (x y heading : Double) :
    Does t m (some ⟨t.penDown, t.x, t.y, x, y⟩) { t.moveTo x y with heading }
  | jump (x y : Double) (hlifts : m.lifts = true) :
    Does t m (some ⟨false, t.x, t.y, x, y⟩)
      { { t with penDown := false }.moveTo x y with penDown := t.penDown }
  | turn (heading : Double) : Does t m none { t with heading }
  | pen (penDown : Bool) (hlifts : m.lifts = !penDown) : Does t m none { t with penDown }

theorem does_of_perform {m : Move} (hplain : m.IsPlain) (h : t.perform m = (t', none)) :
    Does t m (motion? (Run.step perform t m)) t' := by
  have hstep : Run.step perform t m = ⟨t, m, none, t'⟩ := by rw [Run.step, h]
  rw [hstep]
  cases m with
  | forward d =>
    obtain ⟨x, y, rfl⟩ := exists_of_forward (eq_ok_of_orElse h)
    exact .go x y _
  | backward d =>
    obtain ⟨x, y, rfl⟩ := exists_of_forward (eq_ok_of_orElse h)
    exact .go x y _
  | goto x y =>
    obtain ⟨x, y, rfl⟩ := exists_of_goto (eq_ok_of_orElse h)
    exact .go x y _
  | home =>
    rw [perform_home] at h
    obtain rfl := (Prod.mk.inj h).1
    obtain ⟨x, y, heading, hhome⟩ := exists_of_home t
    rw [hhome]
    exact .go x y heading
  | jump x y =>
    obtain ⟨x, y, rfl⟩ := exists_of_jump (eq_ok_of_orElse h)
    exact .jump x y rfl
  | right a | left a | setHeading a =>
    obtain ⟨heading, rfl⟩ := exists_of_turn (eq_ok_of_orElse h)
    exact .turn heading
  | penUp =>
    cases h
    exact .pen false rfl
  | penDown =>
    cases h
    exact .pen true rfl
  | circle radius extent steps => exact absurd hplain not_isPlain_circle

/-! ## 5. Walks -/

/-- Whether a turtle's way to another is these motions, with a line for each that is drawn. -/
structure Walks (t : Turtle) (ms : List Motion) (t' : Turtle) : Prop where
  heard : t'.heard = t.heard
  lines : t'.lines = t.lines ++ (ms.filter Motion.drawn).map Motion.segment
  leads : Motion.Lead (t.x, t.y) ms (t'.x, t'.y)

theorem Walks.append {u : Turtle} {ms more : List Motion} (h : Walks t ms u)
    (hmore : Walks u more t') : Walks t (ms ++ more) t' where
  heard := hmore.heard.trans h.heard
  lines := by rw [hmore.lines, h.lines, List.filter_append, List.map_append, List.append_assoc]
  leads := h.leads.append hmore.leads

theorem Walks.refl (t : Turtle) : Walks t [] t where
  heard := rfl
  lines := by simp
  leads := rfl

theorem Does.walks {m : Move} {motion : Option Motion} (h : Does t m motion t') :
    Walks t motion.toList t' := by
  cases h with
  | go x y heading =>
    refine ⟨heard_moveTo x y, ?_, rfl, rfl⟩
    refine (lines_moveTo x y).trans ?_
    cases hdown : t.penDown <;> simp [Motion.segment]
  | jump x y =>
    refine ⟨heard_moveTo x y, ?_, rfl, rfl⟩
    refine (lines_moveTo x y).trans ?_
    rfl
  | turn heading => exact ⟨rfl, (List.append_nil _).symm, rfl⟩
  | pen penDown => exact ⟨rfl, (List.append_nil _).symm, rfl⟩

-- A run adds up from its steps.
theorem Goes.walks {moves : List Move} (h : Goes t moves t') (hplain : ∀ m ∈ moves, m.IsPlain) :
    Walks t ((Run.steps perform t moves).filterMap motion?) t' := by
  induction h with
  | nil => exact .refl _
  | @cons t u t' m moves hstep hrest ih =>
    obtain ⟨hm, hmoves⟩ := List.forall_mem_cons.1 hplain
    have hfirst := (does_of_perform hm hstep).walks
    have hu : (t.perform m).1 = u := congrArg Prod.fst hstep
    rw [Run.steps, List.filterMap_cons, hu]
    cases hmotion : motion? (Run.step perform t m) with
    | none =>
      rw [hmotion] at hfirst
      exact hfirst.append (ih hmoves)
    | some motion =>
      rw [hmotion] at hfirst
      exact hfirst.append (ih hmoves)

/-- A turtle's lines are the motions of its trail that are drawn, and the trail has no gaps. -/
theorem Goes.walks_trail {moves : List Move} (h : Goes t moves t') :
    Walks t (t.trail moves) t' := by
  apply h.parts.walks
  intro n hn
  obtain ⟨m, -, hn⟩ := List.mem_flatMap.1 hn
  exact plain_of_mem_parts hn

/-! ## 6. Drawing on -/

theorem lifts_of_mem_parts {m n : Move} (hm : m.lifts = false) (hn : n ∈ m.parts) :
    n.lifts = false := by
  rcases mem_parts_cases hn with ⟨rfl, -⟩ | ⟨a, ha⟩
  · exact hm
  · exact a.forall_moves (P := fun m => m.lifts = false)
      ⟨fun _ => rfl, fun _ => rfl, fun _ => rfl⟩ n ha

theorem Does.drawn {m : Move} {motion : Option Motion} (h : Does t m motion t')
    (hlifts : m.lifts = false) (hdown : t.penDown = true) :
    (∀ d ∈ motion, d.drawn = true) ∧ t'.penDown = true := by
  cases h with
  | go x y heading => exact ⟨by simp [hdown], (penDown_moveTo x y).trans hdown⟩
  | jump x y h => simp [hlifts] at h
  | turn heading => exact ⟨by simp, hdown⟩
  | pen penDown h =>
    obtain rfl : penDown = true := by simpa [hlifts] using h
    exact ⟨by simp, rfl⟩

def DrawsOn (t t' : Turtle) : Prop := ∃ moves, Goes t moves t' ∧ ∀ m ∈ moves, m.lifts = false

theorem Goes.drawn {moves : List Move} (h : Goes t moves t') (hdown : t.penDown = true)
    (hkept : ∀ m ∈ moves, m.IsPlain ∧ m.lifts = false) :
    ∀ d ∈ (Run.steps perform t moves).filterMap motion?, d.drawn = true := by
  induction h with
  | nil => simp [Run.steps]
  | @cons t u t' m moves hstep hrest ih =>
    obtain ⟨⟨hplain, hlifts⟩, hmoves⟩ := List.forall_mem_cons.1 hkept
    obtain ⟨hdrawn, hdown⟩ := (does_of_perform hplain hstep).drawn hlifts hdown
    have hu : (t.perform m).1 = u := congrArg Prod.fst hstep
    intro d hd
    rw [Run.steps, hu, List.mem_filterMap] at hd
    obtain ⟨st, hst, hmotion⟩ := hd
    rcases List.mem_cons.1 hst with rfl | hst
    · exact hdrawn d hmotion
    · exact ih hdown hmoves d (List.mem_filterMap.2 ⟨st, hst, hmotion⟩)

-- With the pen down at first, every motion is drawn.
theorem Goes.drawn_trail {moves : List Move} (h : Goes t moves t') (hdown : t.penDown = true)
    (hlifts : ∀ m ∈ moves, m.lifts = false) : ∀ d ∈ t.trail moves, d.drawn = true := by
  apply h.parts.drawn hdown
  intro n hn
  obtain ⟨m, hm, hn⟩ := List.mem_flatMap.1 hn
  exact ⟨plain_of_mem_parts hn, lifts_of_mem_parts (hlifts m hm) hn⟩

theorem DrawsOn.refl (t : Turtle) : DrawsOn t t := ⟨[], .nil t, by simp⟩

theorem DrawsOn.trans {u : Turtle} (h : DrawsOn t u) (hmore : DrawsOn u t') : DrawsOn t t' := by
  obtain ⟨moves, hgoes, hlifts⟩ := h
  obtain ⟨more, hgoes', hlifts'⟩ := hmore
  exact ⟨moves ++ more, hgoes.append hgoes', List.forall_mem_append.2 ⟨hlifts, hlifts'⟩⟩

theorem eq_ok_of_result {o : Outcome} (h : result o = .ok t') : o = (t', none) := by
  obtain ⟨u, _ | e⟩ := o
  · cases h
    rfl
  · cases h

theorem drawsOn_of_perform {m : Move} (hm : t.perform m = (t', none)) (hlifts : m.lifts = false) :
    DrawsOn t t' := ⟨[m], .single hm, by simpa using hlifts⟩

theorem drawsOn_of_ok {m : Move} {r : Except Error Turtle} (hm : t.perform m = t.orElse r)
    (hlifts : m.lifts = false) (hr : r = .ok t') : DrawsOn t t' :=
  drawsOn_of_perform (perform_of_ok hm hr) hlifts

end Turtle

/-! ## 7. Patterns -/

namespace Pattern

open Turtle

variable {t t' : Turtle}

theorem drawsOn_repeatFrom {step : Turtle → Nat → Except Turtle.Error Turtle}
    (hstep : ∀ {t t' i}, step t i = .ok t' → DrawsOn t t') {first n : Nat}
    (h : repeatFrom step t first n = .ok t') : DrawsOn t t' := by
  induction n generalizing t first with
  | zero =>
    cases h
    exact .refl _
  | succ n ih =>
    obtain ⟨u, hfirst, hrest⟩ := bind_eq_ok.1 h
    exact (hstep hfirst).trans (ih hrest)

theorem drawsOn_sidesOf {n : Nat} {length : Number} {turn : Except Turtle.Error Double}
    {turned : Turtle → Number → Except Turtle.Error Turtle}
    (hturned : ∀ {t t' a}, turned t a = .ok t' → DrawsOn t t')
    (h : sidesOf n length turn turned t = .ok t') : DrawsOn t t' := by
  apply drawsOn_repeatFrom _ h
  intro t t' i hside
  obtain ⟨u, hforward, hside⟩ := bind_eq_ok.1 hside
  obtain ⟨a, -, hturn⟩ := bind_eq_ok.1 hside
  exact (drawsOn_of_ok (m := .forward length) rfl rfl hforward).trans (hturned hturn)

theorem drawsOn_walkSpiral {turns : Int} {step angle : Number}
    (h : walkSpiral turns step angle t = .ok t') : DrawsOn t t' := by
  apply drawsOn_repeatFrom _ h
  intro t t' i hside
  obtain ⟨length, -, hside⟩ := bind_eq_ok.1 hside
  obtain ⟨u, hforward, hturn⟩ := bind_eq_ok.1 hside
  exact (drawsOn_of_ok (m := .forward length) rfl rfl hforward).trans
    (drawsOn_of_ok (m := .right angle) rfl rfl hturn)

def isOutline : Pattern → Bool
  | .grid _ _ _ => false
  | _ => true

structure Ready (t : Turtle) : Prop where
  penDown : t.penDown = true
  unheard : t.heard = false
  lines : t.lines = []

theorem ready_of_turtleAt {origin : Origin} (h : turtleAt origin = .ok t) : Ready t := by
  obtain ⟨x, -, h⟩ := bind_eq_ok.1 h
  obtain ⟨y, -, h⟩ := bind_eq_ok.1 h
  cases h
  exact ⟨rfl, rfl, rfl⟩

/-- Every pattern but the grid is drawn without lifting the pen. -/
theorem drawsOn_walk {p : Pattern} (hp : p.isOutline = true) (h : p.walk = .ok t') :
    ∃ t, Ready t ∧ DrawsOn t t' := by
  unfold walk at h
  cases p with
  | polygon sides size origin =>
    simp only at h
    split at h
    · cases h
    · obtain ⟨t, ht, h⟩ := bind_eq_ok.1 (mapError_eq_ok.1 h)
      refine ⟨t, ready_of_turtleAt ht, drawsOn_sidesOf ?_ h⟩
      exact fun hturn => drawsOn_of_ok (m := .left _) rfl rfl hturn
  | star points size origin =>
    simp only at h
    split at h
    · cases h
    · obtain ⟨t, ht, h⟩ := bind_eq_ok.1 (mapError_eq_ok.1 h)
      obtain ⟨turn, -, h⟩ := bind_eq_ok.1 h
      refine ⟨t, ready_of_turtleAt ht, drawsOn_sidesOf ?_ h⟩
      exact fun hturn => drawsOn_of_ok (m := .right _) rfl rfl hturn
  | spiral turns step angle origin =>
    obtain ⟨t, ht, h⟩ := bind_eq_ok.1 (mapError_eq_ok.1 h)
    exact ⟨t, ready_of_turtleAt ht, drawsOn_walkSpiral h⟩
  | grid lines size origin => cases hp
  | circle radius origin =>
    obtain ⟨t, ht, h⟩ := bind_eq_ok.1 (mapError_eq_ok.1 h)
    exact ⟨t, ready_of_turtleAt ht, drawsOn_of_perform (m := .circle radius _ none)
      ((perform_circle t radius _ none).trans (eq_ok_of_result h)) rfl⟩

end Pattern

end PenPlotter
