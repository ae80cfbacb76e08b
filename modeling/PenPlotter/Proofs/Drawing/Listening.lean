import PenPlotter.Proofs.Drawing.Interrupted

/-!
# Listening to a turtle

A turtle that somebody listens to goes the very way of one that collects its lines: it is at the same
places, looks the same way and holds the pen alike after every move, and it reports line by line what
the other collects.  These lines are the motions made with the pen down, one for each, however short.
-/

set_option autoImplicit false

namespace PenPlotter

namespace Turtle

variable {t t' : Turtle}

/-! ## 1. The same turtle, listened to -/

/-- Whether a turtle does as another one does, and reports what that one collects. -/
structure Echoes (u t : Turtle) : Prop where
  x : u.x = t.x
  y : u.y = t.y
  heading : u.heading = t.heading
  penDown : u.penDown = t.penDown
  reported : u.reported = t.collected
  collected : u.collected = []

def listened (t : Turtle) : Turtle :=
  { t with heard := true, collected := [], reported := t.collected }

theorem echoes_listened (t : Turtle) : t.listened.Echoes t := ⟨rfl, rfl, rfl, rfl, rfl, rfl⟩

theorem listened_line (ht : t.heard = false) (s : Segment) :
    t.listened.line s = (t.line s).listened := by
  simp [line, listened, ht]

theorem listened_moveTo (ht : t.heard = false) (x y : Double) :
    t.listened.moveTo x y = (t.moveTo x y).listened := by
  unfold moveTo
  by_cases hdown : t.penDown = true
  · have hlistened : t.listened.penDown = true := hdown
    rw [if_pos hlistened, if_pos hdown, listened_line ht]
    rfl
  · have hlistened : ¬t.listened.penDown = true := hdown
    rw [if_neg hlistened, if_neg hdown]
    rfl

theorem listened_goto (ht : t.heard = false) (x y : Number) :
    t.listened.goto x y = (t.goto x y).map listened := by
  unfold goto
  cases measure x with
  | error e => rfl
  | ok x =>
    cases measure y with
    | error e => rfl
    | ok y => exact congrArg Except.ok (listened_moveTo ht x y)

theorem listened_forward (ht : t.heard = false) (d : Number) :
    t.listened.forward d = (t.forward d).map listened := by
  have hheading : t.listened.heading = t.heading := rfl
  unfold forward
  simp only [hheading]
  split
  · cases measure d with
    | error e => rfl
    | ok d => exact congrArg Except.ok (listened_moveTo ht _ _)
  · rfl

theorem listened_turn (a : Number) (turned : Double → Double) :
    (measure a >>= fun a => pure { t.listened with heading := turned a }) =
      (measure a >>= fun a => pure { t with heading := turned a } : Except Error Turtle).map
        listened := by
  cases measure a <;> rfl

theorem listened_chords (ht : t.heard = false) (chord turn : Double) (n : Nat) :
    t.listened.chords chord turn n = (t.chords chord turn n).map listened := by
  induction n generalizing t with
  | zero => rfl
  | succ n ih =>
    rw [chords, chords, listened_forward ht]
    cases hforward : t.forward (.double chord) with
    | error e => rfl
    | ok u =>
      obtain ⟨x, y, rfl⟩ := exists_of_forward hforward
      have hu : (t.moveTo x y).heard = false := (heard_moveTo x y).trans ht
      exact ih (t := { t.moveTo x y with
        heading := ((t.moveTo x y).heading - turn).modulo fullTurn }) hu

theorem listened_along (ht : t.heard = false) (a : Arc) (n : Nat) :
    t.listened.along a n = (t.along a n).map listened := by
  have hleft : t.left (.double a.half) = .ok (t.facing a) := rfl
  have hlistened : t.listened.left (.double a.half) = .ok (t.facing a).listened := rfl
  have hchords : (t.facing a).listened.chords a.chord a.turn n =
      ((t.facing a).chords a.chord a.turn n).map listened :=
    listened_chords (t := t.facing a) ht _ _ _
  rw [along, along, hleft, hlistened, ok_bind, ok_bind, hchords]
  cases (t.facing a).chords a.chord a.turn n <;> rfl

theorem orElse_listened {r : Except Error Turtle} :
    t.listened.orElse (r.map listened) = ((t.orElse r).1.listened, (t.orElse r).2) := by
  cases r <;> rfl

theorem perform_listened_of_orElse {m : Move} {r s : Except Error Turtle}
    (hm : t.perform m = t.orElse r) (hlistened : t.listened.perform m = t.listened.orElse s)
    (h : s = r.map listened) :
    t.listened.perform m = ((t.perform m).1.listened, (t.perform m).2) := by
  rw [hlistened, hm, h, orElse_listened]

theorem listened_jump (ht : t.heard = false) (x y : Number) :
    t.listened.perform (.jump x y) =
      ((t.perform (.jump x y)).1.listened, (t.perform (.jump x y)).2) := by
  let lifted : Turtle := { t with penDown := false }
  let kept (u : Turtle) : Turtle := { u with penDown := t.penDown }
  have hjump : t.perform (.jump x y) = lifted.orElse ((lifted.goto x y).map kept) := rfl
  have hlistened : t.listened.perform (.jump x y) =
      lifted.listened.orElse ((lifted.listened.goto x y).map kept) := rfl
  have hgoto : lifted.listened.goto x y = (lifted.goto x y).map listened :=
    listened_goto (t := lifted) ht x y
  rw [hlistened, hjump, hgoto]
  cases lifted.goto x y <;> rfl

theorem listened_home (ht : t.heard = false) : t.listened.home = t.home.listened := by
  unfold home
  rw [listened_moveTo ht]
  rfl

/-- Every move does the same to a turtle that is listened to, and its answer is the same. -/
theorem perform_listened (ht : t.heard = false) (m : Move) :
    t.listened.perform m = ((t.perform m).1.listened, (t.perform m).2) := by
  cases m with
  | penUp | penDown => rfl
  | forward d => exact perform_listened_of_orElse rfl rfl (listened_forward ht d)
  | backward d => exact perform_listened_of_orElse rfl rfl (listened_forward ht d.neg)
  | right a | left a | setHeading a => exact perform_listened_of_orElse rfl rfl (listened_turn a _)
  | goto x y => exact perform_listened_of_orElse rfl rfl (listened_goto ht x y)
  | jump x y => exact listened_jump ht x y
  | home => rw [perform_home, perform_home, listened_home ht]
  | circle radius extent steps =>
    rw [perform_circle, perform_circle, circle, circle]
    cases arc radius extent steps with
    | error e => rfl
    | ok a =>
      dsimp only
      cases a.steps with
      | int n =>
        dsimp only
        rw [listened_along ht, orElse_listened]
      | double x => rfl

theorem heard_perform (m : Move) : (t.perform m).1.heard = t.heard := by
  rcases hm : t.perform m with ⟨t', answer⟩
  cases answer with
  | none => exact (Goes.single hm).walks_trail.heard
  | some e =>
    have hleft : t' = t.spoiled m := by
      have hfailed := perform_failed_eq (congrArg Prod.snd hm)
      rwa [hm] at hfailed
    rw [hleft]
    unfold spoiled
    split
    · rfl
    · split <;> rfl
    · rfl

/-! ## 2. Runs -/

def listenedStep (st : Step Turtle Move (Option Error)) : Step Turtle Move (Option Error) :=
  ⟨st.before.listened, st.operation, st.answer, st.after.listened⟩

theorem step_listened (ht : t.heard = false) (m : Move) :
    Run.step perform t.listened m = listenedStep (Run.step perform t m) := by
  rw [Run.step, perform_listened ht]
  rfl

theorem steps_listened (ht : t.heard = false) (moves : List Move) :
    Run.steps perform t.listened moves = (Run.steps perform t moves).map listenedStep := by
  induction moves generalizing t with
  | nil => rfl
  | cons m moves ih =>
    rw [Run.steps, Run.steps, List.map_cons, step_listened ht, perform_listened ht,
      ih ((heard_perform m).trans ht)]

theorem final_listened (ht : t.heard = false) (moves : List Move) :
    Run.final perform t.listened moves = (Run.final perform t moves).listened := by
  induction moves generalizing t with
  | nil => rfl
  | cons m moves ih =>
    rw [Run.final_cons, Run.final_cons, perform_listened ht, ih ((heard_perform m).trans ht)]

/-- Whether two steps are of the same move, neither of them fails, and the turtle that the one leaves
echoes that of the other. -/
structure StepsAlike (r s : Step Turtle Move (Option Error)) : Prop where
  operation : r.operation = s.operation
  answer : r.answer = none ∧ s.answer = none
  after : r.after.Echoes s.after

theorem stepsAlike_listened (ht : t.heard = false) {moves : List Move} (h : Goes t moves t') :
    List.Forall₂ StepsAlike (Run.steps perform t.listened moves) (Run.steps perform t moves) := by
  rw [steps_listened ht, List.forall₂_map_left_iff, List.forall₂_same]
  intro st hst
  exact ⟨rfl, ⟨h.answers st hst, h.answers st hst⟩, echoes_listened st.after⟩

/-! ## 3. What is collected -/

theorem lines_of_unheard (ht : t.heard = false) : t.lines = t.collected := by simp [lines, ht]

theorem penDown_of_jump {x y : Number} (h : t.perform (.jump x y) = (t', none)) :
    t'.penDown = t.penDown := by
  obtain ⟨x, y, rfl⟩ := exists_of_jump (eq_ok_of_orElse h)
  rfl

/-- What a step adds to the lines collected: its motion, from where the turtle was to where it is then,
if that is drawn.  A jump adds none and has the pen as it was. -/
structure Collects (st : Step Turtle Move (Option Error)) : Prop where
  collected : st.after.collected =
    st.before.collected ++ ((motion? st).toList.filter Motion.drawn).map Motion.segment
  leads : Motion.Lead (st.before.x, st.before.y) (motion? st).toList (st.after.x, st.after.y)
  jump : st.operation.isJump = true →
    st.after.penDown = st.before.penDown ∧ st.after.collected = st.before.collected

theorem collects_of_perform {m : Move} (ht : t.heard = false) (hplain : m.IsPlain)
    (h : t.perform m = (t', none)) : Collects (Run.step perform t m) := by
  have hwalks := (does_of_perform hplain h).walks
  have hafter : (Run.step perform t m).after = t' := congrArg Prod.fst h
  have hcollected : t'.collected = t.collected ++
      ((motion? (Run.step perform t m)).toList.filter Motion.drawn).map Motion.segment := by
    rw [← lines_of_unheard (hwalks.heard.trans ht), hwalks.lines, lines_of_unheard ht]
  refine ⟨by rw [hafter]; exact hcollected, by rw [hafter]; exact hwalks.leads, ?_⟩
  intro hjump
  rw [hafter]
  cases m with
  | jump x y => exact ⟨penDown_of_jump h, hcollected.trans (List.append_nil _)⟩
  | _ => cases hjump

theorem Goes.collects {moves : List Move} (h : Goes t moves t') (ht : t.heard = false)
    (hplain : ∀ m ∈ moves, m.IsPlain) : ∀ st ∈ Run.steps perform t moves, Collects st := by
  induction h with
  | nil => simp [Run.steps]
  | @cons t u t' m moves hstep hrest ih =>
    obtain ⟨hm, hmoves⟩ := List.forall_mem_cons.1 hplain
    have hu : (t.perform m).1 = u := congrArg Prod.fst hstep
    rw [Run.steps, hu]
    refine List.forall_mem_cons.2 ⟨collects_of_perform ht hm hstep, ih ?_ hmoves⟩
    exact hu ▸ (heard_perform m).trans ht

theorem exists_start {x y : Number} {heard : Bool} (h : start x y heard = .ok t') :
    ∃ t, start x y false = .ok t ∧ start x y true = .ok t.listened ∧ t.heard = false ∧
      t.collected = [] ∧ (t' = t ∨ t' = t.listened) := by
  obtain ⟨x', hx, h⟩ := bind_eq_ok.1 h
  obtain ⟨y', hy, h⟩ := bind_eq_ok.1 h
  cases h
  have hstart (heard : Bool) : start x y heard = .ok (placed x' y' heard) := by
    rw [start, hx, ok_bind, hy]
    rfl
  refine ⟨placed x' y' false, hstart false, hstart true, rfl, rfl, ?_⟩
  cases heard with
  | false => exact .inl rfl
  | true => exact .inr rfl

/-- A turtle that collects its lines and one that reports them do the same from the same start, move by
move and, within an arc, chord by chord.  What is reported is what is collected: a line for each motion
made with the pen down, in order, from the place before the motion to the place after it.  A jump draws
nothing and has the pen as it was. -/
theorem steps_heard {x y : Number} {heard : Bool} {v₀ : Turtle} {moves : List Move}
    (hstart : start x y heard = .ok v₀)
    (hanswers : ∀ st ∈ Run.steps perform v₀ moves, st.answer = none) :
    ∃ t₀ u₀, start x y false = .ok t₀ ∧ start x y true = .ok u₀ ∧ u₀.Echoes t₀ ∧
      (∀ run ∈ [moves, moves.flatMap Move.parts],
        List.Forall₂ StepsAlike (Run.steps perform u₀ run) (Run.steps perform t₀ run)) ∧
      (Run.final perform u₀ moves).Echoes (Run.final perform t₀ moves) ∧
      Goes t₀ (moves.flatMap Move.parts) (Run.final perform t₀ moves) ∧
      (∀ st ∈ Run.steps perform t₀ (moves.flatMap Move.parts), Collects st) ∧
      (Run.final perform t₀ moves).collected =
        ((t₀.trail moves).filter Motion.drawn).map Motion.segment := by
  obtain ⟨t₀, hfalse, htrue, ht, hcollected, hv⟩ := exists_start hstart
  -- The two have the same answers, so it does not matter which of them is known to fail nowhere.
  have hnone : ∀ st ∈ Run.steps perform t₀ moves, st.answer = none := by
    rcases hv with rfl | rfl
    · exact hanswers
    · rw [steps_listened ht] at hanswers
      intro st hst
      exact hanswers (listenedStep st) (List.mem_map_of_mem hst)
  have hgoes := goes_of_answers hnone
  have hwalks := hgoes.walks_trail
  refine ⟨t₀, t₀.listened, hfalse, htrue, echoes_listened t₀, ?_, ?_, hgoes.parts, ?_, ?_⟩
  · exact List.forall_mem_cons.2 ⟨stepsAlike_listened ht hgoes,
      List.forall_mem_singleton.2 (stepsAlike_listened ht hgoes.parts)⟩
  · rw [final_listened ht]
    exact echoes_listened _
  · apply hgoes.parts.collects ht
    intro n hn
    obtain ⟨m, -, hn⟩ := List.mem_flatMap.1 hn
    exact plain_of_mem_parts hn
  · rw [← lines_of_unheard (hwalks.heard.trans ht), hwalks.lines, lines_of_unheard ht, hcollected]
    rfl

/-- A tour with a line of no length, an arc of one chord, a jump and a move with the pen lifted. -/
theorem steps_heard_tour :
    let moves : List Move := [.goto 3 4, .goto 3 4, .circle 5 360 (some 1), .jump 0 0, .penUp,
      .goto 1 1, .penDown, .home]
    start (.double 0) (.double 0) true = .ok (placed 0 0 true) ∧
      (∀ st ∈ Run.steps perform (placed 0 0 true) moves, st.answer = none) ∧
      (Run.final perform (placed 0 0 true) moves).Echoes
        (Run.final perform (placed 0 0 false) moves) ∧
      (Run.final perform (placed 0 0 false) moves).collected =
        (((placed 0 0 false).trail moves).filter Motion.drawn).map Motion.segment := by
  intro moves
  have hstart : start (.double 0) (.double 0) true = .ok (placed 0 0 true) := rfl
  have hanswers : ∀ st ∈ Run.steps perform (placed 0 0 true) moves, st.answer = none := by
    decide +kernel
  obtain ⟨t₀, u₀, ht, hu, -, -, hechoes, -, -, hcollected⟩ := steps_heard hstart hanswers
  obtain rfl : placed 0 0 false = t₀ := Except.ok.inj ht
  obtain rfl : placed 0 0 true = u₀ := Except.ok.inj hu
  exact ⟨hstart, hanswers, hechoes, hcollected⟩

end Turtle

end PenPlotter
