import PenPlotter.Proofs.Double.Direction
import PenPlotter.Proofs.Drawing.Trail

/-!
# Moves that fail

Most moves are made of others, done one after the other, and whatever was done before one of these
fails stays done.  Yet a turtle that cannot do as told is mostly left as it was: all that can fail is
found out before anything is changed, since a heading always has a direction, and an arc walks along its
chords with doubles only.  There are two exceptions.  A jump lifts the pen before it is known whether
there is anywhere to jump to, so that a failed jump leaves the pen lifted.  An arc turns to its first
chord before it is known whether they are a whole number.
-/

set_option autoImplicit false

namespace PenPlotter

namespace Turtle

variable {t t' : Turtle}

/-! ## 1. Headings -/

theorem hasDirection_modulo_fullTurn (x : Double) : (x.modulo fullTurn).HasDirection := by
  obtain ⟨q, hq, -⟩ := Double.exists_ofInt_of_le (n := 360) (by decide)
  have hturn : fullTurn = .finite false q := hq
  rw [hturn]
  exact Double.hasDirection_modulo x false q

theorem hasDirection_zero : (0 : Double).HasDirection := by
  obtain ⟨r, hr, -⟩ := Double.exists_ofInt_of_le (n := 0) (by decide)
  have hzero : (0 : Double) = .finite false r := hr
  rw [hzero]
  exact Double.hasDirection_finite false r

theorem hasDirection_turn {a : Number} {turned : Double → Double}
    (h : (measure a >>= fun a => pure { t with heading := (turned a).modulo fullTurn }) = .ok t') :
    t'.heading.HasDirection := by
  obtain ⟨a, -, h⟩ := bind_eq_ok.1 h
  cases h
  exact hasDirection_modulo_fullTurn _

theorem hasDirection_orElse {r : Except Error Turtle} (ht : t.heading.HasDirection)
    (hr : ∀ u, r = .ok u → u.heading.HasDirection) : (t.orElse r).1.heading.HasDirection := by
  cases r with
  | error e => exact ht
  | ok u => exact hr u rfl

/-- No move, failed or not, takes the direction from a heading. -/
theorem hasDirection_perform (ht : t.heading.HasDirection) (m : Move) :
    (t.perform m).1.heading.HasDirection := by
  cases m with
  | penUp | penDown => exact ht
  | forward d | backward d =>
    apply hasDirection_orElse ht
    intro u hu
    obtain ⟨x, y, rfl⟩ := exists_of_forward hu
    rwa [heading_moveTo]
  | right a | left a | setHeading a => exact hasDirection_orElse ht fun u hu => hasDirection_turn hu
  | goto x y =>
    apply hasDirection_orElse ht
    intro u hu
    obtain ⟨x, y, rfl⟩ := exists_of_goto hu
    rwa [heading_moveTo]
  | jump x y =>
    apply hasDirection_orElse (t := { t with penDown := false }) ht
    intro u hu
    obtain ⟨x, y, rfl⟩ := exists_of_jump hu
    exact (heading_moveTo (t := { t with penDown := false }) x y).symm ▸ ht
  | home =>
    rw [perform_home]
    exact hasDirection_zero
  | circle radius extent steps =>
    rw [perform_circle, circle]
    split
    · exact ht
    split
    · apply hasDirection_orElse ht
      intro u hu
      obtain ⟨v, -, hu⟩ := bind_eq_ok.1 hu
      obtain ⟨w, -, hlast⟩ := bind_eq_ok.1 hu
      exact hasDirection_turn hlast
    · exact hasDirection_modulo_fullTurn _

/-- Whatever a turtle was told since its start, its heading has a direction. -/
theorem hasDirection_final {x y : Number} {heard : Bool} (hstart : start x y heard = .ok t)
    (moves : List Move) : (Run.final perform t moves).heading.HasDirection := by
  have ht : t.heading.HasDirection := by
    obtain ⟨x, -, hstart⟩ := bind_eq_ok.1 hstart
    obtain ⟨y, -, hstart⟩ := bind_eq_ok.1 hstart
    cases hstart
    exact hasDirection_zero
  exact Run.final_invariant perform (P := fun t => t.heading.HasDirection)
    (fun t m h => hasDirection_perform h m) ht moves

/-! ## 2. What a move is made of -/

def performAll (t : Turtle) : List Move → Outcome
  | [] => (t, none)
  | m :: rest =>
    match t.perform m with
    | (t', none) => t'.performAll rest
    | failed => failed

structure Calls where
  moves : List Move
  stop : Option Error

def calls (t : Turtle) : Move → Except Error Calls
  | .forward d =>
    match t.heading.radians.cosine?, t.heading.radians.sine? with
    | some c, some s => do
      let d ← measure d
      return ⟨[.goto (.double (t.x + c * d)) (.double (t.y + s * d))], none⟩
    | _, _ => throw .infiniteAngle
  | .backward d => .ok ⟨[.forward d.neg], none⟩
  | .jump x y => .ok ⟨[.penUp, .goto x y, if t.penDown then .penDown else .penUp], none⟩
  | .home => .ok ⟨[.goto (.double 0) (.double 0), .setHeading (.double 0)], none⟩
  | .circle radius extent steps =>
    (arc radius extent steps).map fun a =>
      ⟨a.moves, match a.steps with | .int _ => none | .double _ => some .stepsNotInteger⟩
  | m => .ok ⟨[m], none⟩

def performCalls (t : Turtle) (m : Move) : Outcome :=
  match t.calls m with
  | .error e => (t, some e)
  | .ok c =>
    match t.performAll c.moves with
    | (t', none) => (t', c.stop)
    | failed => failed

theorem performAll_cons_of_ok {m : Move} {rest : List Move} (h : t.perform m = (t', none)) :
    t.performAll (m :: rest) = t'.performAll rest := by
  rw [performAll, h]

theorem performAll_cons_of_failed {m : Move} {rest : List Move} {e : Error}
    (h : t.perform m = (t', some e)) : t.performAll (m :: rest) = (t', some e) := by
  rw [performAll, h]

theorem performAll_singleton (m : Move) : t.performAll [m] = t.perform m := by
  rcases hm : t.perform m with ⟨t', answer⟩
  cases answer with
  | none => rw [performAll_cons_of_ok hm, performAll]
  | some e => rw [performAll_cons_of_failed hm]

theorem performAll_of_goes {moves : List Move} (h : Goes t moves t') :
    t.performAll moves = (t', none) := by
  induction h with
  | nil => rfl
  | cons hstep _ ih => rw [performAll_cons_of_ok hstep, ih]

-- A move that nothing stops but a move that it makes.
theorem performCalls_eq {m : Move} {moves : List Move} (h : t.calls m = .ok ⟨moves, none⟩) :
    t.performCalls m = t.performAll moves := by
  rw [performCalls, h]
  dsimp only
  rcases t.performAll moves with ⟨t', _ | e⟩ <;> rfl

theorem performCalls_of_self {m : Move} (h : t.calls m = .ok ⟨[m], none⟩) :
    t.performCalls m = t.perform m := (performCalls_eq h).trans (performAll_singleton m)

-- With a direction a turtle goes any distance that is a double.
theorem exists_forward (ht : t.heading.HasDirection) (d : Double) :
    ∃ t', t.forward (.double d) = .ok t' := by
  obtain ⟨c, hc⟩ := ht.radians.exists_cosine
  obtain ⟨s, hs⟩ := ht.radians.exists_sine
  refine ⟨t.moveTo (t.x + c * d) (t.y + s * d), ?_⟩
  simp only [forward, hc, hs]
  rfl

theorem exists_chords (ht : t.heading.HasDirection) (chord turn : Double) (n : Nat) :
    ∃ t', t.chords chord turn n = .ok t' := by
  induction n generalizing t with
  | zero => exact ⟨t, rfl⟩
  | succ n ih =>
    obtain ⟨u, hforward⟩ := exists_forward ht chord
    have hleft : u.left (.double turn) = .ok { u with heading := (u.heading - turn).modulo fullTurn } :=
      rfl
    obtain ⟨t', hrest⟩ := ih (t := { u with heading := (u.heading - turn).modulo fullTurn })
      (hasDirection_modulo_fullTurn _)
    exact ⟨t', by rw [chords, hforward, ok_bind, hleft, ok_bind, hrest]⟩

/-- Nothing fails on the way along an arc. -/
theorem exists_along (t : Turtle) (a : Arc) (n : Nat) : ∃ t', t.along a n = .ok t' := by
  obtain ⟨v, hchords⟩ := exists_chords (t := t.facing a) (hasDirection_modulo_fullTurn _) a.chord
    a.turn n
  exact ⟨{ v with heading := (v.heading + a.half).modulo fullTurn }, bind_eq_ok.2
    ⟨_, rfl, bind_eq_ok.2 ⟨v, hchords, rfl⟩⟩⟩

theorem zero_modulo_fullTurn : (0 : Double).modulo fullTurn = 0 := by decide +kernel

theorem goes_home (t : Turtle) :
    Goes t [.goto (.double 0) (.double 0), .setHeading (.double 0)] t.home := by
  have hturn : (t.moveTo 0 0).perform (.setHeading (.double 0)) =
      ({ t.moveTo 0 0 with heading := (0 : Double).modulo fullTurn }, none) := rfl
  rw [zero_modulo_fullTurn] at hturn
  exact .cons rfl (.single hturn)

-- The pen is set last, to where it was.
theorem performAll_jump (t : Turtle) (x y : Number) :
    t.performAll [.penUp, .goto x y, if t.penDown then .penDown else .penUp] =
      t.perform (.jump x y) := by
  obtain ⟨lifted, hlifted⟩ : ∃ lifted : Turtle, lifted = { t with penDown := false } := ⟨_, rfl⟩
  have hlift : t.perform .penUp = (lifted, none) := by rw [hlifted]; rfl
  have hgoto : lifted.perform (.goto x y) = lifted.orElse (lifted.goto x y) := rfl
  have hjump : t.perform (.jump x y) =
      lifted.orElse ((lifted.goto x y).map fun u : Turtle => { u with penDown := t.penDown }) := by
    rw [hlifted]
    rfl
  rw [performAll_cons_of_ok hlift, hjump]
  cases hresult : lifted.goto x y with
  | error e => exact performAll_cons_of_failed (hgoto.trans (by rw [hresult, orElse]))
  | ok u =>
    rw [performAll_cons_of_ok (perform_of_ok hgoto hresult), performAll_singleton]
    cases hdown : t.penDown <;> rfl

-- An arc of a whole number of chords is drawn, and of any other only the first turn is made.
theorem performAll_moves (t : Turtle) (a : Arc) :
    ∃ t', t.performAll a.moves = (t', none) ∧
      match a.steps with
      | .int n => t.along a n.toNat = .ok t'
      | .double _ => t' = t.facing a := by
  cases hsteps : a.steps with
  | int n =>
    obtain ⟨t', halong⟩ := t.exists_along a n.toNat
    exact ⟨t', performAll_of_goes (goes_along hsteps halong), halong⟩
  | double x =>
    refine ⟨t.facing a, ?_, rfl⟩
    rw [Arc.moves, hsteps]
    exact performAll_singleton _

/-- A move is no more and no less than the moves that it is made of: what a turtle is left as, also by
a move that fails, is what these leave it as. -/
theorem perform_eq_performCalls (ht : t.heading.HasDirection) (m : Move) :
    t.perform m = t.performCalls m := by
  cases m with
  | penUp | penDown | goto x y | right a | left a | setHeading a =>
    exact (performCalls_of_self rfl).symm
  | forward d =>
    obtain ⟨c, hc⟩ := ht.radians.exists_cosine
    obtain ⟨s, hs⟩ := ht.radians.exists_sine
    unfold performCalls
    simp only [perform, forward, calls, hc, hs]
    cases measure d with
    | error e => rfl
    | ok d => rfl
  | backward d =>
    have hcalls : t.calls (.backward d) = .ok ⟨[.forward d.neg], none⟩ := rfl
    rw [performCalls_eq hcalls]
    exact (performAll_singleton (.forward d.neg)).symm
  | home =>
    rw [performCalls_eq rfl]
    exact (performAll_of_goes (goes_home t)).symm
  | jump x y =>
    rw [performCalls_eq rfl]
    exact (performAll_jump t x y).symm
  | circle radius extent steps =>
    rw [perform_circle, circle, performCalls, calls]
    cases arc radius extent steps with
    | error e => rfl
    | ok a =>
      obtain ⟨t', hmoves, hsteps⟩ := t.performAll_moves a
      simp only [Except.map, hmoves]
      cases h : a.steps with
      | int n =>
        rw [h] at hsteps
        simp [hsteps, orElse]
      | double x =>
        rw [h] at hsteps
        simp [hsteps]

/-! ## 3. What a failure leaves -/

def Move.isJump : Move → Bool
  | .jump _ _ => true
  | _ => false

def spoiled (t : Turtle) : Move → Turtle
  | .jump _ _ => { t with penDown := false }
  | .circle radius extent (some (.double n)) =>
    match arc radius extent (some (.double n)) with
    | .ok a => t.facing a
    | .error _ => t
  | _ => t

theorem orElse_failed {r : Except Error Turtle} {e : Error} (h : (t.orElse r).2 = some e) :
    (t.orElse r).1 = t := by
  cases r with
  | error e => rfl
  | ok u => cases h

-- Without a count, or with one that is an integer, an arc has a whole number of chords.
theorem steps_of_arc {radius extent : Number} {steps : Option Number} {a : Arc}
    (h : arc radius extent steps = .ok a) :
    (∃ n, a.steps = .int n ∧ ∀ x, steps ≠ some (.double x)) ∨
      ∃ x, a.steps = .double x ∧ steps = some (.double x) := by
  obtain ⟨given, hgiven, h⟩ := bind_eq_ok.1 h
  have hsteps : a.steps = given := by
    obtain ⟨turn, -, h⟩ := bind_eq_ok.1 h
    obtain ⟨r, -, h⟩ := bind_eq_ok.1 h
    split at h
    · cases h
    · cases h
      split <;> rfl
  cases steps with
  | none =>
    rw [Option.elim_none] at hgiven
    cases hcount : chordCount radius extent with
    | error e => simp [hcount, Except.map] at hgiven
    | ok n =>
      rw [hcount] at hgiven
      cases hgiven
      exact .inl ⟨n, hsteps, nofun⟩
  | some n =>
    cases hgiven
    cases given with
    | int n => exact .inl ⟨n, hsteps, nofun⟩
    | double x => exact .inr ⟨x, hsteps, rfl⟩

theorem circle_failed_eq {radius extent : Number} {steps : Option Number} {e : Error}
    (h : (t.circle radius extent steps).2 = some e) :
    (t.circle radius extent steps).1 = t.spoiled (.circle radius extent steps) := by
  rw [circle] at h ⊢
  cases harc : arc radius extent steps with
  | error e =>
    dsimp only
    unfold spoiled
    split
    · next heq => cases heq
    · next heq =>
      cases heq
      rw [harc]
    · rfl
  | ok a =>
    rw [harc] at h
    dsimp only at h ⊢
    obtain ⟨n, hsteps, hgiven⟩ | ⟨x, hsteps, rfl⟩ := steps_of_arc harc
    · rw [hsteps] at h ⊢
      rw [orElse_failed h]
      unfold spoiled
      split
      · next heq => cases heq
      · next heq =>
        cases heq
        exact absurd rfl (hgiven _)
      · rfl
    · rw [hsteps, spoiled, harc]

theorem perform_failed_eq {m : Move} {e : Error} (h : (t.perform m).2 = some e) :
    (t.perform m).1 = t.spoiled m := by
  cases m with
  | penUp | penDown | home => cases h
  | jump x y => exact orElse_failed (t := { t with penDown := false }) h
  | circle radius extent steps => exact circle_failed_eq h
  | _ => exact orElse_failed h

theorem lifted_eq_self_iff : { t with penDown := false } = t ↔ t.penDown = false := by
  obtain ⟨x, y, heading, penDown, heard, collected, reported⟩ := t
  simp [eq_comm]

theorem facing_eq_self_iff {a : Arc} :
    t.facing a = t ↔ (t.heading - a.half).modulo fullTurn = t.heading := by
  obtain ⟨x, y, heading, penDown, heard, collected, reported⟩ := t
  simp [facing]

/-- The moves that change a turtle when they fail: a jump with the pen down, and an arc whose number of
chords is a double, if the first turn is one. -/
inductive Spoils (t : Turtle) : Move → Prop where
  | lifted (x y : Number) (hdown : t.penDown = true) : Spoils t (.jump x y)
  | turned {radius extent : Number} {n : Double} {a : Arc}
    (harc : arc radius extent (some (.double n)) = .ok a)
    (hturned : (t.heading - a.half).modulo fullTurn ≠ t.heading) :
    Spoils t (.circle radius extent (some (.double n)))

theorem spoiled_eq_self_iff {m : Move} : t.spoiled m = t ↔ ¬Spoils t m := by
  unfold spoiled
  split
  · next x y =>
    rw [lifted_eq_self_iff]
    constructor
    · rintro hup (⟨-, -, hdown⟩)
      rw [hup] at hdown
      cases hdown
    · intro h
      by_contra hdown
      exact h (.lifted x y (by simpa using hdown))
  · next radius extent n =>
    cases harc : arc radius extent (some (.double n)) with
    | error e =>
      refine iff_of_true rfl ?_
      rintro (_ | ⟨harc', -⟩)
      rw [harc] at harc'
      cases harc'
    | ok a =>
      dsimp only
      rw [facing_eq_self_iff]
      constructor
      · rintro hsame (_ | ⟨harc', hturned⟩)
        rw [harc] at harc'
        cases harc'
        exact hturned hsame
      · intro h
        by_contra hturned
        exact h (.turned harc hturned)
  · next hjump hcircle =>
    refine iff_of_true rfl ?_
    rintro (⟨x, y, -⟩ | ⟨-, -⟩)
    · exact hjump _ _ rfl
    · exact hcircle _ _ _ rfl

/-- Whatever a turtle that collects its lines was told before, it does a move by the moves that this is
made of.  If it cannot, it is left as it was, with two exceptions: a jump with the pen down leaves the
pen lifted, and an arc whose number of chords is a double leaves the turtle turned to the first. -/
theorem perform_unchanged_iff {x y : Number} {t₀ : Turtle} (hstart : start x y false = .ok t₀)
    (moves : List Move) (m : Move) {e : Error}
    (hfailed : ((Run.final perform t₀ moves).perform m).2 = some e) :
    let t := Run.final perform t₀ moves
    t.perform m = t.performCalls m ∧ ((t.perform m).1 = t ↔ ¬Spoils t m) ∧
      (t.perform m).1 = t.spoiled m := by
  intro t
  have hleft : (t.perform m).1 = t.spoiled m := perform_failed_eq hfailed
  refine ⟨perform_eq_performCalls (hasDirection_final hstart moves) m, ?_, hleft⟩
  rw [hleft]
  exact spoiled_eq_self_iff

/-- An arc of no chords leaves a turtle as it was, here after a jump that failed too. -/
theorem perform_unchanged_circle :
    let t := Run.final perform (placed 0 0 false) [.goto 3 4, .jump 5 (.int (10 ^ 400))]
    start (.double 0) (.double 0) false = .ok (placed 0 0 false) ∧
      (t.perform (.circle 5 360 (some 0))).2 = some .divisionByZero ∧
      (t.perform (.circle 5 360 (some 0))).1 = t := by
  intro t
  have hstart : start (.double 0) (.double 0) false = .ok (placed 0 0 false) := rfl
  have hfailed : (t.perform (.circle 5 360 (some 0))).2 = some .divisionByZero := by decide +kernel
  obtain ⟨-, hunchanged, -⟩ := perform_unchanged_iff hstart _ _ hfailed
  exact ⟨hstart, hfailed, hunchanged.2 nofun⟩

/-- A jump to a place too far away leaves the pen lifted, and four chords that are counted with a double
leave the turtle turned. -/
theorem perform_unchanged_jump :
    start (.double 0) (.double 0) false = .ok (placed 0 0 false) ∧
      (((placed 0 0 false).perform (.jump (.int (10 ^ 400)) 0)).2 = some .overflow ∧
        (placed 0 0 false).penDown = true ∧
        ((placed 0 0 false).perform (.jump (.int (10 ^ 400)) 0)).1.penDown = false) ∧
      ((placed 0 0 false).perform (.circle 5 90 (some (.double 4)))).2 = some .stepsNotInteger ∧
      ((placed 0 0 false).perform (.circle 5 90 (some (.double 4)))).1.heading ≠ 0 := by
  exact ⟨rfl, by decide +kernel⟩

end Turtle

end PenPlotter
