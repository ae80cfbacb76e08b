import PenPlotter.Proofs.Replay.Recognition

/-!
# The ledger of a replay

What a replaying machine counts and draws, apart from distances, times and the box of its moves.  An
instruction that violates nothing changes the ledger in a way that depends on the ledger alone, and
at the standard speeds it never leads to a fault.
-/

set_option autoImplicit false

namespace PenPlotter.Replay

attribute [local instance (high)] instPowNat

/-! ## 1. Ledgers -/

@[ext] structure Ledger where
  position : Point
  penDown : Bool
  penDowns : Nat
  penUps : Nat
  travels : Nat
  draws : Nat
  paths : List (List Point)

namespace Ledger

def initial : Ledger := ⟨⟨0, 0⟩, false, 0, 0, 0, 0, []⟩

def lower (l : Ledger) : Ledger :=
  { l with penDown := true, penDowns := l.penDowns + 1, paths := l.paths ++ [[l.position]] }

def lift (l : Ledger) : Ledger := { l with penDown := false, penUps := l.penUps + 1 }

def travel (p : Point) (l : Ledger) : Ledger := { l with position := p, travels := l.travels + 1 }

def draw (p : Point) (l : Ledger) : Ledger :=
  { l with position := p, draws := l.draws + 1, paths := Machine.extendPaths p l.paths }

end Ledger

theorem extendPaths_append_singleton (p : Point) (front : List (List Point)) (final : List Point) :
    Machine.extendPaths p (front ++ [final]) = front ++ [final ++ [p]] := by
  induction front with
  | nil => rfl
  | cons path rest ih =>
    obtain ⟨next, others, hrest⟩ : ∃ next others, rest ++ [final] = next :: others :=
      List.exists_cons_of_ne_nil (by simp)
    rw [List.cons_append, hrest, Machine.extendPaths, ← hrest, ih, List.cons_append]
    simp

theorem length_extendPaths (p : Point) (paths : List (List Point)) :
    (Machine.extendPaths p paths).length = paths.length := by
  induction paths using List.reverseRecOn with
  | nil => rfl
  | append_singleton front final _ => rw [extendPaths_append_singleton]; simp

namespace Machine

def ledger (m : Machine) : Ledger :=
  ⟨m.position, m.penDown, m.penDowns, m.penUps, m.travels, m.draws, m.paths⟩

/-- A machine that counts from the origin, has noted nothing so far, and has a ledger. -/
structure Keeps (m : Machine) (l : Ledger) : Prop where
  absolute : m.absolute = true
  clean : m.violations = []
  ledger : m.ledger = l

theorem initial_keeps : initial.Keeps .initial := ⟨rfl, rfl, rfl⟩

namespace Keeps

variable {m : Machine} {l : Ledger}

theorem position (h : m.Keeps l) : m.position = l.position := congrArg Ledger.position h.ledger

theorem penDown (h : m.Keeps l) : m.penDown = l.penDown := congrArg Ledger.penDown h.ledger

end Keeps

/-! ## 2. Times -/

section Times

variable (penUp penDown : String)

theorem exists_travelSeconds_standard (length : Double) :
    ∃ t, travelSeconds (.standard penUp penDown) length = .ok t := by
  have hspeed : ((6000 : Double) / 60).isZero = false := by decide +kernel
  exact ⟨length / (6000 / 60), by
    change seconds length 6000 = _
    rw [seconds, hspeed]
    rfl⟩

end Times

-- A positive feed is read as infinite or as one at least.
theorem feedShown_cases {feed : Int} (hfeed : 0 < feed) :
    feedShown feed = .inf false ∨
      ∃ r : Fin rankLimit, feedShown feed = .finite false r ∧ Double.unitsPerOne ≤ Double.units r := by
  have hpos : 0 < feed.natAbs := by omega
  obtain ⟨one, -, hone⟩ := Double.exists_ofInt_of_le (show 1 ≤ _ by decide)
  rw [Nat.one_mul] at hone
  have hle : one ≤ Decimal.readsBack.nearestRankOf feed.natAbs 0 := by
    apply Double.le_nearestRank_of_le (Decimal.ten_pow_pos _)
    rw [hone]
    simpa using Nat.le_mul_of_pos_left Double.unitsPerOne hpos
  rw [feedShown, Decimal.ofDecimal_eq_ofRank]
  generalize Decimal.readsBack.nearestRankOf feed.natAbs 0 = q at *
  rcases Nat.lt_or_ge q rankLimit with h | h
  · rw [Double.ofRank_of_lt false h]
    exact .inr ⟨⟨q, h⟩, rfl, hone ▸ Double.units_mono hle⟩
  · exact .inl (Double.ofRank_of_le false h)

-- Half of the smallest double is rounded to zero, and nothing above it is.
theorem isZero_div_sixty_iff {s : Bool} {r : Fin rankLimit} :
    (Double.finite s r / 60).isZero = true ↔ r.val ≤ 30 := by
  obtain ⟨sixty, hsixty, hunits⟩ := Double.exists_ofInt_of_le (show 60 ≤ _ by decide)
  have hone := Double.unitsPerOne_pos
  have hdivisor : sixty.val ≠ 0 := by
    intro hzero
    rw [hzero, Double.units_zero] at hunits
    omega
  have hquotient : Double.finite s r / 60 =
      .ofRank (s ^^ false)
        (Double.nearestRank (Double.units r * Double.unitsPerOne) (60 * Double.unitsPerOne)) := by
    rw [show (60 : Double) = _ from hsixty, ← hunits]
    change Double.div _ _ = _
    rw [Double.div, if_neg hdivisor, Double.ofUnits]
  have hhalf : Double.units 0 + Double.units (0 + 1) = 1 := by decide +kernel
  have hthirty : Double.units 30 = 30 := by decide +kernel
  rw [hquotient, Double.isZero_ofRank_iff, ← Nat.le_zero,
    Double.nearestRank_le_iff _ _ _ (Nat.mul_pos (by decide) hone), hhalf, Nat.mul_one,
    ← Double.units_le_units_iff, hthirty]
  generalize Double.unitsPerOne = one at hone
  have hcross : 2 * (Double.units r * one) ≤ 60 * one ↔ Double.units r ≤ 30 := by
    rw [← Nat.mul_assoc, Nat.mul_le_mul_right_iff hone]
    omega
  rw [← hcross, Nat.le_iff_lt_or_eq, and_iff_left (by decide)]

-- A minute's feed is not too small to be divided by the seconds of a minute.
theorem isZero_feedShown_div {feed : Int} (hfeed : 0 < feed) :
    (feedShown feed / 60).isZero = false := by
  rcases feedShown_cases hfeed with h | ⟨r, h, hone⟩
  · rw [h]
    decide +kernel
  · have hthirty : Double.units 30 < Double.unitsPerOne := by decide +kernel
    rw [h, Bool.eq_false_iff, Ne, isZero_div_sixty_iff]
    intro hle
    exact Nat.not_le.2 hthirty (hone.trans (Double.units_mono hle))

theorem exists_drawSeconds {m : Machine} {feed : Int} (hfeed : 0 < feed)
    (hm : m.feed = feedShown feed) (length : Double) : ∃ t, m.drawSeconds length = .ok t := by
  unfold drawSeconds
  split
  · exact ⟨length / (m.feed / 60), by
      rw [seconds, hm, isZero_feedShown_div hfeed]
      rfl⟩
  · exact ⟨0, rfl⟩

/-! ## 3. Steps -/

section Steps

variable {penUp penDown : String} {m : Machine} {l : Ledger}

theorem Keeps.step_penDown (h : m.Keeps l) (hup : l.penDown = false) :
    ∃ m', (∀ place, m.step (.standard penUp penDown) place .penDown = (m', none)) ∧
      m'.Keeps l.lower := by
  have hpen : m.penDown = false := h.penDown.trans hup
  -- The fields that change here are those that the ledger does not keep, and the pen.
  refine ⟨{ m with
    penDown := true
    penDowns := m.penDowns + 1
    time := m.time + .ofDecimal false 2 (-1)
    paths := m.paths ++ [[m.position]] }, fun place => ?_, h.absolute, h.clean, ?_⟩
  · rw [step, hpen]
    rfl
  · rw [← h.ledger]
    rfl

theorem Keeps.step_penUp (h : m.Keeps l) (hdown : l.penDown = true) :
    ∃ m', (∀ place, m.step (.standard penUp penDown) place .penUp = (m', none)) ∧
      m'.Keeps l.lift := by
  have hpen : m.penDown = true := h.penDown.trans hdown
  refine ⟨{ m with
    penDown := false
    penUps := m.penUps + 1
    time := m.time + .ofDecimal false 2 (-1) }, fun place => ?_, h.absolute, h.clean, ?_⟩
  · rw [step, hpen]
    rfl
  · rw [← h.ledger]
    rfl

-- Only a travel with the pen down would be noted, whatever the distance.
theorem Keeps.step_travel (h : m.Keeps l) (hup : l.penDown = false) (x y : Double) :
    ∃ m', (∀ place, m.step (.standard penUp penDown) place (.travel ⟨some x, some y, none⟩) =
        (m', none)) ∧ m'.Keeps (l.travel ⟨x, y⟩) := by
  have hpen : m.penDown = false := h.penDown.trans hup
  obtain ⟨t, ht⟩ := exists_travelSeconds_standard penUp penDown (distance m.position ⟨x, y⟩)
  refine ⟨arrive ⟨x, y⟩ { m with
    travels := m.travels + 1
    travelDistance := m.travelDistance + distance m.position ⟨x, y⟩
    time := m.time + t }, fun place => ?_, h.absolute, h.clean, ?_⟩
  · simp only [step, target, h.absolute, if_true, Option.getD_some, Option.getD_none, noteIf, hpen,
      Bool.false_and, Bool.false_eq_true, if_false, ht, wait]
  · rw [← h.ledger]
    rfl

theorem Keeps.step_draw (h : m.Keeps l) (hdown : l.penDown = true) (x y : Double) {feed : Int}
    (hfeed : 0 < feed) :
    ∃ m', (∀ place, m.step (.standard penUp penDown) place
        (.draw ⟨some x, some y, some (feedShown feed)⟩) = (m', none)) ∧
      m'.Keeps (l.draw ⟨x, y⟩) := by
  have hpen : m.penDown = true := h.penDown.trans hdown
  obtain ⟨t, ht⟩ := exists_drawSeconds (m := { m with feed := feedShown feed }) hfeed rfl
    (distance m.position ⟨x, y⟩)
  refine ⟨arrive ⟨x, y⟩ { m with
    feed := feedShown feed
    draws := m.draws + 1
    drawDistance := m.drawDistance + distance m.position ⟨x, y⟩
    time := m.time + t
    paths := extendPaths ⟨x, y⟩ m.paths }, fun place => ?_, h.absolute, h.clean, ?_⟩
  · simp only [hpen, h.absolute] at ht
    simp only [step, target, h.absolute, if_true, Option.getD_some, noteIf, hpen, Bool.not_true,
      Bool.false_eq_true, if_false, ht, wait]
  · rw [← h.ledger]
    rfl

end Steps

end Machine

end PenPlotter.Replay
