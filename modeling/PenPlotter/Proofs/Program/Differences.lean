import PenPlotter.Proofs.Program.Box

/-!
# Differences of any numbers

Where a drawing has integers and doubles in it, an integer is rounded before a double is taken from it.
Rounding moves no number past a double, so a difference still has the sign of the exact one, or is zero.
-/

set_option autoImplicit false

namespace PenPlotter

attribute [local instance (high)] instPowNat

attribute [local irreducible] Double.unitsPerOne

/-! ## 1. Rounding to a double -/

namespace Double

theorem isFinite_of_mul {x y : Double} (h : (x * y).isFinite = true) : x.isFinite = true := by
  cases x with
  | finite s r => rfl
  | nan => cases y <;> cases h
  | inf s =>
    change (mul _ _).isFinite = true at h
    rw [mul.eq_def] at h
    cases y with
    | finite t q =>
      simp only at h
      split at h <;> cases h
    | inf t => cases h
    | nan => cases h

theorem isFinite_of_sub {x y : Double} (h : (x - y).isFinite = true) : x.isFinite = true := by
  cases x with
  | finite s r => rfl
  | nan => cases y <;> cases h
  | inf s =>
    change (add _ (neg _)).isFinite = true at h
    rw [add.eq_def] at h
    cases y with
    | finite t q => cases h
    | inf t =>
      simp only [neg] at h
      split at h <;> cases h
    | nan => cases h

-- An integer that is rounded stays on the same side of every double.
theorem ofInt_mono {i : Int} {s : Bool} {r : Fin rankLimit} (h : ofInt i = .finite s r) (t : Bool)
    (q : Fin rankLimit) :
    (signedUnits t q ≤ i * unitsPerOne → signedUnits t q ≤ signedUnits s r) ∧
      (i * unitsPerOne ≤ signedUnits t q → signedUnits s r ≤ signedUnits t q) := by
  -- The magnitudes are ordered as they were, and the signs are kept.
  have hrank : decide (i < 0) = s ∧ nearestRank (i.natAbs * unitsPerOne) 1 = r.val := by
    rwa [ofInt, ofRatio, ofUnits, ofRank_eq_finite_iff] at h
  have hbelow : units q ≤ i.natAbs * unitsPerOne → units q ≤ units r := by
    intro hq
    rw [← hrank.2]
    exact units_mono (le_nearestRank_of_le Nat.one_pos (by omega))
  have habove : i.natAbs * unitsPerOne ≤ units q → units r ≤ units q := by
    intro hq
    rw [← hrank.2]
    exact units_mono (nearestRank_le_of_le Nat.one_pos (by omega))
  have hplace : i * unitsPerOne =
      if s then -((i.natAbs * unitsPerOne : Nat) : Int) else (i.natAbs * unitsPerOne : Nat) := by
    rw [← hrank.1, Int.natCast_mul]
    by_cases hi : i < 0
    · rw [decide_eq_true hi, if_pos rfl, ← Int.neg_mul, show -(i.natAbs : Int) = i by omega]
    · rw [decide_eq_false hi, if_neg Bool.false_ne_true, show (i.natAbs : Int) = i by omega]
  rw [hplace]
  generalize i.natAbs * unitsPerOne = u at hbelow habove
  cases s <;> cases t <;> simp only [signedUnits, if_true, Bool.false_eq_true, if_false] <;> omega

end Double

namespace Number

variable {m n : Number}

-- Rounded to a double, a number keeps its place among the doubles.
theorem exists_toDouble (hn : n.IsPlaced) {a : Double} (ha : n.toDouble = .ok a) :
    ∃ s r, a = .finite s r ∧ ∀ t (q : Fin rankLimit),
      (Double.signedUnits t q ≤ n.place → Double.signedUnits t q ≤ Double.signedUnits s r) ∧
        (n.place ≤ Double.signedUnits t q → Double.signedUnits s r ≤ Double.signedUnits t q) := by
  cases n with
  | int i =>
    obtain ⟨hfinite, hround⟩ := toDouble_int_eq_ok.1 ha
    obtain ⟨s, r, rfl⟩ := Double.isFinite_iff.1 hfinite
    exact ⟨s, r, rfl, fun t q => Double.ofInt_mono hround t q⟩
  | double x =>
    obtain ⟨s, r, rfl⟩ := Double.isFinite_iff.1 (isPlaced_double.1 hn)
    obtain rfl := Except.ok.inj ha
    exact ⟨s, r, rfl, fun t q => ⟨id, id⟩⟩

/-! ## 2. Scaled differences of any numbers -/

-- The difference of integers is exact; any other is that of doubles, one of which was there before.
theorem sub_eq_ok {d : Number} (h : m.sub n = .ok d) :
    (∃ i j, m = .int i ∧ n = .int j) ∨
      ∃ a b, m.toDouble = .ok a ∧ n.toDouble = .ok b ∧ d = .double (a - b) ∧
        (m = .double a ∨ n = .double b) := by
  cases m with
  | int i =>
    cases n with
    | int j => exact .inl ⟨i, j, rfl, rfl⟩
    | double y =>
      obtain ⟨a, ha, h⟩ := bind_eq_ok.1 h
      obtain rfl := Except.ok.inj h
      exact .inr ⟨a, y, ha, rfl, rfl, .inr rfl⟩
  | double x =>
    cases n with
    | int j =>
      obtain ⟨a, ha, h⟩ := bind_eq_ok.1 h
      obtain ⟨b, hb, h⟩ := bind_eq_ok.1 h
      obtain rfl := Except.ok.inj ha
      obtain rfl := Except.ok.inj h
      exact .inr ⟨x, b, rfl, hb, rfl, .inl rfl⟩
    | double y =>
      obtain rfl := Except.ok.inj h
      exact .inr ⟨x, y, rfl, rfl, rfl, .inl rfl⟩

theorem Alike.exists_sub_of_le (h : m.Alike n) (hle : n.place ≤ m.place) {d : Number}
    (hd : m.sub n = .ok d) {a : Double} (ha : d.toDouble = .ok a) :
    ∃ s r, a = .ofRank s r ∧ (s = true → r = 0) ∧ (m.place = n.place → r = 0) := by
  obtain ⟨d', s, hsub, hsign, hround, -⟩ := h.exists_sub
  obtain rfl : d = d' := Except.ok.inj (hd.symm.trans hsub)
  have hzero (heq : m.place = n.place) : differenceRank m n = 0 := by
    rw [differenceRank, heq, Int.sub_self, Int.natAbs_zero, Double.nearestRank_zero]
  refine ⟨s, differenceRank m n, hround a ha, fun hs => hzero ?_, hzero⟩
  have := hsign hs
  omega

/-- A difference that is not negative is rounded to a double that is not either, and is zero between
numbers of one value. -/
theorem exists_sub_of_le (hm : m.IsPlaced) (hn : n.IsPlaced) (hle : n.place ≤ m.place) {d : Number}
    (hd : m.sub n = .ok d) {a : Double} (ha : d.toDouble = .ok a) :
    ∃ s r, a = .ofRank s r ∧ (s = true → r = 0) ∧ (m.place = n.place → r = 0) := by
  rcases sub_eq_ok hd with ⟨i, j, rfl, rfl⟩ | ⟨x, y, hx, hy, rfl, hdouble⟩
  · exact (Alike.ints i j).exists_sub_of_le hle hd ha
  · obtain ⟨s, r, rfl, hr⟩ := exists_toDouble hm hx
    obtain ⟨t, q, rfl, hq⟩ := exists_toDouble hn hy
    -- One of the two numbers is its double, so rounding the other keeps their order.
    have horder : (double (.finite t q)).place ≤ (double (.finite s r)).place ∧
        (m.place = n.place → (double (.finite s r)).place = (double (.finite t q)).place) := by
      rcases hdouble with rfl | rfl
      · have hback := (hq s r).1
        have hforth := (hq s r).2 hle
        exact ⟨hforth, fun heq => le_antisymm (hback heq.le) hforth⟩
      · have hback := (hr t q).2
        have hforth := (hr t q).1 hle
        exact ⟨hforth, fun heq => le_antisymm (hback heq.le) hforth⟩
    obtain ⟨sign, rank, hround, hsign, hzero⟩ :=
      (Alike.doubles s t r q).exists_sub_of_le horder.1 rfl ha
    exact ⟨sign, rank, hround, hsign, fun heq => hzero (horder.2 heq)⟩

variable {q : Fin rankLimit} {X : Double}

-- Only a coordinate with a place on the line is placed at a finite point.
theorem isPlaced_of_scaled (h : (m.sub n >>= (·.mul (.double (.finite false q)))) = .ok (.double X))
    (hfinite : X.isFinite = true) : m.IsPlaced := by
  cases m with
  | int i => rfl
  | double x =>
    obtain ⟨d, a, hd, ha, rfl⟩ := scaled_eq_ok.1 h
    rcases sub_eq_ok hd with ⟨i, j, hint, -⟩ | ⟨x', y, hx, -, rfl, -⟩
    · cases hint
    · obtain rfl := Except.ok.inj hx
      obtain rfl := Except.ok.inj ha
      exact isPlaced_double.2 (Double.isFinite_of_sub (Double.isFinite_of_mul hfinite))

-- A coordinate that is not below the base is placed without a sign, and at zero if it has the base's
-- value.
theorem exists_scaled_of_le (hm : m.IsPlaced) (hn : n.IsPlaced) (hle : n.place ≤ m.place)
    (h : (m.sub n >>= (·.mul (.double (.finite false q)))) = .ok (.double X))
    (hfinite : X.isFinite = true) :
    ∃ s r, X = .finite s r ∧ (s = true → r.val = 0) ∧ (m.place = n.place → r.val = 0) := by
  obtain ⟨d, a, hd, ha, rfl⟩ := scaled_eq_ok.1 h
  obtain ⟨s, r, rfl, hsign, hzero⟩ := exists_sub_of_le hm hn hle hd ha
  obtain ⟨-, hproduct⟩ := Double.ofRank_mul_finite hfinite
  rw [hproduct] at hfinite ⊢
  have hrank := Double.isFinite_ofRank.1 hfinite
  have hscaled (hr : r = 0) : Double.nearestRank (Double.units r * Double.units q)
      Double.unitsPerOne = 0 := by
    rw [hr, Double.units_zero, Nat.zero_mul, Double.nearestRank_zero]
  exact ⟨s, ⟨_, hrank⟩, Double.ofRank_of_lt s hrank, fun hs => hscaled (hsign hs),
    fun heq => hscaled (hzero heq)⟩

end Number

end PenPlotter
