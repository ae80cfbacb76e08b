import Mathlib.Algebra.Order.Field.Rat
import Mathlib.Tactic.FieldSimp
import PenPlotter.Double.Arithmetic
import PenPlotter.Proofs.Double.Rounding

/-!
# Values of doubles

The exact value of a finite double, and what a sum, a difference and a product of finite doubles
are: the exact result, rounded once.
-/

set_option autoImplicit false

namespace PenPlotter

attribute [local instance (high)] instPowNat

namespace Double

/-! ## 1. Finite doubles -/

theorem isFinite_iff {x : Double} : x.isFinite = true ↔ ∃ s r, x = .finite s r := by
  cases x <;> simp [isFinite]

theorem ofRank_of_lt {r : Nat} (s : Bool) (h : r < rankLimit) : ofRank s r = .finite s ⟨r, h⟩ :=
  dif_pos h

theorem ofRank_of_le {r : Nat} (s : Bool) (h : rankLimit ≤ r) : ofRank s r = .inf s :=
  dif_neg (by omega)

theorem isFinite_ofRank {s : Bool} {r : Nat} : (ofRank s r).isFinite = true ↔ r < rankLimit := by
  rcases Nat.lt_or_ge r rankLimit with h | h
  · simp [ofRank_of_lt s h, isFinite, h]
  · simp [ofRank_of_le s h, isFinite, h]

theorem ofRank_eq_finite_iff {s t : Bool} {r : Nat} {q : Fin rankLimit} :
    ofRank s r = .finite t q ↔ s = t ∧ r = q := by
  rcases Nat.lt_or_ge r rankLimit with h | h
  · simp [ofRank_of_lt s h, Fin.ext_iff]
  · have := q.isLt
    simp only [ofRank_of_le s h, reduceCtorEq, false_iff]
    omega

theorem isZero_ofRank_iff {s : Bool} {r : Nat} : (ofRank s r).isZero = true ↔ r = 0 := by
  rcases Nat.lt_or_ge r rankLimit with h | h
  · rw [ofRank_of_lt s h]
    exact decide_eq_true_iff
  · have hpos : 0 < rankLimit := by decide
    rw [ofRank_of_le s h]
    exact iff_of_false Bool.false_ne_true (by omega)

theorem signedUnits_not (s : Bool) (r : Nat) : signedUnits (!s) r = -signedUnits s r := by
  cases s <;> simp [signedUnits]

@[simp] theorem natAbs_signedUnits (s : Bool) (r : Nat) : (signedUnits s r).natAbs = units r := by
  cases s <;> simp [signedUnits]

/-! ## 2. Operations -/

/-- Integers of up to fifty-three bits are doubles themselves. -/
theorem exists_ofInt_of_le {n : Nat} (hn : n ≤ 2 * blockSize) :
    ∃ r : Fin rankLimit, ofInt n = .finite false r ∧ units r = n * unitsPerOne := by
  suffices hrank : ∃ r : Fin rankLimit, units r = n * unitsPerOne by
    obtain ⟨r, hr⟩ := hrank
    refine ⟨r, ?_, hr⟩
    rw [ofInt, ofRatio, ofUnits, Int.natAbs_natCast, ← hr, nearestRank_units,
      decide_eq_false (by omega), ofRank_of_lt false r.isLt]
  by_cases hzero : n = 0
  · exact ⟨⟨0, by decide⟩, by rw [hzero, units_zero, Nat.zero_mul]⟩
  -- Doubled often enough the integer reaches the part of a block where spacing is even.
  have hlow : blockSize ≤ n * 2 ^ (52 - n.log2) := by
    calc blockSize = 2 ^ 52 := rfl
      _ ≤ 2 ^ (n.log2 + (52 - n.log2)) := Nat.pow_le_pow_right (by decide) (by omega)
      _ = 2 ^ n.log2 * 2 ^ (52 - n.log2) := Nat.pow_add _ _ _
      _ ≤ n * 2 ^ (52 - n.log2) := Nat.mul_le_mul_right _ (Nat.log2_self_le hzero)
  have hhigh : n * 2 ^ (52 - n.log2) ≤ 2 * blockSize := by
    rcases Nat.lt_or_ge 52 n.log2 with hlarge | hsmall
    · rwa [Nat.sub_eq_zero_of_le hlarge.le, Nat.pow_zero, Nat.mul_one]
    · calc n * 2 ^ (52 - n.log2) ≤ 2 ^ (n.log2 + 1) * 2 ^ (52 - n.log2) :=
            Nat.mul_le_mul_right _ Nat.lt_log2_self.le
        _ = 2 ^ 53 := by rw [← Nat.pow_add, show n.log2 + 1 + (52 - n.log2) = 53 by omega]
        _ = 2 * blockSize := rfl
  have hone : 2 ^ (52 - n.log2) * 2 ^ (1074 - (52 - n.log2)) = unitsPerOne := by
    rw [← Nat.pow_add, show 52 - n.log2 + (1074 - (52 - n.log2)) = 1074 by omega, unitsPerOne]
  have hlt : (1074 - (52 - n.log2)) * blockSize + n * 2 ^ (52 - n.log2) < rankLimit := by
    have hblocks : (1074 - (52 - n.log2)) * blockSize ≤ 1074 * blockSize :=
      Nat.mul_le_mul_right _ (Nat.sub_le _ _)
    have hlimit : 1074 * blockSize + 2 * blockSize < rankLimit := by decide +kernel
    omega
  refine ⟨⟨_, hlt⟩, ?_⟩
  rw [units_block _ _ (.inr hlow) hhigh, Nat.mul_assoc, hone]

/-- An exact integer of units, rounded: a negative sign stands for a number that is not positive. -/
theorem ofIntUnits_eq_ofRank (u : Int) (zeroNegative : Bool) :
    ∃ s, ofIntUnits u zeroNegative = ofRank s (nearestRank u.natAbs 1) ∧ (s = true → u ≤ 0) := by
  by_cases hu : u = 0
  · subst hu
    exact ⟨zeroNegative, by simp [ofIntUnits], fun _ => le_refl 0⟩
  · refine ⟨decide (u < 0), by simp [ofIntUnits, hu, ofUnits], fun h => ?_⟩
    exact (of_decide_eq_true h).le

theorem sub_finite (s t : Bool) (r q : Fin rankLimit) :
    finite s r - finite t q =
      ofIntUnits (signedUnits s r - signedUnits t q) (s && !t && decide (r.val = 0)) := by
  rw [Int.sub_eq_add_neg, ← signedUnits_not]
  rfl

theorem sub_eq_ofRank (s t : Bool) (r q : Fin rankLimit) :
    ∃ n, finite s r - finite t q =
        ofRank n (nearestRank (signedUnits s r - signedUnits t q).natAbs 1) ∧
      (n = true → signedUnits s r ≤ signedUnits t q) := by
  obtain ⟨n, hn, hsign⟩ := ofIntUnits_eq_ofRank (signedUnits s r - signedUnits t q)
    (s && !t && decide (r.val = 0))
  exact ⟨n, (sub_finite s t r q).trans hn, fun h => by have := hsign h; omega⟩

theorem mul_eq_ofRank (s t : Bool) (r q : Fin rankLimit) :
    finite s r * finite t q = ofRank (s ^^ t) (nearestRank (units r * units q) unitsPerOne) := by
  change mul _ _ = _
  rw [mul, ofUnits]

theorem abs_ofRank (s : Bool) (r : Nat) : (ofRank s r).abs = ofRank false r := by
  rcases Nat.lt_or_ge r rankLimit with h | h
  · rw [ofRank_of_lt s h, ofRank_of_lt false h]
    rfl
  · rw [ofRank_of_le s h, ofRank_of_le false h]
    rfl

theorem finite_false_lt_ofRank_iff (t : Fin rankLimit) (r : Nat) :
    finite false t < ofRank false r ↔ t < r := by
  have hlt (q : Nat) : (units t : Int) < units q ↔ t < q := by
    rw [Int.ofNat_lt, ← Nat.not_le, units_le_units_iff, Nat.not_le]
  rcases Nat.lt_or_ge r rankLimit with h | h
  · rw [ofRank_of_lt false h]
    change decide ((units t : Int) < units r) = true ↔ _
    rw [decide_eq_true_iff, hlt]
  · -- Infinity compares as the rank beyond the last one.
    rw [ofRank_of_le false h]
    change decide ((units t : Int) < units rankLimit) = true ↔ _
    rw [decide_eq_true_iff, hlt]
    have := t.isLt
    omega

theorem finite_false_le_iff {r q : Fin rankLimit} : finite false r ≤ finite false q ↔ r ≤ q := by
  change decide ((units r : Int) ≤ units q) = true ↔ _
  rw [decide_eq_true_iff, Int.ofNat_le, units_le_units_iff, Fin.le_def]

/-! ## 3. Values -/

/-- The value of a finite double; the others have none and count as zero. -/
def value : Double → ℚ
  | .finite s r => (signedUnits s r : ℚ) / unitsPerOne
  | _ => 0

theorem cast_unitsPerOne_pos : (0 : ℚ) < unitsPerOne := Nat.cast_pos.2 unitsPerOne_pos

-- A distance in units, as one of values.
theorem abs_value_sub_le {s t : Bool} {r q : Fin rankLimit} {k m : Nat} (hm : 0 < m)
    (h : (signedUnits s r - signedUnits t q).natAbs * m ≤ k * unitsPerOne) :
    |(finite s r).value - (finite t q).value| ≤ k / m := by
  have hone := cast_unitsPerOne_pos
  have hmpos : (0 : ℚ) < m := Nat.cast_pos.2 hm
  have hcast : |(signedUnits s r - signedUnits t q : ℚ)| * m ≤ k * unitsPerOne := by
    have habs : (((signedUnits s r - signedUnits t q).natAbs : Nat) : ℚ) =
        |(signedUnits s r - signedUnits t q : ℚ)| := by
      rw [Nat.cast_natAbs]
      push_cast
      rfl
    rw [← habs]
    exact_mod_cast h
  rw [value, value, ← sub_div, abs_div, abs_of_pos hone, div_le_div_iff₀ hone hmpos]
  exact hcast

end Double

end PenPlotter
