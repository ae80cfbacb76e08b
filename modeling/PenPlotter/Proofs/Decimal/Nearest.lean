import PenPlotter.Decimal.Shortest
import PenPlotter.Proofs.Decimal.Reading
import PenPlotter.Proofs.Double.Value

/-!
# The double of a decimal

A decimal is read as the double nearest to its value.  The value is all that counts: zeros at the end
of the digits may be given to the exponent, and the cut-offs for very small and very large exponents
make no difference.
-/

set_option autoImplicit false

namespace PenPlotter

attribute [local instance (high)] instPowNat

attribute [local irreducible] Double.unitsPerOne

namespace Decimal

open Double Text readsBack

/-! ## 1. Powers of ten -/

theorem ten_pow_pos (n : Nat) : 0 < 10 ^ n := Nat.pow_pos (by decide)

/-- A power of ten without negative exponents. -/
theorem pow_toNat_add (k : Int) (z : Nat) :
    10 ^ (k + z).toNat * 10 ^ (-k).toNat = 10 ^ z * 10 ^ k.toNat * 10 ^ (-(k + z)).toNat := by
  rw [← Nat.pow_add, ← Nat.pow_add, ← Nat.pow_add]
  congr 1
  omega

theorem nearestRankOf_mul_pow (m z : Nat) (k : Int) :
    nearestRankOf (m * 10 ^ z) k = nearestRankOf m (k + z) := by
  apply nearestRank_congr (ten_pow_pos _) (ten_pow_pos _)
  have hpow := pow_toNat_add k z
  calc m * 10 ^ z * 10 ^ k.toNat * unitsPerOne * 10 ^ (-(k + z)).toNat
      = m * unitsPerOne * (10 ^ z * 10 ^ k.toNat * 10 ^ (-(k + z)).toNat) := by ring
    _ = m * unitsPerOne * (10 ^ (k + z).toNat * 10 ^ (-k).toNat) := by rw [hpow]
    _ = m * 10 ^ (k + z).toNat * unitsPerOne * 10 ^ (-k).toNat := by ring

@[simp] theorem nearestRankOf_zero (k : Int) : nearestRankOf 0 k = 0 := by
  simp [nearestRankOf]

/-! ## 2. Exponents of any size -/

theorem lt_ten_pow_length (m : Nat) : m < 10 ^ (digits m).length :=
  (Nat.length_toDigits_le_iff (by decide) (List.length_pos_iff.2 (digits_ne_nil m))).1 le_rfl

theorem ten_pow_length_le {m : Nat} (hm : m ≠ 0) : 10 ^ ((digits m).length - 1) ≤ m := by
  by_contra hlt
  have hpos : 0 < (digits m).length - 1 := by
    by_contra hzero
    rw [Nat.eq_zero_of_not_pos hzero, Nat.pow_zero] at hlt
    omega
  have hlength := (Nat.length_toDigits_le_iff (by decide) hpos).2 (Nat.not_le.1 hlt)
  rw [digits] at *
  omega

-- Far below one a decimal is nearer to zero than to the smallest double.
theorem nearestRankOf_of_small {m places : Nat} {k : Int} (hone : 2 * unitsPerOne ≤ 10 ^ places)
    (h : k + (digits m).length ≤ -places) : nearestRankOf m k = 0 := by
  have hdigits := lt_ten_pow_length m
  apply Nat.le_zero.1
  rw [nearestRankOf, nearestRank_le_iff _ _ _ (ten_pow_pos _)]
  left
  rw [Int.toNat_eq_zero.2 (by omega : k ≤ 0), Nat.pow_zero, Nat.mul_one]
  calc 2 * (m * unitsPerOne) = m * (2 * unitsPerOne) := by ring
    _ ≤ m * 10 ^ places := Nat.mul_le_mul_left m hone
    _ < 10 ^ (digits m).length * 10 ^ places :=
        Nat.mul_lt_mul_of_pos_right hdigits (ten_pow_pos _)
    _ = 10 ^ ((digits m).length + places) := (Nat.pow_add _ _ _).symm
    _ ≤ 10 ^ (-k).toNat := Nat.pow_le_pow_right (by decide) (by omega)
    _ = 10 ^ (-k).toNat * (units 0 + units (0 + 1)) := (Nat.mul_one _).symm

-- Far above one it is beyond all doubles.
theorem rankLimit_le_nearestRankOf {m places : Nat} (hm : m ≠ 0) {k : Int}
    (htop : units rankLimit ≤ 10 ^ places * unitsPerOne) (h : places < k + (digits m).length) :
    rankLimit ≤ nearestRankOf m k := by
  have hdigits := ten_pow_length_le hm
  apply le_nearestRank_of_le (ten_pow_pos _)
  have hpow : 10 ^ places * 10 ^ (-k).toNat ≤ m * 10 ^ k.toNat := by
    calc 10 ^ places * 10 ^ (-k).toNat = 10 ^ (places + (-k).toNat) := (Nat.pow_add _ _ _).symm
      _ ≤ 10 ^ ((digits m).length - 1 + k.toNat) := Nat.pow_le_pow_right (by decide) (by omega)
      _ = 10 ^ ((digits m).length - 1) * 10 ^ k.toNat := Nat.pow_add _ _ _
      _ ≤ m * 10 ^ k.toNat := Nat.mul_le_mul_right _ hdigits
  calc units rankLimit * 10 ^ (-k).toNat ≤ 10 ^ places * unitsPerOne * 10 ^ (-k).toNat :=
        Nat.mul_le_mul_right _ htop
    _ = 10 ^ places * 10 ^ (-k).toNat * unitsPerOne := by ring
    _ ≤ m * 10 ^ k.toNat * unitsPerOne := Nat.mul_le_mul_right _ hpow

/-- The double of a decimal is the nearest one, whatever its exponent. -/
theorem ofDecimal_eq_ofRank (negative : Bool) (m : Nat) (k : Int) :
    ofDecimal negative m k = ofRank negative (nearestRankOf m k) := by
  have hlength : (Nat.toDigits 10 m).length = (digits m).length := rfl
  rw [ofDecimal, hlength]
  by_cases hsmall : m = 0 ∨ k + (digits m).length < -400
  · rw [if_pos hsmall]
    rcases hsmall with rfl | h
    · rw [nearestRankOf_zero]
    · rw [nearestRankOf_of_small (by decide +kernel : 2 * unitsPerOne ≤ 10 ^ 401) (by omega)]
  rw [if_neg hsmall]
  obtain ⟨hm, -⟩ := not_or.1 hsmall
  by_cases hlarge : 400 < k + (digits m).length
  · rw [if_pos hlarge, ofRank_of_le negative (rankLimit_le_nearestRankOf hm
      (by decide +kernel : units rankLimit ≤ 10 ^ 400 * unitsPerOne) hlarge)]
  rw [if_neg hlarge]
  split
  · rw [ofRatio, ofUnits, nearestRankOf, Int.toNat_eq_zero.2 (by omega : -k ≤ 0), Nat.pow_zero]
  · rw [ofRatio, ofUnits, nearestRankOf, Int.toNat_eq_zero.2 (by omega : k ≤ 0), Nat.pow_zero,
      Nat.mul_one]

end Decimal

end PenPlotter
