import PenPlotter.Double.Angle
import PenPlotter.Proofs.Double.Value

/-!
# Directions

An angle has a sine and a cosine unless it is infinite.  Remainders of a finite turn never are, nor do
degrees become infinite as radians.
-/

set_option autoImplicit false

namespace PenPlotter

namespace Double

def HasDirection (x : Double) : Prop := ∀ s, x ≠ .inf s

theorem hasDirection_nan : HasDirection .nan := by
  intro s h
  cases h

theorem hasDirection_finite (s : Bool) (r : Fin rankLimit) : HasDirection (.finite s r) := by
  intro t h
  cases h

theorem hasDirection_ofRank {s : Bool} {r : Nat} (h : r < rankLimit) :
    (ofRank s r).HasDirection := by
  rw [ofRank_of_lt s h]
  exact hasDirection_finite s _

-- Opposite signs: the sum is no further from zero than the second number.
theorem hasDirection_add_finite {s t : Bool} {r q : Fin rankLimit} (hsign : s ≠ t) (h : r ≤ q) :
    (finite s r + finite t q).HasDirection := by
  obtain ⟨n, hsum, -⟩ := ofIntUnits_eq_ofRank (signedUnits s r + signedUnits t q)
    (s && t && r.val = 0)
  have hadd : finite s r + finite t q =
      ofRank n (nearestRank (signedUnits s r + signedUnits t q).natAbs 1) := hsum
  have hunits : units r ≤ units q := units_mono h
  have hle : (signedUnits s r + signedUnits t q).natAbs ≤ units q * 1 := by
    revert hsign
    cases s <;> cases t <;> simp [signedUnits] <;> omega
  rw [hadd]
  exact hasDirection_ofRank ((nearestRank_le_of_le Nat.one_pos hle).trans_lt q.isLt)

theorem hasDirection_modulo (x : Double) (t : Bool) (q : Fin rankLimit) :
    (x.modulo (.finite t q)).HasDirection := by
  cases x with
  | nan => exact hasDirection_nan
  | inf s => exact hasDirection_nan
  | finite s r =>
    simp only [modulo]
    by_cases hq : q.val = 0
    · rw [if_pos hq]
      exact hasDirection_nan
    by_cases hrest : units r % units q = 0
    · rw [if_neg hq, if_pos hrest]
      exact hasDirection_ofRank (by decide)
    have hle : units r % units q ≤ units q * 1 := by
      rw [Nat.mul_one]
      exact (Nat.mod_lt _ (units_zero ▸ units_strictMono (Nat.pos_of_ne_zero hq))).le
    have hrank := nearestRank_le_of_le Nat.one_pos hle
    have hlt := hrank.trans_lt q.isLt
    rw [if_neg hq, if_neg hrest, ofUnits]
    by_cases hsign : s = t
    · rw [if_pos hsign]
      exact hasDirection_ofRank hlt
    · rw [if_neg hsign, ofRank_of_lt s hlt]
      exact hasDirection_add_finite hsign hrank

theorem radiansPerDegree_eq : radiansPerDegree = .finite false ⟨0x3F91DF46A2529D39, by decide⟩ := by
  decide +kernel

-- A degree is less than one radian.
theorem HasDirection.radians {x : Double} (h : x.HasDirection) : x.radians.HasDirection := by
  cases x with
  | nan => exact hasDirection_nan
  | inf s => exact absurd rfl (h s)
  | finite s r =>
    rw [Double.radians, radiansPerDegree_eq, mul_eq_ofRank]
    apply hasDirection_ofRank
    apply (nearestRank_le_of_le unitsPerOne_pos _).trans_lt r.isLt
    apply Nat.mul_le_mul_left
    decide +kernel

theorem HasDirection.exists_cosine {x : Double} (h : x.HasDirection) :
    ∃ c, x.cosine? = some c := by
  cases x with
  | inf s => exact absurd rfl (h s)
  | _ => exact ⟨_, rfl⟩

theorem HasDirection.exists_sine {x : Double} (h : x.HasDirection) : ∃ s, x.sine? = some s := by
  cases x with
  | inf s => exact absurd rfl (h s)
  | _ => exact ⟨_, rfl⟩

end Double

end PenPlotter
