import PenPlotter.Proofs.Double.Value

/-!
# Doubling

A quotient of twice the size is rounded to a magnitude of twice the size.  Only among the smallest
numbers, where the spacing does not double with the magnitude, can the two be apart, by one unit.
-/

set_option autoImplicit false

namespace PenPlotter

attribute [local instance (high)] instPowNat

attribute [local irreducible] Double.unitsPerOne

/-! ## 1. Doubled quotients -/

theorem roundDiv_two_mul (n d : Nat) : roundDiv (2 * n) (2 * d) = roundDiv n d := by
  unfold roundDiv
  rw [Nat.mul_div_mul_left _ _ (by decide), Nat.mul_mod_mul_left]
  simp only
  generalize n / d = q
  generalize n % d = r
  by_cases hbelow : 2 * r < d
  · rw [if_pos hbelow, if_pos (by omega)]
  · by_cases habove : d < 2 * r
    · rw [if_neg hbelow, if_pos habove, if_neg (by omega), if_pos (by omega)]
    · rw [if_neg hbelow, if_neg habove, if_neg (by omega), if_neg (by omega)]

-- Both are half a unit off at most, the single one counted twice.
theorem roundDiv_two_mul_bounds (n d : Nat) (hd : 0 < d) :
    roundDiv (2 * n) d ≤ 2 * roundDiv n d + 1 ∧ 2 * roundDiv n d ≤ roundDiv (2 * n) d + 1 := by
  obtain ⟨hhigh, hlow⟩ := roundDiv_bounds n d hd
  obtain ⟨hhigh', hlow'⟩ := roundDiv_bounds (2 * n) d hd
  generalize roundDiv n d = m at *
  generalize roundDiv (2 * n) d = m' at *
  have hup : 2 * m' * d < (4 * m + 4) * d := by
    calc 2 * m' * d ≤ 2 * (2 * n) + d := by omega
      _ ≤ 2 * ((2 * m + 1) * d) + d := by omega
      _ < (4 * m + 4) * d := by nlinarith
  have hdown : 4 * m * d < (2 * m' + 4) * d := by
    calc 4 * m * d = 2 * (2 * m * d) := by ring
      _ ≤ 2 * (2 * n + d) := by omega
      _ ≤ (2 * m' + 1) * d + 2 * d := by omega
      _ < (2 * m' + 4) * d := by nlinarith
  have hup' := Nat.lt_of_mul_lt_mul_right hup
  have hdown' := Nat.lt_of_mul_lt_mul_right hdown
  omega

namespace Double

variable {n d : Nat}

-- Up to the end of the second block a rank is its own magnitude.
theorem units_of_le {m : Nat} (h : m ≤ 2 * blockSize) : units m = m := by
  have hblock := units_block 0 m (.inl rfl) h
  rwa [Nat.zero_mul, Nat.zero_add, Nat.pow_zero, Nat.mul_one] at hblock

theorem units_add_blockSize {r : Nat} (h : blockSize ≤ r) : units (r + blockSize) = 2 * units r := by
  have hpos := blockSize_pos
  have hdiv : 1 ≤ r / blockSize := (Nat.le_div_iff_mul_le hpos).2 (by omega)
  obtain ⟨k, hk⟩ : ∃ k, r / blockSize = k + 1 := ⟨r / blockSize - 1, by omega⟩
  rw [units, if_neg (by omega), units, if_neg (by omega), Nat.add_mod_right, Nat.add_div_right _ hpos,
    hk, Nat.succ_sub_one, Nat.add_sub_cancel, Nat.pow_succ]
  ring

theorem nearestRank_of_lt (h : n / d < 2 * blockSize) : nearestRank n d = roundDiv n d := by
  have hshift : (n / d).log2 - 52 = 0 := by
    by_cases hzero : n / d = 0
    · rw [hzero]
      rfl
    · have hlog : (n / d).log2 < 53 := (Nat.log2_lt hzero).2 h
      omega
  rw [nearestRank, hshift, Nat.zero_mul, Nat.zero_add, Nat.pow_zero, Nat.mul_one]

-- From the first full block on, to double a quotient is to go one block up.
theorem nearestRank_two_mul_of_le (hd : 0 < d) (h : blockSize * d ≤ n) :
    nearestRank (2 * n) d = nearestRank n d + blockSize := by
  have hquot : blockSize ≤ n / d := (Nat.le_div_iff_mul_le hd).2 h
  have hpos := blockSize_pos
  have hhalf : 2 * n / d / 2 = n / d := by
    rw [Nat.div_div_eq_div_mul, Nat.mul_comm d 2, Nat.mul_div_mul_left _ _ (by decide)]
  have hlog : (2 * n / d).log2 = (n / d).log2 + 1 := by
    rw [Nat.log2_def, if_pos (by omega), hhalf]
  have hlarge : 52 ≤ (n / d).log2 := (Nat.le_log2 (by omega)).2 hquot
  have hshift : (n / d).log2 + 1 - 52 = (n / d).log2 - 52 + 1 := by omega
  rw [nearestRank, nearestRank, hlog, hshift, Nat.pow_succ, Nat.add_mul, Nat.one_mul,
    show d * (2 ^ ((n / d).log2 - 52) * 2) = 2 * (d * 2 ^ ((n / d).log2 - 52)) by ring,
    roundDiv_two_mul]
  omega

theorem units_nearestRank_two_mul_of_le (hd : 0 < d) (h : blockSize * d ≤ n) :
    units (nearestRank (2 * n) d) = 2 * units (nearestRank n d) := by
  have hrank : blockSize ≤ nearestRank n d := by
    apply le_nearestRank_of_le hd
    rwa [units_of_le (by omega)]
  rw [nearestRank_two_mul_of_le hd h, units_add_blockSize hrank]

/-- Rounding after doubling is doubling after rounding, up to one unit. -/
theorem units_nearestRank_two_mul (n : Nat) (hd : 0 < d) :
    units (nearestRank (2 * n) d) ≤ 2 * units (nearestRank n d) + 1 ∧
      2 * units (nearestRank n d) ≤ units (nearestRank (2 * n) d) + 1 := by
  rcases Nat.lt_or_ge n (blockSize * d) with hsmall | hlarge
  · have hquot : n / d < blockSize := (Nat.div_lt_iff_lt_mul hd).2 hsmall
    have hquot' : 2 * n / d < 2 * blockSize := (Nat.div_lt_iff_lt_mul hd).2 (by nlinarith)
    have hround := roundDiv_le_succ_div n d
    have hround' := roundDiv_le_succ_div (2 * n) d
    rw [nearestRank_of_lt hquot', nearestRank_of_lt (by omega), units_of_le (by omega),
      units_of_le (by omega)]
    exact roundDiv_two_mul_bounds n d hd
  · rw [units_nearestRank_two_mul_of_le hd hlarge]
    omega

/-! ## 2. Doubled numbers -/

/-- Whether the second of two finite doubles is twice the first, up to one unit. -/
inductive DoublesTo : Double → Double → Prop where
  | intro (s : Bool) {r r' : Fin rankLimit} (hle : units r' ≤ 2 * units r + 1)
    (hge : 2 * units r ≤ units r' + 1) : DoublesTo (.finite s r) (.finite s r')

theorem doublesTo_zero : DoublesTo 0 0 := by
  have hzero : (0 : Double) = .finite false ⟨0, by decide⟩ := by decide +kernel
  rw [hzero]
  exact .intro false (Nat.zero_le _) (Nat.zero_le _)

-- Where the second factor is doubled exactly, the product is rounded once more.
theorem doublesTo_mul {a : Double} {q q' : Fin rankLimit} (hq : units q' = 2 * units q)
    (hfinite : a.isFinite = true) (h : (a * finite false q).isFinite = true)
    (h' : (a * finite false q').isFinite = true) :
    (a * finite false q).DoublesTo (a * finite false q') := by
  obtain ⟨s, r, rfl⟩ := isFinite_iff.1 hfinite
  rw [mul_eq_ofRank] at h h'
  rw [mul_eq_ofRank, mul_eq_ofRank, ofRank_of_lt _ (isFinite_ofRank.1 h),
    ofRank_of_lt _ (isFinite_ofRank.1 h')]
  have hproduct : units r * units q' = 2 * (units r * units q) := by
    rw [hq]
    ring
  obtain ⟨hle, hge⟩ := units_nearestRank_two_mul (units r * units q) unitsPerOne_pos
  rw [← hproduct] at hle hge
  exact .intro _ hle hge

theorem natAbs_signedUnits_sub_le (s : Bool) {r r' : Nat} (hle : units r' ≤ 2 * units r + 1)
    (hge : 2 * units r ≤ units r' + 1) :
    (signedUnits s r' - 2 * signedUnits s r).natAbs ≤ 1 := by
  cases s <;> simp only [signedUnits, if_true, Bool.false_eq_true, if_false] <;> omega

/-- Doubling does not bring two numbers together: what exceeds a distance before still does after, if
that distance is not among the smallest numbers itself. -/
theorem DoublesTo.lt_abs_sub {x x' y y' : Double} (hx : x.DoublesTo x') (hy : y.DoublesTo y')
    {distance : Fin rankLimit} (hdistance : units (distance + 1) ≤ 2 * units distance)
    (h : finite false distance < (x - y).abs) : finite false distance < (x' - y').abs := by
  cases hx with
  | @intro s r r' hxle hxge =>
    cases hy with
    | @intro t q q' hyle hyge =>
      obtain ⟨n, hsub, -⟩ := sub_eq_ofRank s t r q
      obtain ⟨n', hsub', -⟩ := sub_eq_ofRank s t r' q'
      rw [hsub, abs_ofRank, finite_false_lt_ofRank_iff] at h
      rw [hsub', abs_ofRank, finite_false_lt_ofRank_iff]
      -- Each end can take one unit off, but the distance was at least one unit farther.
      have hx := natAbs_signedUnits_sub_le s hxle hxge
      have hy := natAbs_signedUnits_sub_le t hyle hyge
      have hbeyond : units distance < (signedUnits s r - signedUnits t q).natAbs := by
        by_contra hwithin
        have := nearestRank_le_of_le (r := distance) Nat.one_pos (by omega :
          (signedUnits s r - signedUnits t q).natAbs ≤ units distance * 1)
        omega
      show distance.val + 1 ≤ _
      apply le_nearestRank_of_le Nat.one_pos
      omega

end Double

end PenPlotter
