import Mathlib.Tactic.Linarith
import Mathlib.Tactic.Ring
import Mathlib.Tactic.Positivity
import PenPlotter.Double.Basic

/-!
# Rounding to a rank

`nearestRank` is characterised by one equivalence: it stays at or below a rank exactly where the
rounded quotient stays at or below the point half way to the next rank.  That rounding is monotone,
leaves what is on the grid alone and goes to a nearest point of the grid follows from it.
-/

set_option autoImplicit false

namespace PenPlotter

attribute [local instance (high)] instPowNat

/-! ## 1. Rounded quotients -/

/-- A rounded quotient is at most half a unit off, and even where it is exactly half off. -/
theorem roundDiv_bounds (n d : Nat) (hd : 0 < d) :
    (2 * n < (2 * roundDiv n d + 1) * d ∨
      2 * n = (2 * roundDiv n d + 1) * d ∧ roundDiv n d % 2 = 0) ∧
    (2 * roundDiv n d * d < 2 * n + d ∨
      2 * roundDiv n d * d = 2 * n + d ∧ roundDiv n d % 2 = 0) := by
  have hn : d * (n / d) + n % d = n := Nat.div_add_mod n d
  have hr : n % d < d := Nat.mod_lt n hd
  unfold roundDiv
  simp only
  generalize n / d = q at *
  generalize n % d = r at *
  -- All bounds are linear in the multiple of the divisor.
  have hodd : (2 * q + 1) * d = 2 * (d * q) + d := by ring
  have heven : 2 * q * d = 2 * (d * q) := by ring
  have hodd' : (2 * (q + 1) + 1) * d = 2 * (d * q) + 3 * d := by ring
  have heven' : 2 * (q + 1) * d = 2 * (d * q) + 2 * d := by ring
  generalize d * q = multiple at *
  -- The remainder is below, above or at half of the divisor; at half the parity decides.
  split
  · constructor <;> left <;> omega
  · split
    · constructor <;> left <;> omega
    · have hhalf : 2 * r = d := by omega
      rcases Nat.mod_two_eq_zero_or_one q with h | h
      · rw [show q + q % 2 = q by omega]
        refine ⟨.inr ⟨?_, ?_⟩, .inl ?_⟩ <;> omega
      · rw [show q + q % 2 = q + 1 by omega]
        refine ⟨.inl ?_, .inr ⟨?_, ?_⟩⟩ <;> omega

theorem roundDiv_mono {n n' d : Nat} (hd : 0 < d) (h : n ≤ n') : roundDiv n d ≤ roundDiv n' d := by
  have hlower := (roundDiv_bounds n d hd).2
  have hupper := (roundDiv_bounds n' d hd).1
  generalize roundDiv n d = a at *
  generalize roundDiv n' d = b at *
  by_contra hlt
  have hstep : (2 * b + 1) * d + d + 2 * (a - (b + 1)) * d = 2 * a * d := by
    calc (2 * b + 1) * d + d + 2 * (a - (b + 1)) * d = 2 * (b + 1 + (a - (b + 1))) * d := by ring
      _ = 2 * a * d := by rw [Nat.add_sub_cancel' (by omega)]
  -- Both halves can only be rounded to even numbers, which are not neighbours.
  have hgap : a = b + 1 ∨ 0 < 2 * (a - (b + 1)) * d := by
    rcases Nat.eq_or_lt_of_le (show b + 1 ≤ a by omega) with h | h
    · exact .inl h.symm
    · exact .inr (Nat.mul_pos (by omega) hd)
  generalize (2 * b + 1) * d = high at *
  generalize 2 * a * d = low at *
  generalize 2 * (a - (b + 1)) * d = gap at *
  omega

theorem roundDiv_le_succ_div (n d : Nat) : roundDiv n d ≤ n / d + 1 := by
  unfold roundDiv
  simp only
  split
  · omega
  · split <;> omega

theorem div_le_roundDiv (n d : Nat) : n / d ≤ roundDiv n d := by
  unfold roundDiv
  simp only
  split
  · omega
  · split <;> omega

namespace Double

theorem blockSize_pos : 0 < blockSize := Nat.two_pow_pos 52

theorem blockSize_even : blockSize % 2 = 0 := rfl

theorem unitsPerOne_pos : 0 < unitsPerOne := by
  unfold unitsPerOne
  positivity

/-! ## 2. The grid -/

/-- The magnitudes of a block and of the rank after it, as multiples of the block's spacing. -/
theorem units_block (shift m : Nat) (hlow : shift = 0 ∨ blockSize ≤ m) (hhigh : m ≤ 2 * blockSize) :
    units (shift * blockSize + m) = m * 2 ^ shift := by
  have hpos := blockSize_pos
  -- The first block is evenly spaced down to zero: there a rank is its own magnitude.
  by_cases hfirst : m < blockSize
  · have hshift : shift = 0 := by omega
    subst hshift
    simp [units, hfirst]
  · have hge : blockSize ≤ shift * blockSize + m := by
      have := Nat.zero_le (shift * blockSize)
      omega
    rcases Nat.lt_or_ge m (2 * blockSize) with hm | hm
    · have hrank : shift * blockSize + m = (m - blockSize) + (shift + 1) * blockSize := by
        rw [Nat.add_mul]; omega
      have hlt : m - blockSize < blockSize := by omega
      rw [units, if_neg (by omega), hrank, Nat.add_mul_mod_self_right, Nat.mod_eq_of_lt hlt,
        Nat.add_mul_div_right _ _ hpos, Nat.div_eq_of_lt hlt]
      rw [show blockSize + (m - blockSize) = m by omega,
        show 0 + (shift + 1) - 1 = shift by omega]
    · -- The rank after the block is the first of the next one, at twice the spacing.
      have hm : m = 2 * blockSize := by omega
      have hrank : shift * blockSize + m = 0 + (shift + 2) * blockSize := by
        rw [Nat.add_mul]; omega
      rw [units, if_neg (by omega), hrank, Nat.add_mul_mod_self_right, Nat.zero_mod,
        Nat.add_mul_div_right _ _ hpos, Nat.zero_div, hm]
      rw [show 0 + (shift + 2) - 1 = shift + 1 by omega, Nat.pow_succ]
      ring

-- Every rank lies in a block.
theorem exists_block (r : Nat) :
    ∃ shift m, r = shift * blockSize + m ∧ (shift = 0 ∨ blockSize ≤ m) ∧ m < 2 * blockSize := by
  have hpos := blockSize_pos
  rcases Nat.lt_or_ge r blockSize with h | h
  · exact ⟨0, r, by omega, .inl rfl, by omega⟩
  · have hdiv : 1 ≤ r / blockSize := (Nat.le_div_iff_mul_le hpos).2 (by omega)
    have hmod : r % blockSize < blockSize := Nat.mod_lt r hpos
    have hr : blockSize * (r / blockSize) + r % blockSize = r := Nat.div_add_mod r blockSize
    refine ⟨r / blockSize - 1, blockSize + r % blockSize, ?_, .inr (by omega), by omega⟩
    obtain ⟨q, hq⟩ : ∃ q, r / blockSize = q + 1 := ⟨r / blockSize - 1, by omega⟩
    rw [hq, Nat.mul_succ, Nat.mul_comm] at hr
    rw [hq, Nat.add_sub_cancel]
    omega

theorem units_lt_succ (r : Nat) : units r < units (r + 1) := by
  obtain ⟨shift, m, rfl, hlow, hhigh⟩ := exists_block r
  rw [Nat.add_assoc, units_block shift m hlow (by omega),
    units_block shift (m + 1) (by omega) (by omega)]
  exact Nat.mul_lt_mul_of_pos_right (Nat.lt_succ_self m) (Nat.two_pow_pos shift)

theorem units_strictMono {r q : Nat} (h : r < q) : units r < units q := by
  induction q with
  | zero => omega
  | succ q ih =>
    rcases Nat.lt_or_ge r q with hlt | hge
    · exact (ih hlt).trans (units_lt_succ q)
    · rw [show r = q by omega]
      exact units_lt_succ q

theorem units_mono {r q : Nat} (h : r ≤ q) : units r ≤ units q := by
  rcases Nat.lt_or_eq_of_le h with h | h
  · exact (units_strictMono h).le
  · rw [h]

theorem units_le_units_iff {r q : Nat} : units r ≤ units q ↔ r ≤ q := by
  constructor
  · intro h
    by_contra hlt
    have := units_strictMono (show q < r by omega)
    omega
  · exact units_mono

/-- Against the spacing there a magnitude is not large: less than `2 ^ 53` steps and one. -/
theorem units_succ_le (r : Nat) : units (r + 1) ≤ 2 * blockSize * (units (r + 1) - units r) := by
  obtain ⟨shift, m, rfl, hlow, hhigh⟩ := exists_block r
  rw [Nat.add_assoc, units_block shift m hlow (by omega),
    units_block shift (m + 1) (by omega) (by omega)]
  have hstep : (m + 1) * 2 ^ shift - m * 2 ^ shift = 2 ^ shift := by
    rw [Nat.succ_mul, Nat.add_sub_cancel_left]
  rw [hstep]
  exact Nat.mul_le_mul_right _ (by omega)

-- A block has an even number of ranks.
theorem block_mod_two (shift m : Nat) : (shift * blockSize + m) % 2 = m % 2 := by
  rw [Nat.add_mod, Nat.mul_mod, blockSize_even, Nat.mul_zero, Nat.zero_mod, Nat.zero_add,
    Nat.mod_mod]

-- The rank after may belong to the next block, where the spacing is wider.
theorem le_units_block_succ {shift m : Nat} (hlow : shift = 0 ∨ blockSize ≤ m)
    (hhigh : m ≤ 2 * blockSize) : (m + 1) * 2 ^ shift ≤ units (shift * blockSize + m + 1) := by
  rcases Nat.lt_or_ge m (2 * blockSize) with hlt | hge
  · rw [Nat.add_assoc, units_block shift (m + 1) (by omega) (by omega)]
  · have hpos := blockSize_pos
    have hnext : shift * blockSize + m + 1 = (shift + 1) * blockSize + (blockSize + 1) := by
      rw [Nat.add_mul]; omega
    rw [hnext, units_block (shift + 1) (blockSize + 1) (.inr (by omega)) (by omega),
      show m = 2 * blockSize by omega, Nat.pow_succ]
    calc (2 * blockSize + 1) * 2 ^ shift ≤ (2 * blockSize + 1) * 2 ^ shift + 2 ^ shift :=
          Nat.le_add_right _ _
      _ = (blockSize + 1) * (2 ^ shift * 2) := by ring

-- The rank before the first of a block lies in a block of half the spacing, not far below it.
theorem units_lt_of_first {q k : Nat} (h : q + 1 = (k + 1) * blockSize + blockSize) :
    units q < 2 * blockSize * 2 ^ k := by
  have hpos := blockSize_pos
  have hbefore : q = k * blockSize + (2 * blockSize - 1) := by
    rw [Nat.add_mul] at h; omega
  rw [hbefore, units_block k _ (by omega) (by omega)]
  exact Nat.mul_lt_mul_of_pos_right (by omega) (Nat.two_pow_pos k)

@[simp] theorem units_zero : units 0 = 0 := rfl

/-! ## 3. The nearest rank -/

-- The block is chosen by the whole part of the quotient; rounding up may reach the block's end.
theorem nearestRank_block (n d : Nat) :
    ∃ shift m, nearestRank n d = shift * blockSize + m ∧ m = roundDiv n (d * 2 ^ shift) ∧
      m ≤ 2 * blockSize ∧ (shift = 0 ∨ blockSize ≤ m ∧ blockSize * (d * 2 ^ shift) ≤ n) := by
  refine ⟨(n / d).log2 - 52, _, rfl, rfl, ?_⟩
  have hquot : n / (d * 2 ^ ((n / d).log2 - 52)) = n / d / 2 ^ ((n / d).log2 - 52) :=
    (Nat.div_div_eq_div_mul _ _ _).symm
  have hup := roundDiv_le_succ_div n (d * 2 ^ ((n / d).log2 - 52))
  have hdown := div_le_roundDiv n (d * 2 ^ ((n / d).log2 - 52))
  rw [hquot] at hup hdown
  by_cases hzero : n / d = 0
  · rw [hzero] at hup ⊢
    refine ⟨?_, .inl rfl⟩
    rw [Nat.zero_div] at hup
    have := blockSize_pos
    omega
  have hlt : n / d < 2 ^ ((n / d).log2 + 1) := Nat.lt_log2_self
  have hle : 2 ^ (n / d).log2 ≤ n / d := Nat.log2_self_le hzero
  generalize hk : (n / d).log2 - 52 = shift at *
  have hbound : n / d / 2 ^ shift < 2 * blockSize := by
    apply (Nat.div_lt_iff_lt_mul (Nat.two_pow_pos shift)).2
    have hpow : 2 ^ ((n / d).log2 + 1) ≤ 2 ^ (53 + shift) :=
      Nat.pow_le_pow_right (by decide) (by omega)
    calc n / d < 2 ^ (53 + shift) := hlt.trans_le hpow
      _ = 2 * blockSize * 2 ^ shift := by rw [Nat.pow_add]; rfl
  refine ⟨by omega, ?_⟩
  by_cases hshift : shift = 0
  · exact .inl hshift
  · right
    have hpow : blockSize * 2 ^ shift ≤ n / d := by
      calc blockSize * 2 ^ shift = 2 ^ (52 + shift) := (Nat.pow_add 2 52 shift).symm
        _ ≤ 2 ^ (n / d).log2 := Nat.pow_le_pow_right (by decide) (by omega)
        _ ≤ n / d := hle
    constructor
    · exact ((Nat.le_div_iff_mul_le (Nat.two_pow_pos shift)).2 hpow).trans hdown
    · calc blockSize * (d * 2 ^ shift) = d * (blockSize * 2 ^ shift) := by ring
        _ ≤ d * (n / d) := Nat.mul_le_mul_left d hpow
        _ ≤ n := Nat.mul_div_le n d

/-- The rounded quotient is not beyond the point half way to the next rank. -/
theorem nearestRank_upper (n d : Nat) (hd : 0 < d) :
    2 * n < d * (units (nearestRank n d) + units (nearestRank n d + 1)) ∨
      2 * n = d * (units (nearestRank n d) + units (nearestRank n d + 1)) ∧
        nearestRank n d % 2 = 0 := by
  obtain ⟨shift, m, hrank, hm, hhigh, hlow⟩ := nearestRank_block n d
  have hspace : 0 < d * 2 ^ shift := Nat.mul_pos hd (Nat.two_pow_pos shift)
  have hround := (roundDiv_bounds n (d * 2 ^ shift) hspace).1
  rw [← hm] at hround
  have hunits : units (nearestRank n d) = m * 2 ^ shift := by
    rw [hrank]
    exact units_block shift m (hlow.imp_right And.left) hhigh
  have hparity : nearestRank n d % 2 = m % 2 := by rw [hrank, block_mod_two]
  have hnext : (m + 1) * 2 ^ shift ≤ units (nearestRank n d + 1) := by
    rw [hrank]
    exact le_units_block_succ (hlow.imp_right And.left) hhigh
  have hhalf : (2 * m + 1) * (d * 2 ^ shift) ≤
      d * (units (nearestRank n d) + units (nearestRank n d + 1)) := by
    calc (2 * m + 1) * (d * 2 ^ shift) = d * (m * 2 ^ shift + (m + 1) * 2 ^ shift) := by ring
      _ ≤ _ := by rw [hunits]; exact Nat.mul_le_mul_left d (Nat.add_le_add_left hnext _)
  rw [hparity]
  rcases hround with h | ⟨h, heven⟩
  · exact .inl (h.trans_le hhalf)
  · rcases Nat.lt_or_eq_of_le hhalf with hlt | heq
    · exact .inl (h.trans_lt hlt)
    · exact .inr ⟨h.trans heq, heven⟩

/-- The rounded quotient is not before the point half way to the rank before. -/
theorem nearestRank_lower (n d q : Nat) (hd : 0 < d) (hq : nearestRank n d = q + 1) :
    d * (units q + units (q + 1)) < 2 * n ∨
      d * (units q + units (q + 1)) = 2 * n ∧ (q + 1) % 2 = 0 := by
  obtain ⟨shift, m, hrank, hm, hhigh, hlow⟩ := nearestRank_block n d
  have hspace : 0 < d * 2 ^ shift := Nat.mul_pos hd (Nat.two_pow_pos shift)
  have hround := (roundDiv_bounds n (d * 2 ^ shift) hspace).2
  rw [← hm] at hround
  have hunits : units (q + 1) = m * 2 ^ shift := by
    rw [← hq, hrank]
    exact units_block shift m (hlow.imp_right And.left) hhigh
  have hparity : (q + 1) % 2 = m % 2 := by rw [← hq, hrank, block_mod_two]
  rw [hq] at hrank
  by_cases hedge : shift ≠ 0 ∧ m = blockSize
  · -- The quotient is not below the first rank of a block, and the rank before is close to that.
    obtain ⟨hshift, hmin⟩ := hedge
    obtain ⟨k, rfl⟩ : ∃ k, shift = k + 1 := ⟨shift - 1, by omega⟩
    have hbefore : units q < 2 * blockSize * 2 ^ k := units_lt_of_first (by rw [hrank, hmin])
    have hge : blockSize * (d * 2 ^ (k + 1)) ≤ n := by omega
    have hdouble : blockSize * 2 ^ (k + 1) = 2 * blockSize * 2 ^ k := by ring
    left
    rw [hunits, hmin]
    calc d * (units q + blockSize * 2 ^ (k + 1))
        < d * (2 * (blockSize * 2 ^ (k + 1))) := Nat.mul_lt_mul_of_pos_left (by omega) hd
      _ = 2 * (blockSize * (d * 2 ^ (k + 1))) := by ring
      _ ≤ 2 * n := Nat.mul_le_mul_left 2 hge
  · have hmpos : 1 ≤ m := by
      rcases hlow with h | h
      · subst h; omega
      · have := blockSize_pos; omega
    have hbefore : units q = (m - 1) * 2 ^ shift := by
      rw [show q = shift * blockSize + (m - 1) by omega]
      exact units_block shift (m - 1) (by omega) (by omega)
    obtain ⟨k, rfl⟩ : ∃ k, m = k + 1 := ⟨m - 1, by omega⟩
    rw [hparity, hunits, hbefore, Nat.add_sub_cancel]
    have hsum : d * (k * 2 ^ shift + (k + 1) * 2 ^ shift) + d * 2 ^ shift =
        2 * (k + 1) * (d * 2 ^ shift) := by ring
    rcases hround with h | ⟨h, heven⟩
    · left; omega
    · right; exact ⟨by omega, heven⟩

/-- **Rounding, characterised.**  A quotient rounds to at most `r` exactly where it lies before the
point half way from `r` to the next rank, or on that point if `r` is even. -/
theorem nearestRank_le_iff (n d r : Nat) (hd : 0 < d) :
    nearestRank n d ≤ r ↔ 2 * n < d * (units r + units (r + 1)) ∨
      2 * n = d * (units r + units (r + 1)) ∧ r % 2 = 0 := by
  constructor
  · intro h
    have hupper := nearestRank_upper n d hd
    rcases Nat.lt_or_eq_of_le h with hlt | heq
    · left
      have h1 := units_strictMono hlt
      have h2 := units_strictMono (Nat.add_lt_add_right hlt 1)
      have hmul : d * (units (nearestRank n d) + units (nearestRank n d + 1)) <
          d * (units r + units (r + 1)) := Nat.mul_lt_mul_of_pos_left (by omega) hd
      omega
    · rwa [heq] at hupper
  · -- A quotient that rounds beyond `r` is not before the point half way to the rank it rounds to.
    intro h
    by_contra hgt
    obtain ⟨q, hq⟩ : ∃ q, nearestRank n d = q + 1 := ⟨nearestRank n d - 1, by omega⟩
    have hlower := nearestRank_lower n d q hd hq
    have hrq : r ≤ q := by omega
    have hmul : d * (units r + units (r + 1)) ≤ d * (units q + units (q + 1)) :=
      Nat.mul_le_mul_left d (Nat.add_le_add (units_mono hrq) (units_mono (by omega)))
    rcases Nat.lt_or_eq_of_le hrq with hlt | heq
    · have hstrict : d * (units r + units (r + 1)) < d * (units q + units (q + 1)) :=
        Nat.mul_lt_mul_of_pos_left
          (Nat.add_lt_add (units_strictMono hlt) (units_strictMono (by omega))) hd
      omega
    · subst heq
      omega

theorem nearestRank_mono {n d n' d' : Nat} (hd : 0 < d) (hd' : 0 < d') (h : n * d' ≤ n' * d) :
    nearestRank n d ≤ nearestRank n' d' := by
  rw [nearestRank_le_iff n d _ hd]
  have hupper := nearestRank_upper n' d' hd'
  generalize units (nearestRank n' d') + units (nearestRank n' d' + 1) = s at *
  -- The two quotients are compared over the common denominator.
  have hcross : d' * (2 * n) ≤ d * (2 * n') := by nlinarith
  have hswap : d * (d' * s) = d' * (d * s) := by ring
  rcases hupper with hlt | ⟨heq, heven⟩
  · left
    have : d * (2 * n') < d * (d' * s) := Nat.mul_lt_mul_of_pos_left hlt hd
    exact Nat.lt_of_mul_lt_mul_left (a := d') (by omega)
  · have hle : 2 * n ≤ d * s := by
      have : d * (2 * n') = d * (d' * s) := by rw [heq]
      exact Nat.le_of_mul_le_mul_left (by omega : d' * (2 * n) ≤ d' * (d * s)) hd'
    rcases Nat.lt_or_eq_of_le hle with h | h
    · exact .inl h
    · exact .inr ⟨h, heven⟩

theorem nearestRank_congr {n d n' d' : Nat} (hd : 0 < d) (hd' : 0 < d') (h : n * d' = n' * d) :
    nearestRank n d = nearestRank n' d' :=
  Nat.le_antisymm (nearestRank_mono hd hd' h.le) (nearestRank_mono hd' hd h.ge)

-- What is on the grid stays where it is.
theorem nearestRank_exact (r d : Nat) (hd : 0 < d) : nearestRank (units r * d) d = r := by
  apply Nat.le_antisymm
  · rw [nearestRank_le_iff _ _ _ hd]
    left
    have := units_lt_succ r
    nlinarith
  · by_contra hlt
    obtain ⟨q, rfl⟩ : ∃ q, r = q + 1 := ⟨r - 1, by omega⟩
    have hle : nearestRank (units (q + 1) * d) d ≤ q := by omega
    rw [nearestRank_le_iff _ _ _ hd] at hle
    have := units_lt_succ q
    rcases hle with h | ⟨h, _⟩ <;> nlinarith

@[simp] theorem nearestRank_units (r : Nat) : nearestRank (units r) 1 = r := by
  simpa using nearestRank_exact r 1 Nat.one_pos

@[simp] theorem nearestRank_zero (d : Nat) : nearestRank 0 d = 0 := by
  simp [nearestRank, roundDiv]

-- A quotient at or below a magnitude of the grid rounds to at most its rank.
theorem nearestRank_le_of_le {n d r : Nat} (hd : 0 < d) (h : n ≤ units r * d) :
    nearestRank n d ≤ r := by
  have hmono : nearestRank n d ≤ nearestRank (units r) 1 :=
    nearestRank_mono hd Nat.one_pos (by omega)
  rwa [nearestRank_units] at hmono

-- A quotient at or above a magnitude of the grid rounds to at least its rank.
theorem le_nearestRank_of_le {n d r : Nat} (hd : 0 < d) (h : units r * d ≤ n) :
    r ≤ nearestRank n d := by
  have hmono : nearestRank (units r) 1 ≤ nearestRank n d :=
    nearestRank_mono Nat.one_pos hd (by omega)
  rwa [nearestRank_units] at hmono

/-- What is near a magnitude, against its size, rounds to it. -/
theorem nearestRank_eq_of_near {n d e r : Nat} (hd : 0 < d) (hr : 0 < r)
    (hlow : 2 * (units r * d) ≤ 2 * n + e) (hhigh : 2 * n ≤ 2 * (units r * d) + e)
    (hfine : 2 * blockSize * e < units r * d) : nearestRank n d = r := by
  obtain ⟨q, rfl⟩ : ∃ q, r = q + 1 := ⟨r - 1, by omega⟩
  -- Half a step is more than the distance, on either side.
  have hbelow : e < (units (q + 1) - units q) * d := by
    apply Nat.lt_of_mul_lt_mul_left (a := 2 * blockSize)
    calc 2 * blockSize * e < units (q + 1) * d := hfine
      _ ≤ 2 * blockSize * (units (q + 1) - units q) * d := Nat.mul_le_mul_right d (units_succ_le q)
      _ = 2 * blockSize * ((units (q + 1) - units q) * d) := Nat.mul_assoc _ _ _
  have habove : e < (units (q + 1 + 1) - units (q + 1)) * d := by
    apply Nat.lt_of_mul_lt_mul_left (a := 2 * blockSize)
    calc 2 * blockSize * e < units (q + 1) * d := hfine
      _ ≤ units (q + 1 + 1) * d := Nat.mul_le_mul_right d (units_lt_succ (q + 1)).le
      _ ≤ 2 * blockSize * (units (q + 1 + 1) - units (q + 1)) * d :=
        Nat.mul_le_mul_right d (units_succ_le (q + 1))
      _ = 2 * blockSize * ((units (q + 1 + 1) - units (q + 1)) * d) := Nat.mul_assoc _ _ _
  have hq := units_lt_succ q
  have hq' := units_lt_succ (q + 1)
  rw [Nat.sub_mul] at hbelow habove
  apply Nat.le_antisymm
  · rw [nearestRank_le_iff _ _ _ hd, Nat.mul_add, Nat.mul_comm d, Nat.mul_comm d]
    left
    omega
  · by_contra hlt
    have hle : nearestRank n d ≤ q := by omega
    rw [nearestRank_le_iff _ _ _ hd, Nat.mul_add, Nat.mul_comm d, Nat.mul_comm d] at hle
    omega

/-- Rounding goes to a nearest magnitude: none of the grid is closer to the quotient. -/
theorem nearestRank_nearest (n d r : Nat) (hd : 0 < d) :
    |((units (nearestRank n d) * d : Nat) : Int) - n| ≤ |((units r * d : Nat) : Int) - n| := by
  have hstep (q : Nat) : units q * d < units (q + 1) * d :=
    Nat.mul_lt_mul_of_pos_right (units_lt_succ q) hd
  have hsum (q : Nat) : d * (units q + units (q + 1)) = units q * d + units (q + 1) * d := by ring
  have hright := le_abs_self (((units r * d : Nat) : Int) - n)
  have hleft := neg_abs_le (((units r * d : Nat) : Int) - n)
  rcases Nat.lt_trichotomy r (nearestRank n d) with h | h | h
  · obtain ⟨q, hq⟩ : ∃ q, nearestRank n d = q + 1 := ⟨nearestRank n d - 1, by omega⟩
    have hlower := nearestRank_lower n d q hd hq
    have hrq : units r * d ≤ units q * d := Nat.mul_le_mul_right d (units_mono (by omega))
    have := hstep q
    rw [hsum] at hlower
    rw [hq, abs_le]
    constructor <;> omega
  · rw [h]
  · have hupper := nearestRank_upper n d hd
    have hrq : units (nearestRank n d + 1) * d ≤ units r * d :=
      Nat.mul_le_mul_right d (units_mono h)
    have := hstep (nearestRank n d)
    rw [hsum] at hupper
    rw [abs_le]
    constructor <;> omega

end Double

end PenPlotter
