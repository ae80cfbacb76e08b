import PenPlotter.Proofs.Decimal.Nearest

/-!
# The shortest text reads back

The shortest digits of a double are searched for among decimals that round to it, and the search
never fails: eighteen digits are finer than the doubles are anywhere.  However the digits are laid
out, reading the text gives the double again.
-/

set_option autoImplicit false

namespace PenPlotter

attribute [local instance (high)] instPowNat

attribute [local irreducible] Double.unitsPerOne

namespace Decimal

open Double Text readsBack

/-! ## 1. Scales -/

-- Powers of two bases compare as those two do that are given.
theorem pow_le_pow_of_base {x y p t a n : Nat} (hx : 0 < x) (ht : t ≠ 0) (hbase : x ^ p ≤ y ^ t)
    (h : t * a ≤ p * n) : x ^ a ≤ y ^ n := by
  apply (Nat.pow_le_pow_iff_left ht).1
  calc (x ^ a) ^ t = x ^ (t * a) := by rw [← Nat.pow_mul, Nat.mul_comm]
    _ ≤ x ^ (p * n) := Nat.pow_le_pow_right hx h
    _ = (x ^ p) ^ n := Nat.pow_mul x p n
    _ ≤ (y ^ t) ^ n := Nat.pow_le_pow_left hbase n
    _ = (y ^ n) ^ t := by rw [← Nat.pow_mul, ← Nat.pow_mul, Nat.mul_comm]

/-- The estimate of a decimal logarithm that `scale` starts from is one too large at most. -/
theorem ten_pow_estimate_le {b j : Int} (hb : -4096 ≤ b) (hj : j = b * 1233 / 4096 - 1) :
    10 ^ j.toNat * 2 ^ (-b).toNat ≤ 2 ^ b.toNat * 10 ^ (-j).toNat := by
  rcases Int.le_total 0 b with h | h
  · rw [Int.toNat_eq_zero.2 (Int.neg_nonpos_of_nonneg h), Nat.pow_zero, Nat.mul_one]
    apply le_mul_of_le_of_one_le _ (ten_pow_pos _)
    exact pow_le_pow_of_base (by decide) (by decide) (by decide +kernel : 10 ^ 1233 ≤ 2 ^ 4096)
      (by omega)
  · rw [Int.toNat_eq_zero.2 h, Int.toNat_eq_zero.2 (by omega : j ≤ 0), Nat.pow_zero,
      Nat.one_mul, Nat.one_mul]
    exact pow_le_pow_of_base (by decide) (by decide) (by decide +kernel : 2 ^ 4096 ≤ 10 ^ 1234)
      (by omega)

theorem powerLe_scale {n d : Nat}
    (h : powerLe (((n.log2 : Int) - d.log2) * 1233 / 4096 - 1) n d = true) :
    powerLe (scale n d) n d = true := by
  unfold scale
  simp only
  generalize ((n.log2 : Int) - d.log2) * 1233 / 4096 = estimate at *
  cases hfind : [estimate + 2, estimate + 1, estimate, estimate - 1].find? fun k => powerLe k n d with
  | none => exact absurd h (List.find?_eq_none.1 hfind (estimate - 1) (by simp))
  | some k =>
    have hfound := List.find?_some hfind
    exact hfound

theorem log2_unitsPerOne : unitsPerOne.log2 = 1074 := by decide +kernel

/-- The scale of a magnitude is not above it. -/
theorem powerLe_scale_units {r : Nat} (hr : 0 < r) :
    powerLe (scale (units r) unitsPerOne) (units r) unitsPerOne = true := by
  apply powerLe_scale
  have hpos : units r ≠ 0 := (units_strictMono hr).ne'
  have hpow : 2 ^ (units r).log2 ≤ units r := Nat.log2_self_le hpos
  rw [log2_unitsPerOne]
  generalize hb : ((units r).log2 : Int) - (1074 : Nat) = b
  have hestimate := ten_pow_estimate_le (b := b) (by omega) rfl
  generalize b * 1233 / 4096 - 1 = j at *
  have hexponents : (units r).log2 + (-b).toNat = b.toNat + 1074 := by omega
  have hunits : 2 ^ b.toNat * unitsPerOne ≤ units r * 2 ^ (-b).toNat := by
    calc 2 ^ b.toNat * unitsPerOne = 2 ^ ((units r).log2 + (-b).toNat) := by
          rw [hexponents, Nat.pow_add, unitsPerOne]
      _ = 2 ^ (units r).log2 * 2 ^ (-b).toNat := Nat.pow_add _ _ _
      _ ≤ units r * 2 ^ (-b).toNat := Nat.mul_le_mul_right _ hpow
  rw [powerLe, decide_eq_true_iff]
  apply Nat.le_of_mul_le_mul_right _ (Nat.two_pow_pos (-b).toNat)
  calc unitsPerOne * 10 ^ j.toNat * 2 ^ (-b).toNat
      = unitsPerOne * (10 ^ j.toNat * 2 ^ (-b).toNat) := Nat.mul_assoc _ _ _
    _ ≤ unitsPerOne * (2 ^ b.toNat * 10 ^ (-j).toNat) := Nat.mul_le_mul_left _ hestimate
    _ = 2 ^ b.toNat * unitsPerOne * 10 ^ (-j).toNat := by ring
    _ ≤ units r * 2 ^ (-b).toNat * 10 ^ (-j).toNat := Nat.mul_le_mul_right _ hunits
    _ = units r * 10 ^ (-j).toNat * 2 ^ (-b).toNat := by ring

/-! ## 2. Enough digits -/

-- Seventeen places below a magnitude the grid is finer than the doubles there.
theorem nearestRankOf_roundAt {r : Nat} (hr : 0 < r) {k : Int}
    (hk : powerLe (k + (17 : Nat)) (units r) unitsPerOne = true) :
    nearestRankOf (roundAt k (units r) unitsPerOne) k = r := by
  have hone := unitsPerOne_pos
  have hpos : 0 < unitsPerOne * 10 ^ k.toNat := Nat.mul_pos hone (ten_pow_pos _)
  obtain ⟨hupper, hlower⟩ :=
    roundDiv_bounds (units r * 10 ^ (-k).toNat) (unitsPerOne * 10 ^ k.toNat) hpos
  rw [powerLe, decide_eq_true_iff] at hk
  -- The places of both scales are compared over a common power of ten.
  have hscale : 10 ^ 17 * (unitsPerOne * 10 ^ k.toNat) ≤ units r * 10 ^ (-k).toNat := by
    apply Nat.le_of_mul_le_mul_right _ (ten_pow_pos (-(k + (17 : Nat))).toNat)
    calc 10 ^ 17 * (unitsPerOne * 10 ^ k.toNat) * 10 ^ (-(k + (17 : Nat))).toNat
        = unitsPerOne * (10 ^ 17 * 10 ^ k.toNat * 10 ^ (-(k + (17 : Nat))).toNat) := by ring
      _ = unitsPerOne * (10 ^ (k + (17 : Nat)).toNat * 10 ^ (-k).toNat) := by rw [pow_toNat_add]
      _ = unitsPerOne * 10 ^ (k + (17 : Nat)).toNat * 10 ^ (-k).toNat := by ring
      _ ≤ units r * 10 ^ (-(k + (17 : Nat))).toNat * 10 ^ (-k).toNat := Nat.mul_le_mul_right _ hk
      _ = units r * 10 ^ (-k).toNat * 10 ^ (-(k + (17 : Nat))).toNat := by ring
  have hblock : 2 * blockSize < 10 ^ 17 := by decide
  rw [nearestRankOf, roundAt]
  generalize roundDiv (units r * 10 ^ (-k).toNat) (unitsPerOne * 10 ^ k.toNat) = m at *
  have hproduct : m * 10 ^ k.toNat * unitsPerOne = m * (unitsPerOne * 10 ^ k.toNat) := by ring
  rw [hproduct]
  generalize unitsPerOne * 10 ^ k.toNat = step at *
  have hupper' : (2 * m + 1) * step = 2 * (m * step) + step := by ring
  have hlower' : 2 * m * step = 2 * (m * step) := by ring
  rw [hupper'] at hupper
  rw [hlower'] at hlower
  apply nearestRank_eq_of_near (e := step) (ten_pow_pos _) hr (by omega) (by omega)
  calc 2 * blockSize * step < 10 ^ 17 * step := Nat.mul_lt_mul_of_pos_right hblock hpos
    _ ≤ _ := hscale

/-! ## 3. The shortest digits -/

theorem nearestRankOf_onGrid {r m : Nat} {k : Int} (h : onGrid r k = some m) :
    nearestRankOf m k = r := by
  rw [onGrid] at h
  have hread := List.find?_some h
  rwa [readsBack, decide_eq_true_iff] at hread

/-- The shortest digits of a rank are read as that rank. -/
theorem nearestRankOf_shortest {r : Nat} (hr : 0 < r) :
    nearestRankOf (shortest r).1 (shortest r).2 = r := by
  have htop := powerLe_scale_units hr
  rw [shortest]
  generalize scale (units r) unitsPerOne = top at *
  generalize hfound : (List.range 17).findSome? _ = found
  cases found with
  | none => exact nearestRankOf_roundAt hr (by rwa [Int.sub_add_cancel])
  | some decimal =>
    obtain ⟨places, -, hplaces⟩ := List.exists_of_findSome?_eq_some hfound
    obtain ⟨m, hm, rfl⟩ := Option.map_eq_some_iff.1 hplaces
    exact nearestRankOf_onGrid (Option.filter_eq_some_iff.1 hm).1

theorem shortest_ne_zero {r : Nat} (hr : 0 < r) : (shortest r).1 ≠ 0 := by
  intro hzero
  have hread := nearestRankOf_shortest hr
  rw [hzero, nearestRankOf_zero] at hread
  omega

/-! ## 4. Layout -/

theorem head?_digits {m : Nat} (hm : m ≠ 0) : (digits m).head? ≠ some '0' := by
  induction m using Nat.strongRecOn with
  | ind m ih =>
    rw [digits, Nat.toDigits_eq_if (by decide)]
    by_cases hlt : m < 10
    · rw [if_pos hlt]
      interval_cases m <;> first | exact absurd rfl hm | decide
    · rw [if_neg hlt, List.head?_append_of_ne_nil _ Nat.toDigits_ne_nil]
      exact ih (m / 10) (by omega) (by omega)

theorem exists_eq_dropZeros_append (ds : List Char) : ∃ z, ds = dropZeros ds ++ List.replicate z '0' := by
  refine ⟨(ds.reverse.takeWhile (· = '0')).length, ?_⟩
  have hzeros : List.replicate (ds.reverse.takeWhile (· = '0')).length '0' =
      (ds.reverse.takeWhile (· = '0')).reverse := by
    symm
    rw [List.eq_replicate_iff, List.length_reverse]
    refine ⟨rfl, fun c hc => ?_⟩
    have hall := List.all_eq_true.1 (List.all_takeWhile (p := (· = '0')) (l := ds.reverse))
    exact of_decide_eq_true (hall c (List.mem_reverse.1 hc))
  rw [hzeros, dropZeros, ← List.reverse_append, List.takeWhile_append_dropWhile,
    List.reverse_reverse]

theorem allDigits_dropZeros (m : Nat) : AllDigits (dropZeros (digits m)) := by
  obtain ⟨z, hz⟩ := exists_eq_dropZeros_append (digits m)
  intro c hc
  apply allDigits_digits m
  rw [hz]
  exact List.mem_append_left _ hc

-- The first digit is no zero, so it stays.
theorem dropZeros_ne_nil {m : Nat} (hm : m ≠ 0) : dropZeros (digits m) ≠ [] := by
  intro hnil
  obtain ⟨z, hz⟩ := exists_eq_dropZeros_append (digits m)
  have hhead := head?_digits hm
  have hdigits := digits_ne_nil m
  rw [hnil, List.nil_append] at hz
  rw [hz] at hhead hdigits
  cases z <;> simp_all [List.replicate_succ]

theorem head?_dropZeros {m : Nat} (hm : m ≠ 0) : (dropZeros (digits m)).head? ≠ some '0' := by
  obtain ⟨z, hz⟩ := exists_eq_dropZeros_append (digits m)
  have hhead : (digits m).head? = (dropZeros (digits m)).head? := by
    conv_lhs => rw [hz, List.head?_append_of_ne_nil _ (dropZeros_ne_nil hm)]
  rw [← hhead]
  exact head?_digits hm

/-- What the dropped zeros stood for. -/
theorem exists_value_dropZeros (m : Nat) :
    ∃ z, m = ofDigits 10 ((dropZeros (digits m)).filterMap digit?) * 10 ^ z ∧
      (digits m).length = (dropZeros (digits m)).length + z := by
  obtain ⟨z, hz⟩ := exists_eq_dropZeros_append (digits m)
  refine ⟨z, ?_, ?_⟩
  · rw [← ofDigits_append_zeros (allDigits_dropZeros m), ← hz, ofDigits_digits]
  · conv_lhs => rw [hz, List.length_append, List.length_replicate]

/-- The parts of a decimal that digits are laid out as: a decimal of their value, with a fraction or
an exponent. -/
structure Parts.IsLayout (p : Parts) (ds : List Char) (e : Int) : Prop where
  text : layout ds e = p.text
  standard : p.Standard
  isWhole : p.isWhole = false
  rank : nearestRankOf p.number p.place =
    nearestRankOf (ofDigits 10 (ds.filterMap digit?)) (e + 1 - ds.length)

-- One digit before the point, the others after it.
theorem isLayout_exponent {c : Char} {rest : List Char} {e : Int} (hds : AllDigits (c :: rest))
    (hfar : e < -4 ∨ 16 ≤ e) : Parts.IsLayout ⟨[c], rest, some e⟩ (c :: rest) e := by
  refine ⟨?_, ⟨⟨hds.take 1, by simp, hds.drop 1⟩, by simp⟩, by simp [Parts.isWhole], ?_⟩
  · rw [layout.eq_def, if_pos hfar]
    cases rest <;> simp [Parts.text, Parts.tail]
  · congr 1
    simp only [Parts.place, Option.getD_some, List.length_cons]
    omega

section Layouts

variable {ds : List Char} {e : Int} (hds : AllDigits ds) (hne : ds ≠ [])

include hds hne

-- All digits after the point, and zeros in front of them.
theorem isLayout_fraction (hnear : ¬(e < -4 ∨ 16 ≤ e)) (hneg : e < 0) :
    Parts.IsLayout ⟨['0'], List.replicate (-e - 1).toNat '0' ++ ds, none⟩ ds e := by
  refine ⟨?_, ⟨⟨allDigits_zeros 1, by simp, (allDigits_zeros _).append hds⟩, fun _ => rfl⟩,
    by simp [Parts.isWhole, hne], ?_⟩
  · simp [layout, if_neg hnear, if_pos hneg, Parts.text, Parts.tail, hne]
  · have hnumber : Parts.number ⟨['0'], List.replicate (-e - 1).toNat '0' ++ ds, none⟩ =
        ofDigits 10 (ds.filterMap digit?) := by
      rw [Parts.number, ← List.append_assoc]
      exact ofDigits_zeros_append ((-e - 1).toNat + 1) hds
    rw [hnumber]
    congr 1
    simp only [Parts.place, Option.getD_none, List.length_append, List.length_replicate]
    omega

-- The digits end before the point, where zeros fill the places and one more follows.
theorem isLayout_whole (hlead : ds.head? ≠ some '0') (hnear : ¬(e < -4 ∨ 16 ≤ e)) (hneg : ¬e < 0)
    (hshort : ds.length ≤ e.toNat + 1) :
    Parts.IsLayout ⟨ds ++ List.replicate (e.toNat + 1 - ds.length) '0', ['0'], none⟩ ds e := by
  refine ⟨?_, ⟨⟨hds.append (allDigits_zeros _), by simp [hne], allDigits_zeros 1⟩, ?_⟩, rfl, ?_⟩
  · simp [layout, if_neg hnear, if_neg hneg, Parts.text, Parts.tail,
      List.take_of_length_le hshort, List.drop_of_length_le hshort]
  · rw [List.head?_append_of_ne_nil _ hne]
    exact fun h => absurd h hlead
  · have hnumber : Parts.number ⟨ds ++ List.replicate (e.toNat + 1 - ds.length) '0', ['0'], none⟩ =
        ofDigits 10 (ds.filterMap digit?) * 10 ^ (e.toNat + 1 - ds.length + 1) := by
      rw [Parts.number, List.append_assoc, ← ofDigits_append_zeros hds, List.replicate_succ']
    rw [hnumber, nearestRankOf_mul_pow]
    congr 1
    simp only [Parts.place, Option.getD_none, List.length_singleton]
    omega

-- The point among the digits.
theorem isLayout_mixed (hlead : ds.head? ≠ some '0') (hnear : ¬(e < -4 ∨ 16 ≤ e)) (hneg : ¬e < 0)
    (hlong : ¬ds.length ≤ e.toNat + 1) :
    Parts.IsLayout ⟨ds.take (e.toNat + 1), ds.drop (e.toNat + 1), none⟩ ds e := by
  have hdrop : ds.drop (e.toNat + 1) ≠ [] := by
    rw [Ne, List.drop_eq_nil_iff]
    exact hlong
  refine ⟨?_, ⟨⟨hds.take _, by simp [hne], hds.drop _⟩, ?_⟩, by simp [Parts.isWhole, hdrop], ?_⟩
  · have hfill : e.toNat + 1 - ds.length = 0 := by omega
    simp [layout, if_neg hnear, if_neg hneg, Parts.text, Parts.tail, hdrop, hfill]
  · rw [List.head?_take, if_neg (by omega)]
    exact fun h => absurd h hlead
  · rw [Parts.number, List.take_append_drop]
    congr 1
    simp only [Parts.place, Option.getD_none, List.length_drop]
    omega

/-- Digits that do not start with a zero have a layout. -/
theorem exists_isLayout (hlead : ds.head? ≠ some '0') (e : Int) :
    ∃ p : Parts, p.IsLayout ds e := by
  by_cases hnear : e < -4 ∨ 16 ≤ e
  · obtain ⟨c, rest, rfl⟩ := List.exists_cons_of_ne_nil hne
    exact ⟨_, isLayout_exponent hds hnear⟩
  by_cases hneg : e < 0
  · exact ⟨_, isLayout_fraction hds hne hnear hneg⟩
  by_cases hlong : ds.length ≤ e.toNat + 1
  · exact ⟨_, isLayout_whole hds hne hlead hnear hneg hlong⟩
  · exact ⟨_, isLayout_mixed hds hne hlead hnear hneg hlong⟩

end Layouts

end Decimal

namespace Double

open Decimal Text readsBack

/-- The shortest text of a finite double is a decimal that rounds to it. -/
theorem exists_parts_textChars (s : Bool) (r : Fin rankLimit) :
    ∃ p : Parts, (finite s r).textChars = signed s p.text ∧ p.Standard ∧ p.isWhole = false ∧
      nearestRankOf p.number p.place = r := by
  rw [textChars]
  by_cases hzero : r.val = 0
  · rw [if_pos hzero, hzero]
    exact ⟨⟨['0'], ['0'], none⟩, rfl,
      ⟨⟨allDigits_zeros 1, by simp, allDigits_zeros 1⟩, fun _ => rfl⟩, rfl, nearestRankOf_zero _⟩
  rw [if_neg hzero]
  have hr : 0 < r.val := Nat.pos_of_ne_zero hzero
  have hread := nearestRankOf_shortest hr
  have hne := shortest_ne_zero hr
  generalize shortest r = decimal at *
  obtain ⟨m, k⟩ := decimal
  dsimp only at *
  obtain ⟨p, hp⟩ := exists_isLayout (allDigits_dropZeros m) (dropZeros_ne_nil hne)
    (head?_dropZeros hne) (k + ((digits m).length - 1 : Nat))
  obtain ⟨z, hvalue, hlength⟩ := exists_value_dropZeros m
  have hscaled := nearestRankOf_mul_pow (ofDigits 10 ((dropZeros (digits m)).filterMap digit?)) z k
  rw [← hvalue, hread] at hscaled
  have hpos := List.length_pos_iff.2 (dropZeros_ne_nil hne)
  refine ⟨p, by rw [hp.text], hp.standard, hp.isWhole, ?_⟩
  rw [hp.rank, hscaled]
  congr 1
  omega

end Double

end PenPlotter
