import PenPlotter.Proofs.Decimal.Nearest

/-!
# Coordinates in print

A finite coordinate is printed as its nearest number of thousandths.  Read back, it is the double
nearest to what was printed, and so within a thousandth of the coordinate itself.
-/

set_option autoImplicit false

namespace PenPlotter

open Decimal

attribute [local instance (high)] instPowNat List.decidableBAll

attribute [local irreducible] Double.unitsPerOne

/-! ## 1. The printed text -/

def thousandths (rank : Nat) : Nat :=
  roundDiv (Double.units rank * 1000) Double.unitsPerOne

theorem roundAt_three (rank : Nat) :
    roundAt (-(3 : Nat)) (Double.units rank) Double.unitsPerOne = thousandths rank := by
  simp [roundAt, thousandths]

theorem ofDigits_point (n : Nat) : Text.ofDigits 10 ((point 3 n).filterMap Text.digit?) = n := by
  obtain ⟨whole, fraction, hpoint, p⟩ := exists_pointed 3 n (by decide)
  rw [hpoint, List.filterMap_append, List.filterMap_cons_none (by decide), ← List.filterMap_append]
  exact p.number

theorem point_injective {m n : Nat} (h : point 3 m = point 3 n) : m = n := by
  rw [← ofDigits_point m, h, ofDigits_point]

/-- A coordinate is printed in thousandths, with a sign unless they are zero. -/
theorem coordinateText_finite (s : Bool) (r : Fin rankLimit) :
    (coordinateText (.finite s r)).toList =
      signed (s && decide (thousandths r ≠ 0)) (point 3 (thousandths r)) := by
  have hzero : point 3 0 = ['0', '.', '0', '0', '0'] := by decide
  have hfixed : (Double.finite s r).fixed 3 = String.ofList (signed s (point 3 (thousandths r))) := by
    rw [Double.fixed, Double.fixedChars, roundAt_three]
  have hminus : "-0.000" = String.ofList (signed true (point 3 0)) := by rw [hzero]; rfl
  obtain ⟨whole, fraction, hpoint, p⟩ := exists_pointed 3 (thousandths r) (by decide)
  rw [coordinateText, hfixed, hminus]
  simp only [String.ofList_inj]
  -- Only a negative sign before zero thousandths makes the text that is replaced.
  cases s
  · have hne : signed false (point 3 (thousandths r)) ≠ signed true (point 3 0) := by
      intro h
      have hhead := p.take_one ('.' :: fraction) '-' (by
        rw [← hpoint, show point 3 (thousandths r) = signed true (point 3 0) from h]
        simp [signed])
      exact absurd hhead (by decide)
    rw [if_neg hne, String.toList_ofList, Bool.false_and]
  · by_cases ht : thousandths r = 0
    · rw [ht, if_pos rfl, hzero]
      rfl
    · have hne : signed true (point 3 (thousandths r)) ≠ signed true (point 3 0) := by
        intro h
        exact ht (point_injective (List.cons_injective h))
      rw [if_neg hne, String.toList_ofList, decide_eq_true ht, Bool.and_true]

def numericChars : List Char := "-.0123456789".toList

theorem mem_numericChars_of_isDigit {c : Char} (h : c.isDigit = true) : c ∈ numericChars := by
  simp only [Char.isDigit, Bool.and_eq_true, decide_eq_true_eq] at h
  have hlow : 48 ≤ c.toNat := h.1
  have hhigh : c.toNat ≤ 57 := h.2
  rw [← Char.ofNat_toNat c]
  generalize c.toNat = n at *
  interval_cases n <;> decide

theorem mem_numericChars_of_mem_coordinateText {x : Double} (hx : x.isFinite = true) {c : Char}
    (hc : c ∈ (coordinateText x).toList) : c ∈ numericChars := by
  obtain ⟨s, r, rfl⟩ := Double.isFinite_iff.1 hx
  obtain ⟨whole, fraction, hpoint, p⟩ := exists_pointed 3 (thousandths r) (by decide)
  rw [coordinateText_finite, hpoint] at hc
  have hbody (h : c ∈ whole ++ '.' :: fraction) : c ∈ numericChars := by
    rcases List.mem_append.1 h with h | h
    · exact mem_numericChars_of_isDigit (p.allDigits_whole c h)
    · rcases List.mem_cons.1 h with rfl | h
      · decide
      · exact mem_numericChars_of_isDigit (p.allDigits_fraction c h)
  unfold signed at hc
  split at hc
  · rcases List.mem_cons.1 hc with rfl | h
    · decide
    · exact hbody h
  · exact hbody hc

theorem coordinateText_ne_nil {x : Double} (hx : x.isFinite = true) :
    (coordinateText x).toList ≠ [] := by
  obtain ⟨s, r, rfl⟩ := Double.isFinite_iff.1 hx
  obtain ⟨whole, fraction, hpoint, p⟩ := exists_pointed 3 (thousandths r) (by decide)
  rw [coordinateText_finite, hpoint]
  unfold signed
  split <;> simp

/-! ## 2. Reading it back -/

namespace Double

def printed (x : Double) : Double := (bareDecimal? (coordinateText x).toList).getD .nan

-- Thousandths are at most half a thousandth off.
theorem thousandths_error (r : Nat) :
    2 * (units r * 1000) ≤ 2 * (thousandths r * unitsPerOne) + unitsPerOne ∧
      2 * (thousandths r * unitsPerOne) ≤ 2 * (units r * 1000) + unitsPerOne := by
  have h := roundDiv_bounds (units r * 1000) unitsPerOne unitsPerOne_pos
  rw [← thousandths] at h
  generalize unitsPerOne = one at *
  have hmul : (2 * thousandths r + 1) * one = 2 * (thousandths r * one) + one := by ring
  have hmul' : 2 * thousandths r * one = 2 * (thousandths r * one) := by ring
  rw [hmul, hmul'] at h
  omega

-- The spacing of the largest doubles is wide against a thousandth, so printing does not overflow.
theorem top_spacing :
    unitsPerOne < 1000 * (units (rankLimit - 1 + 1) - units (rankLimit - 1)) := by
  decide +kernel

theorem nearestRank_thousandths_lt (r : Fin rankLimit) :
    nearestRank (thousandths r * unitsPerOne) 1000 < rankLimit := by
  have hle : nearestRank (thousandths r * unitsPerOne) 1000 ≤ rankLimit - 1 := by
    rw [nearestRank_le_iff _ _ _ (by decide)]
    left
    have herror := (thousandths_error r).2
    have hmono : units r ≤ units (rankLimit - 1) := units_mono (by have := r.isLt; omega)
    have hspace := top_spacing
    have hlt := units_lt_succ (rankLimit - 1)
    generalize unitsPerOne = one at *
    generalize units (rankLimit - 1 + 1) = upper at *
    generalize units (rankLimit - 1) = lower at *
    omega
  have := r.isLt
  omega

-- A decimal of thousandths is the nearest double.
theorem ofDecimal_thousandths (negative : Bool) (r : Fin rankLimit) :
    ofDecimal negative (thousandths r) (-(3 : Nat)) =
      ofRank negative (nearestRank (thousandths r * unitsPerOne) 1000) := by
  rw [ofDecimal_eq_ofRank, readsBack.nearestRankOf]
  simp

theorem bareDecimal?_coordinateText {x : Double} (hx : x.isFinite = true) :
    bareDecimal? (coordinateText x).toList = some x.printed := by
  obtain ⟨s, r, rfl⟩ := isFinite_iff.1 hx
  obtain ⟨whole, fraction, hpoint, p⟩ := exists_pointed 3 (thousandths r) (by decide)
  rw [printed, coordinateText_finite, hpoint, bareDecimal?_point _ (by decide) p]
  rfl

theorem printed_finite (s : Bool) (r : Fin rankLimit) :
    (finite s r).printed = ofRank (s && decide (thousandths r ≠ 0))
      (nearestRank (thousandths r * unitsPerOne) 1000) := by
  obtain ⟨whole, fraction, hpoint, p⟩ := exists_pointed 3 (thousandths r) (by decide)
  rw [printed, coordinateText_finite, hpoint, bareDecimal?_point _ (by decide) p, Option.getD_some,
    ofDecimal_thousandths]

-- Two points half a unit around a third at most are a unit apart at most.
theorem abs_sub_le_of_halves {found exact shown one : Nat}
    (hnearest : |(found : Int) - shown| ≤ |(exact : Int) - shown|)
    (hlow : 2 * exact ≤ 2 * shown + one) (hhigh : 2 * shown ≤ 2 * exact + one) :
    |(found : Int) - exact| ≤ one := by
  have hexact : |(exact : Int) - shown| * 2 ≤ one := by
    rcases abs_cases ((exact : Int) - shown) with h | h <;> omega
  calc |(found : Int) - exact| = |((found : Int) - shown) - (exact - shown)| := by
        rw [sub_sub_sub_cancel_right]
    _ ≤ |(found : Int) - shown| + |(exact : Int) - shown| := abs_sub _ _
    _ ≤ one := by omega

/-- What is read back lies within a thousandth of what was printed: the printed thousandths are half
a thousandth off at most, and no double is nearer to them than the one read. -/
theorem units_printed_error (r : Nat) :
    |((units (nearestRank (thousandths r * unitsPerOne) 1000) * 1000 : Nat) : Int) -
      (units r * 1000 : Nat)| ≤ unitsPerOne :=
  abs_sub_le_of_halves (nearestRank_nearest (thousandths r * unitsPerOne) 1000 r (by decide))
    (thousandths_error r).1 (thousandths_error r).2

theorem exists_printed (s : Bool) (r : Fin rankLimit) : ∃ t q,
    (finite s r).printed = finite t q ∧
      (signedUnits t q - signedUnits s r).natAbs * 1000 ≤ 1 * unitsPerOne := by
  have hlt := nearestRank_thousandths_lt r
  have herror := units_printed_error r
  refine ⟨_, ⟨_, hlt⟩, by rw [printed_finite, ofRank_of_lt _ hlt], ?_⟩
  dsimp only
  -- A negative coordinate that is printed as zero comes back without its sign.
  by_cases hzero : thousandths r = 0
  · rw [hzero, Nat.zero_mul, nearestRank_zero, units_zero] at herror
    have hsigned : (signedUnits false 0 - signedUnits s r).natAbs = units r := by
      rw [signedUnits, if_neg Bool.false_ne_true, units_zero, Int.natCast_zero, Int.zero_sub,
        Int.natAbs_neg, natAbs_signedUnits]
    rw [hzero, Nat.zero_mul, nearestRank_zero, decide_eq_false (not_not.2 rfl), Bool.and_false,
      hsigned]
    rw [abs_le] at herror
    omega
  · rw [decide_eq_true hzero, Bool.and_true]
    generalize nearestRank (thousandths r * unitsPerOne) 1000 = q at *
    have hsigned : (signedUnits s q - signedUnits s r).natAbs = ((units q : Int) - units r).natAbs := by
      cases s
      · rfl
      · simp only [signedUnits, if_true]
        omega
    rw [hsigned]
    rw [abs_le] at herror
    omega

theorem isFinite_printed {x : Double} (hx : x.isFinite = true) : x.printed.isFinite = true := by
  obtain ⟨s, r, rfl⟩ := isFinite_iff.1 hx
  obtain ⟨t, q, hprinted, _⟩ := exists_printed s r
  rw [hprinted]
  rfl

theorem abs_value_printed_sub_le {x : Double} (hx : x.isFinite = true) :
    |x.printed.value - x.value| ≤ 1 / 1000 := by
  obtain ⟨s, r, rfl⟩ := isFinite_iff.1 hx
  obtain ⟨t, q, hprinted, herror⟩ := exists_printed s r
  rw [hprinted]
  simpa only [Nat.cast_one, Nat.cast_ofNat] using abs_value_sub_le (by decide) herror

end Double

/-! ## 3. Words -/

namespace Replay

theorem wordOf?_append {letter : Char} {s : List Char} (h : ∀ c ∈ s, c.toUpper ≠ letter)
    (rest : List Char) : wordOf? letter (s ++ rest) = wordOf? letter rest := by
  induction s with
  | nil => rfl
  | cons c s ih =>
    rw [List.cons_append, wordOf?, if_neg (h c List.mem_cons_self),
      ih fun d hd => h d (List.mem_cons_of_mem c hd)]

theorem wordOf?_cons {letter : Char} (hletter : letter.toUpper = letter) {s numeral : List Char}
    (hblank : ∀ c ∈ s.head?, Text.isBlank c = false) (hnumeral : leadingNumeral? s = some numeral) :
    wordOf? letter (letter :: s) = bareDecimal? numeral := by
  rw [wordOf?, if_pos hletter, Text.dropWhile_eq_self hblank, hnumeral]

theorem leadingNumeral?_coordinateText {x : Double} (hx : x.isFinite = true) {rest : List Char}
    (hrest : EndsNumber rest) :
    leadingNumeral? ((coordinateText x).toList ++ rest) = some (coordinateText x).toList := by
  obtain ⟨s, r, rfl⟩ := Double.isFinite_iff.1 hx
  obtain ⟨whole, fraction, hpoint, p⟩ := exists_pointed 3 (thousandths r) (by decide)
  rw [coordinateText_finite, hpoint]
  exact leadingNumeral?_point _ p hrest

-- A coordinate after its letter is read as printed.
theorem wordOf?_coordinateText {letter : Char} (hletter : letter.toUpper = letter) {x : Double}
    (hx : x.isFinite = true) {rest : List Char} (hrest : EndsNumber rest) :
    wordOf? letter (letter :: ((coordinateText x).toList ++ rest)) = some x.printed := by
  rw [wordOf?_cons hletter _ (leadingNumeral?_coordinateText hx hrest),
    Double.bareDecimal?_coordinateText hx]
  intro c hc
  rw [List.head?_append_of_ne_nil _ (coordinateText_ne_nil hx)] at hc
  have hmem := mem_numericChars_of_mem_coordinateText hx (List.mem_of_mem_head? hc)
  exact (by decide : ∀ c ∈ numericChars, Text.isBlank c = false) c hmem

-- No word starts within a coordinate.
theorem toUpper_ne_of_mem_coordinateText {letter : Char} (hletter : letter ∉ numericChars)
    {x : Double} (hx : x.isFinite = true) :
    ∀ c ∈ (coordinateText x).toList, c.toUpper ≠ letter := by
  rintro c hc rfl
  have hmem := mem_numericChars_of_mem_coordinateText hx hc
  rw [(by decide : ∀ c ∈ numericChars, c.toUpper = c) c hmem] at hletter
  exact hletter hmem

end Replay

end PenPlotter
