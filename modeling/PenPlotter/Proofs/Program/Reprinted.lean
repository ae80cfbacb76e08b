import PenPlotter.Proofs.Program.Coordinate

/-!
# Coordinates printed again

A printed coordinate stands for the double that it is read as: that double has the same text.  The
grid of thousandths is coarser than the doubles up to `2 ^ 43` and finer beyond, but the argument is
one for both: what is read is no farther from the printed thousandths than the coordinate was, and
two doubles on opposite sides cannot both be half a thousandth away.
-/

set_option autoImplicit false

namespace PenPlotter

attribute [local instance (high)] instPowNat

attribute [local irreducible] Double.unitsPerOne

/-! ## 1. Rounding what is near a whole number -/

theorem roundDiv_eq_of_near {n d t : Nat} (hlow : 2 * (t * d) < 2 * n + d)
    (hhigh : 2 * n < 2 * (t * d) + d) : roundDiv n d = t := by
  have hd : 0 < d := by omega
  obtain ⟨hupper, hlower⟩ := roundDiv_bounds n d hd
  generalize roundDiv n d = q at *
  have hq : (2 * q + 1) * d = 2 * (q * d) + d := by ring
  have hq' : 2 * q * d = 2 * (q * d) := by ring
  rw [hq] at hupper
  rw [hq'] at hlower
  -- A whole number of divisors less or more would be too far away.
  rcases Nat.lt_trichotomy q t with hlt | heq | hgt
  · have hstep : (q + 1) * d ≤ t * d := Nat.mul_le_mul_right d hlt
    rw [Nat.succ_mul] at hstep
    omega
  · exact heq
  · have hstep : (t + 1) * d ≤ q * d := Nat.mul_le_mul_right d hgt
    rw [Nat.succ_mul] at hstep
    omega

namespace Double

-- A thousandth is no whole number of units, since five does not divide a power of two.
theorem unitsPerOne_mod_thousand : unitsPerOne % 1000 ≠ 0 := by
  unfold unitsPerOne
  decide +kernel

/-! ## 2. Reading and printing -/

/-- The double nearest to printed thousandths is printed as the same thousandths. -/
theorem thousandths_nearestRank (r : Nat) :
    thousandths (nearestRank (thousandths r * unitsPerOne) 1000) = thousandths r := by
  have hnear := nearestRank_nearest (thousandths r * unitsPerOne) 1000 r (by decide)
  obtain ⟨hlow, hhigh⟩ := thousandths_error r
  have hthousand := unitsPerOne_mod_thousand
  have hreprint : thousandths (nearestRank (thousandths r * unitsPerOne) 1000) =
      roundDiv (units (nearestRank (thousandths r * unitsPerOne) 1000) * 1000) unitsPerOne := rfl
  by_cases hsame : units (nearestRank (thousandths r * unitsPerOne) 1000) = units r
  · rw [hreprint, hsame]
    rfl
  rw [hreprint]
  apply roundDiv_eq_of_near
  all_goals
    generalize units (nearestRank (thousandths r * unitsPerOne) 1000) = found at *
    generalize thousandths r * unitsPerOne = shown at *
    generalize unitsPerOne = one at *
    generalize units r = exact at *
    rcases abs_cases (((found * 1000 : Nat) : Int) - shown) with h | h <;>
      rcases abs_cases (((exact * 1000 : Nat) : Int) - shown) with h' | h' <;> omega

/-- What is read where a coordinate is printed is printed alike. -/
theorem coordinateText_printed {x : Double} (hx : x.isFinite = true) :
    coordinateText x.printed = coordinateText x := by
  obtain ⟨s, r, rfl⟩ := isFinite_iff.1 hx
  have hlt := nearestRank_thousandths_lt r
  apply String.toList_inj.1
  rw [printed_finite, ofRank_of_lt _ hlt, coordinateText_finite, coordinateText_finite]
  dsimp only
  rw [thousandths_nearestRank, Bool.and_assoc, Bool.and_self]

end Double

/-! ## 3. Words -/

namespace Replay

open Decimal

-- A coordinate is the number of its own letter and of no other.
theorem ofCode_coordinate {x : Double} (hx : x.isFinite = true) :
    Words.ofCode ('X' :: (coordinateText x).toList) = ⟨some x.printed, none, none⟩ ∧
      Words.ofCode ('Y' :: (coordinateText x).toList) = ⟨none, some x.printed, none⟩ := by
  have hread (letter : Char) (hletter : letter.toUpper = letter) :
      wordOf? letter (letter :: (coordinateText x).toList) = some x.printed := by
    have hword := wordOf?_coordinateText hletter hx endsNumber_nil
    rwa [List.append_nil] at hword
  have hpassed (letter first : Char) (hfirst : first.toUpper ≠ letter)
      (hletter : letter ∉ numericChars) :
      wordOf? letter (first :: (coordinateText x).toList) = none := by
    rw [wordOf?, if_neg hfirst, ← List.append_nil (coordinateText x).toList,
      wordOf?_append (toUpper_ne_of_mem_coordinateText hletter hx), wordOf?]
  constructor
  · rw [Words.ofCode, hread 'X' (by decide), hpassed 'Y' 'X' (by decide) (by decide),
      hpassed 'F' 'X' (by decide) (by decide)]
  · rw [Words.ofCode, hread 'Y' (by decide), hpassed 'X' 'Y' (by decide) (by decide),
      hpassed 'F' 'Y' (by decide) (by decide)]

/-- **Print, read, print.**  The text of a finite coordinate after its letter is read whole, as one
double, which is printed alike and lies within a thousandth of the coordinate. -/
theorem coordinate_reread {x : Double} (hx : x.isFinite = true) :
    leadingNumeral? (coordinateText x).toList = some (coordinateText x).toList ∧
      ∃ w : Double, w.isFinite = true ∧
        bareDecimal? (coordinateText x).toList = some w ∧
        Words.ofCode ("X" ++ coordinateText x).toList = ⟨some w, none, none⟩ ∧
        Words.ofCode ("Y" ++ coordinateText x).toList = ⟨none, some w, none⟩ ∧
        coordinateText w = coordinateText x ∧
        |w.value - x.value| ≤ 1 / 1000 := by
  have hwhole := leadingNumeral?_coordinateText hx endsNumber_nil
  rw [List.append_nil] at hwhole
  obtain ⟨hX, hY⟩ := ofCode_coordinate hx
  rw [String.toList_append, String.toList_append]
  exact ⟨hwhole, x.printed, Double.isFinite_printed hx, Double.bareDecimal?_coordinateText hx,
    hX, hY, Double.coordinateText_printed hx, Double.abs_value_printed_sub_le hx⟩

def belowZero : Double := .ofDecimal true 4 (-4)

theorem coordinate_reread_belowZero :
    belowZero.isFinite = true ∧ coordinateText belowZero = "0.000" ∧
      ∃ w : Double, Words.ofCode "X0.000".toList = ⟨some w, none, none⟩ ∧
        coordinateText w = "0.000" ∧ |w.value - belowZero.value| ≤ 1 / 1000 := by
  have hfinite : belowZero.isFinite = true := by decide +kernel
  have htext : coordinateText belowZero = "0.000" := by decide +kernel
  obtain ⟨-, w, -, -, hX, -, hprint, herror⟩ := coordinate_reread hfinite
  rw [htext] at hX hprint
  rw [show "X" ++ "0.000" = "X0.000" by decide] at hX
  exact ⟨hfinite, htext, w, hX, hprint, herror⟩

end Replay

end PenPlotter
