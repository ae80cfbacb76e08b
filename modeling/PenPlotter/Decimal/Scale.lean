import PenPlotter.Double.Basic

/-!
# Decimal scale

Where the first decimal digit of a positive fraction stands.
-/

set_option autoImplicit false

namespace PenPlotter.Decimal

attribute [local instance (high)] instPowNat

def powerLe (k : Int) (n d : Nat) : Bool :=
  d * 10 ^ k.toNat ≤ n * 10 ^ (-k).toNat

/-- The `k` with `10 ^ k ≤ n / d < 10 ^ (k + 1)`, for positive `n` and `d`.  The binary logarithm
gives an estimate that is at most two off. -/
def scale (n d : Nat) : Int :=
  let estimate := ((n.log2 : Int) - d.log2) * 1233 / 4096
  let candidates := [estimate + 2, estimate + 1, estimate, estimate - 1]
  (candidates.find? fun k => powerLe k n d).getD (estimate - 2)

/-- `n / d` in units of `10 ^ k`, rounded to the nearest whole number, a half to the even one. -/
def roundAt (k : Int) (n d : Nat) : Nat :=
  roundDiv (n * 10 ^ (-k).toNat) (d * 10 ^ k.toNat)

def digits (n : Nat) : List Char := Nat.toDigits 10 n

def padLeft (width : Nat) (s : List Char) : List Char :=
  List.replicate (width - s.length) '0' ++ s

end PenPlotter.Decimal
