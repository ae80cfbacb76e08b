import PenPlotter.Decimal.Shortest

/-!
# General decimal text

A double with a set number of significant figures, positional where that is short and with an
exponent where it is not.
-/

set_option autoImplicit false

namespace PenPlotter.Decimal

/-- A whole part and a fraction, with a point between them if the fraction has digits or the point
is to be kept. -/
def pointed (keep : Bool) (whole fraction : List Char) : List Char :=
  if fraction.isEmpty && !keep then whole else whole ++ '.' :: fraction

/-- Lays out significant figures, the first of which stands at `10 ^ e`: positionally from
`10 ^ (-4)` up to the last of the figures, else with an exponent.  Zeros at the end of the fraction
are dropped unless they are to be kept. -/
def generalLayout (keep : Bool) (figures : List Char) (e : Int) : List Char :=
  let trimmed (ds : List Char) : List Char := if keep then ds else dropZeros ds
  if e < -4 ∨ figures.length ≤ e then
    pointed keep (figures.take 1) (trimmed (figures.drop 1)) ++ exponent e
  else if e < 0 then
    pointed keep ['0'] (trimmed (List.replicate (-e - 1).toNat '0' ++ figures))
  else
    pointed keep (figures.take (e.toNat + 1)) (trimmed (figures.drop (e.toNat + 1)))

end PenPlotter.Decimal

namespace PenPlotter

open Decimal

attribute [local instance (high)] instPowNat

namespace Double

def generalChars (keep : Bool) (figures : Nat) : Double → List Char
  | .finite s r =>
    let n := max figures 1
    signed s <|
      if r.val = 0 then generalLayout keep (List.replicate n '0') 0
      else
        let k := scale (units r) unitsPerOne
        let m := roundAt (k - (n - 1 : Nat)) (units r) unitsPerOne
        if m = 10 ^ n then generalLayout keep (digits (10 ^ (n - 1))) (k + 1)
        else generalLayout keep (digits m) k
  | .inf s => infinityName s
  | .nan => nanName

end Double

end PenPlotter
