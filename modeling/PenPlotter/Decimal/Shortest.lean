import PenPlotter.Decimal.Fixed

/-!
# Shortest decimal text

The fewest digits that read back to the same double, and of those the nearest to it.
-/

set_option autoImplicit false

namespace PenPlotter.Decimal

attribute [local instance (high)] instPowNat

/-- Whether the decimal `m * 10 ^ k`, rounded to a double, is the double of a rank. -/
def readsBack (rank m : Nat) (k : Int) : Bool :=
  nearestRankOf m k = rank
where
  nearestRankOf (m : Nat) (k : Int) : Nat :=
    Double.nearestRank (m * 10 ^ k.toNat * Double.unitsPerOne) (10 ^ (-k).toNat)

/-- The multiple of `10 ^ k` that reads back to a rank and is nearest to its value, of the two
multiples around that value. -/
def onGrid (rank : Nat) (k : Int) : Option Nat :=
  let n := Double.units rank * 10 ^ (-k).toNat
  let d := Double.unitsPerOne * 10 ^ k.toNat
  [roundDiv n d, n / d, n / d + 1].find? fun m => readsBack rank m k

/-- The digits and the exponent of the shortest decimal that reads back to a positive rank: the
grids are tried from one significant digit on.  Seventeen digits always suffice. -/
def shortest (rank : Nat) : Nat × Int :=
  let top := scale (Double.units rank) Double.unitsPerOne
  let onGridBelow (places : Nat) : Option (Nat × Int) :=
    ((onGrid rank (top - places)).filter (· ≠ 0)).map fun m => (m, top - places)
  ((List.range 17).findSome? onGridBelow).getD
    (roundAt (top - (17 : Nat)) (Double.units rank) Double.unitsPerOne, top - (17 : Nat))

def dropZeros (ds : List Char) : List Char := (ds.reverse.dropWhile (· = '0')).reverse

/-- Lays out digits whose first stands at `10 ^ e`: positionally, with a digit on either side of the
point, from `10 ^ (-4)` up to below `10 ^ 16`, and with an exponent otherwise. -/
def layout (ds : List Char) (e : Int) : List Char :=
  if e < -4 ∨ 16 ≤ e then
    match ds with
    | [] => []
    | [c] => c :: exponent e
    | c :: rest => c :: '.' :: rest ++ exponent e
  else if e < 0 then '0' :: '.' :: List.replicate (-e - 1).toNat '0' ++ ds
  else
    let whole := e.toNat + 1
    let fraction := ds.drop whole
    ds.take whole ++ List.replicate (whole - ds.length) '0' ++ '.' ::
      (if fraction.isEmpty then ['0'] else fraction)

end PenPlotter.Decimal

namespace PenPlotter

open Decimal

namespace Double

def textChars : Double → List Char
  | .finite s r =>
    signed s <|
      if r.val = 0 then ['0', '.', '0']
      else
        let (m, k) := shortest r
        let ds := digits m
        layout (dropZeros ds) (k + (ds.length - 1 : Nat))
  | .inf s => infinityName s
  | .nan => nanName

def text (x : Double) : String := String.ofList x.textChars

end Double

end PenPlotter
