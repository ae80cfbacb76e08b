import PenPlotter.Decimal.Scale

/-!
# Rounded decimal text

A double written with a set number of places after the point, or with a set number of digits and an
exponent.  The exact value is rounded, a half to the even neighbour; the sign of a negative number
stays even where all digits are zero.
-/

set_option autoImplicit false

namespace PenPlotter.Decimal

def point (places n : Nat) : List Char :=
  let ds := padLeft (places + 1) (digits n)
  let whole := ds.take (ds.length - places)
  if places = 0 then whole else whole ++ '.' :: ds.drop (ds.length - places)

def exponent (e : Int) : List Char :=
  'e' :: (if e < 0 then '-' else '+') :: padLeft 2 (digits e.natAbs)

def infinityName (negative : Bool) : List Char :=
  if negative then ['-', 'i', 'n', 'f'] else ['i', 'n', 'f']

def nanName : List Char := ['n', 'a', 'n']

def signed (negative : Bool) (s : List Char) : List Char :=
  if negative then '-' :: s else s

end PenPlotter.Decimal

namespace PenPlotter

open Decimal

attribute [local instance (high)] instPowNat

namespace Double

def fixedChars (places : Nat) : Double → List Char
  | .finite s r => signed s (point places (roundAt (-places) (units r) unitsPerOne))
  | .inf s => infinityName s
  | .nan => nanName

def fixed (places : Nat) (x : Double) : String := String.ofList (x.fixedChars places)

/-- The number as one digit, a point, `places` digits and an exponent. -/
def scientificChars (places : Nat) : Double → List Char
  | .finite s r =>
    signed s <|
      if r.val = 0 then point places 0 ++ exponent 0
      else
        let k := scale (units r) unitsPerOne
        let m := roundAt (k - places) (units r) unitsPerOne
        if m = 10 ^ (places + 1) then point places (10 ^ places) ++ exponent (k + 1)
        else point places m ++ exponent k
  | .inf s => infinityName s
  | .nan => nanName

def scientific (places : Nat) (x : Double) : String := String.ofList (x.scientificChars places)

end Double

end PenPlotter
