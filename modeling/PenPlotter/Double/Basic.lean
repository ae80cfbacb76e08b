/-!
# Double — binary floating point, exactly

A `Double` is one of the 53-bit binary floating-point numbers that machines compute with.  A finite
one is a sign and a *rank*: the ranks `0, 1, 2, …` number the magnitudes in increasing order, from
zero over the smallest positive double, which is `2 ^ (-1074)`, to the largest.  Every magnitude is
a whole multiple of that smallest one, so `units` turns a rank into a natural number, and sums,
products, quotients and comparisons of doubles become exact arithmetic on naturals followed by one
rounding, `nearestRank`.
-/

set_option autoImplicit false

namespace PenPlotter

attribute [local instance (high)] instPowNat

/-- `n / d` rounded to the nearest natural number; a half goes to the even neighbour. -/
def roundDiv (n d : Nat) : Nat :=
  let q := n / d
  let r := n % d
  if 2 * r < d then q
  else if d < 2 * r then q + 1
  else q + q % 2

/-- Integer square root: the largest `r` with `r * r ≤ n`, by bisection on the bits of `r`. -/
def sqrtFloor (n : Nat) : Nat :=
  let rec go : Nat → Nat → Nat
    | 0, r => r
    | b + 1, r =>
      let r' := r + 2 ^ b
      go b (if r' * r' ≤ n then r' else r)
  go (n.log2 / 2 + 1) 0

def blockSize : Nat := 2 ^ (52 : Nat)

/-- The number of finite magnitudes; the rank that would stand for infinity. -/
def rankLimit : Nat := 2047 * blockSize

inductive Double where
  /-- `± units rank * 2 ^ (-1074)`. -/
  | finite (negative : Bool) (rank : Fin rankLimit)
  | inf (negative : Bool)
  | nan
deriving DecidableEq, Repr

namespace Double

/-! ## 1. Ranks and units -/

/-- The magnitude of a rank, counted in multiples of `2 ^ (-1074)`.  In the first two blocks
rank and magnitude agree; from there on every block is spaced twice as wide. -/
def units (rank : Nat) : Nat :=
  if rank < blockSize then rank
  else (blockSize + rank % blockSize) * 2 ^ (rank / blockSize - 1)

def unitsPerOne : Nat := 2 ^ (1074 : Nat)

/-- The rank whose magnitude is nearest to `n / d` units, the even rank if two are equally near. -/
def nearestRank (n d : Nat) : Nat :=
  let shift := (n / d).log2 - 52
  shift * blockSize + roundDiv n (d * 2 ^ shift)

/-- The double of a sign and a rank; ranks past the last finite one are infinite. -/
def ofRank (negative : Bool) (rank : Nat) : Double :=
  if h : rank < rankLimit then .finite negative ⟨rank, h⟩ else .inf negative

def ofUnits (negative : Bool) (n d : Nat) : Double :=
  ofRank negative (nearestRank n d)

/-- The double nearest to the integer `u` of units; the sign of a zero is `zeroNegative`. -/
def ofIntUnits (u : Int) (zeroNegative : Bool) : Double :=
  if u = 0 then ofRank zeroNegative 0 else ofUnits (u < 0) u.natAbs 1

def ofRatio (negative : Bool) (n d : Nat) : Double :=
  ofUnits negative (n * unitsPerOne) d

/-- The double nearest to `± digits * 10 ^ exponent`.  Beyond four hundred places on either side
every such number is infinite or zero, so no power is computed there. -/
def ofDecimal (negative : Bool) (digits : Nat) (exponent : Int) : Double :=
  let places := exponent + (Nat.toDigits 10 digits).length
  if digits = 0 ∨ places < -400 then ofRank negative 0
  else if 400 < places then .inf negative
  else if 0 ≤ exponent then ofRatio negative (digits * 10 ^ exponent.toNat) 1
  else ofRatio negative digits (10 ^ (-exponent).toNat)

/-- The double nearest to an integer; infinite if the integer is too large. -/
def ofInt (n : Int) : Double :=
  ofRatio (n < 0) n.natAbs 1

instance (n : Nat) : OfNat Double n := ⟨ofInt n⟩

instance : Inhabited Double := ⟨0⟩

/-! ## 2. Classes and signed magnitudes -/

def isFinite : Double → Bool
  | .finite _ _ => true
  | _ => false

def ofInt? (n : Int) : Option Double :=
  if (ofInt n).isFinite then some (ofInt n) else none

def isNaN : Double → Bool
  | .nan => true
  | _ => false

def isZero : Double → Bool
  | .finite _ r => r.val = 0
  | _ => false

def signedUnits (negative : Bool) (rank : Nat) : Int :=
  if negative then -(units rank : Int) else units rank

def units? : Double → Option Int
  | .finite s r => some (signedUnits s r)
  | _ => none

def truncate? : Double → Option Int
  | .finite s r =>
    let whole : Nat := units r / unitsPerOne
    some (if s then -(whole : Int) else whole)
  | _ => none

def isWhole : Double → Bool
  | .finite _ r => units r % unitsPerOne = 0
  | _ => false

/-! ## 3. Bit patterns -/

def signBit : Nat := 2 ^ (63 : Nat)

def toBits : Double → UInt64
  | .finite s r => UInt64.ofNat (r + if s then signBit else 0)
  | .inf s => UInt64.ofNat (rankLimit + if s then signBit else 0)
  | .nan => UInt64.ofNat (rankLimit + blockSize / 2)

/-- Reads sixty-four bits; every pattern past infinity is the one not-a-number. -/
def ofBits (bits : UInt64) : Double :=
  let rank := bits.toNat % signBit
  if rank ≤ rankLimit then ofRank (signBit ≤ bits.toNat) rank else .nan

end Double

end PenPlotter
