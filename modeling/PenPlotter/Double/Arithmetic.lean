import PenPlotter.Double.Basic

/-!
# Arithmetic and order of doubles

Every operation computes its exact result in units and rounds once.  Infinities and not-a-number
follow the usual rules: an operation without a meaningful value (`∞ - ∞`, `0 * ∞`, `0 / 0`, …) gives
`nan`, and a comparison with `nan` is false.
-/

set_option autoImplicit false

namespace PenPlotter

attribute [local instance (high)] instPowNat

namespace Double

/-! ## 1. Sign -/

def neg : Double → Double
  | .finite s r => .finite (!s) r
  | .inf s => .inf (!s)
  | .nan => .nan

instance : Neg Double := ⟨neg⟩

def abs : Double → Double
  | .finite _ r => .finite false r
  | .inf _ => .inf false
  | .nan => .nan

/-! ## 2. Sums, products, quotients -/

def add : Double → Double → Double
  | .nan, _ | _, .nan => .nan
  | .inf s, .inf t => if s = t then .inf s else .nan
  | .inf s, .finite _ _ => .inf s
  | .finite _ _, .inf t => .inf t
  | .finite s r, .finite t q => ofIntUnits (signedUnits s r + signedUnits t q) (s && t && r.val = 0)

instance : Add Double := ⟨add⟩

instance : Sub Double := ⟨fun x y => x + -y⟩

def mul : Double → Double → Double
  | .nan, _ | _, .nan => .nan
  | .inf s, .inf t => .inf (s ^^ t)
  | .inf s, .finite t r | .finite t r, .inf s => if r.val = 0 then .nan else .inf (s ^^ t)
  | .finite s r, .finite t q => ofUnits (s ^^ t) (units r * units q) unitsPerOne

instance : Mul Double := ⟨mul⟩

def div : Double → Double → Double
  | .nan, _ | _, .nan => .nan
  | .inf _, .inf _ => .nan
  | .inf s, .finite t _ => .inf (s ^^ t)
  | .finite s _, .inf t => ofRank (s ^^ t) 0
  | .finite s r, .finite t q =>
    if q.val = 0 then if r.val = 0 then .nan else .inf (s ^^ t)
    else ofUnits (s ^^ t) (units r * unitsPerOne) (units q)

instance : Div Double := ⟨div⟩

/-- The remainder of `x` on division by `m`, with the sign of `m`: the exact remainder of the
magnitudes, moved into `m`'s range by one rounded addition where the signs differ.  A zero
remainder takes the sign of `m`. -/
def modulo : Double → Double → Double
  | .finite s r, .finite t q =>
    if q.val = 0 then .nan
    else
      let rest := units r % units q
      if rest = 0 then ofRank t 0
      else if s = t then ofUnits s rest 1
      else ofUnits s rest 1 + .finite t q
  | .finite s r, .inf t => if r.val = 0 then ofRank t 0 else if s = t then .finite s r else .inf t
  | _, _ => .nan

/-- The nearest double to `√(x² + y²)`, with nothing lost on the way; infinite beside an infinity. -/
def hypot : Double → Double → Double
  | .inf _, _ | _, .inf _ => .inf false
  | .nan, _ | _, .nan => .nan
  | .finite _ r, .finite _ q =>
    let square := (units r * units r + units q * units q) * 4 ^ (64 : Nat)
    -- The leading 65 bits of the root and a trace of the rest below them settle every rounding.
    let drop := (square.log2 - 130) / 2
    let root := sqrtFloor (square / 4 ^ drop)
    let trace := if root * root * 4 ^ drop = square then 0 else 1
    ofUnits false ((2 * root + trace) * 2 ^ drop) (2 ^ (65 : Nat))

/-! ## 3. Order -/

/-- The place of a number in the order of the extended line; `nan` has none. -/
def place? : Double → Option Int
  | .finite s r => some (signedUnits s r)
  | .inf s => some (if s then -(units rankLimit : Int) else units rankLimit)
  | .nan => none

/-- `x < y`, by value: the two zeros are equal and `nan` is not comparable. -/
def blt (x y : Double) : Bool :=
  match place? x, place? y with
  | some a, some b => a < b
  | _, _ => false

def ble (x y : Double) : Bool :=
  match place? x, place? y with
  | some a, some b => a ≤ b
  | _, _ => false

/-- Equality by value: the two zeros are equal, `nan` equals nothing. -/
def same (x y : Double) : Bool :=
  match place? x, place? y with
  | some a, some b => a = b
  | _, _ => false

instance : LT Double := ⟨fun x y => x.blt y = true⟩

instance : LE Double := ⟨fun x y => x.ble y = true⟩

instance (x y : Double) : Decidable (x < y) := inferInstanceAs (Decidable (x.blt y = true))

instance (x y : Double) : Decidable (x ≤ y) := inferInstanceAs (Decidable (x.ble y = true))

end Double

end PenPlotter
