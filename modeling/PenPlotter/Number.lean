import PenPlotter.Double.Arithmetic
import PenPlotter.Decimal.Numeral
import PenPlotter.Decimal.Shortest

/-!
# Numbers

A number is an integer of any size or a double.  Arithmetic between integers is exact.  Where an
integer meets a double it is first rounded to a double, which fails if it is too large for one;
comparisons are always by exact value.
-/

set_option autoImplicit false

namespace PenPlotter

attribute [local instance (high)] instPowNat

def fitsBits (bits : Nat) (n : Int) : Bool :=
  -2 ^ (bits - 1) ≤ n && n < 2 ^ (bits - 1)

inductive Number where
  | int (n : Int)
  | double (x : Double)
deriving DecidableEq, Repr

inductive Overflow where
  | integerTooLarge
deriving DecidableEq, Repr

namespace Number

instance : Inhabited Number := ⟨.int 0⟩

instance (n : Nat) : OfNat Number n := ⟨.int n⟩

def toDouble : Number → Except Overflow Double
  | .int n => (Double.ofInt? n).elim (.error .integerTooLarge) .ok
  | .double x => .ok x

/-! ## 1. Arithmetic -/

/-- An operation that is exact on integers and rounds once on doubles. -/
def combine (onInts : Int → Int → Int) (onDoubles : Double → Double → Double) :
    Number → Number → Except Overflow Number
  | .int m, .int n => .ok (.int (onInts m n))
  | .double x, .double y => .ok (.double (onDoubles x y))
  | x, y => do return .double (onDoubles (← x.toDouble) (← y.toDouble))

def add : Number → Number → Except Overflow Number := combine (· + ·) (· + ·)

def sub : Number → Number → Except Overflow Number := combine (· - ·) (· - ·)

def mul : Number → Number → Except Overflow Number := combine (· * ·) (· * ·)

inductive NoQuotient where
  | byZero
  | overflow
deriving DecidableEq, Repr

/-- The quotient as a double.  Between integers it is the exact quotient, rounded once, and has the
sign of its operands even if it is zero. -/
def div : Number → Number → Except NoQuotient Double
  | .int m, .int n =>
    if n = 0 then .error .byZero
    else
      match Double.ofRatio (decide (m < 0) != decide (n < 0)) m.natAbs n.natAbs with
      | .finite s r => .ok (.finite s r)
      | _ => .error .overflow
  | x, y =>
    match x.toDouble, y.toDouble with
    | .ok a, .ok b => if b.isZero then .error .byZero else .ok (a / b)
    | _, _ => .error .overflow

def neg : Number → Number
  | .int n => .int (-n)
  | .double x => .double (-x)

def abs : Number → Number
  | .int n => .int n.natAbs
  | .double x => .double x.abs

/-! ## 2. Order -/

/-- The place of a number on the line, in units; the infinities and `nan` have none. -/
def units? : Number → Option Int
  | .int n => some (n * Double.unitsPerOne)
  | .double x => x.units?

def blt (x y : Number) : Bool :=
  match x.units?, y.units? with
  | some a, some b => a < b
  | some _, none => y = .double (.inf false)
  | none, some _ => x = .double (.inf true)
  | none, none => x = .double (.inf true) && y = .double (.inf false)

def same (x y : Number) : Bool :=
  match x.units?, y.units? with
  | some a, some b => a = b
  | none, none => x = y && x ≠ .double .nan
  | _, _ => false

instance : LT Number := ⟨fun x y => x.blt y = true⟩

instance (x y : Number) : Decidable (x < y) := inferInstanceAs (Decidable (x.blt y = true))

/-- The smaller number; the first one unless the second is strictly smaller. -/
def least (x y : Number) : Number := if y < x then y else x

/-- The larger number; the first one unless the second is strictly larger. -/
def greatest (x y : Number) : Number := if x < y then y else x

/-! ## 3. Classes and text -/

def isFinite : Number → Bool
  | .int _ => true
  | .double x => x.isFinite

def isZero : Number → Bool
  | .int n => n = 0
  | .double x => x.isZero

def intChars (n : Int) : List Char :=
  Decimal.signed (n < 0) (Decimal.digits n.natAbs)

def intText (n : Int) : String := String.ofList (intChars n)

def text : Number → String
  | .int n => intText n
  | .double x => x.text

end Number

/-! ## 4. Limits of texts -/

inductive NoText where
  | tooManyDigits
  | tooDeep
deriving DecidableEq, Repr

def NoText.message : NoText → String
  | .tooManyDigits =>
    "Exceeds the limit (4300 digits) for integer string conversion; use "
      ++ "sys.set_int_max_str_digits() to increase the limit"
  | .tooDeep => "maximum recursion depth exceeded while getting the repr of an object"

namespace Number

def isWritable : Number → Bool
  | .int n => (Decimal.digits n.natAbs).length ≤ Decimal.integerDigitLimit
  | .double _ => true

def written (n : Number) : Except NoText String :=
  if n.isWritable then .ok n.text else .error .tooManyDigits

def mentioned (n : Number) (before : String) : String :=
  match n.written with
  | .ok text => before ++ text
  | .error reason => reason.message

end Number

end PenPlotter
