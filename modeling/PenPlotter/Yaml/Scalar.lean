import PenPlotter.Yaml.Kind
import PenPlotter.Yaml.Error
import PenPlotter.Text.Base64

/-!
# Scalar values

The values of scalars of each kind.  Numerals may have low lines anywhere, may be sexagesimal with
colons, and integers may be binary, octal after a zero, or of base 16.
-/

set_option autoImplicit false

namespace PenPlotter.Yaml

open Decimal

/-! ## 1. Truth values and numbers -/

def truthValue (text : String) : Reading Bool :=
  let word := String.ofList (text.toList.map Char.toLower)
  if ["yes", "true", "on"].contains word then .ok true
  else if ["no", "false", "off"].contains word then .ok false
  else .error .truthValue

def takeNumeralSign : List Char → Reading (Bool × List Char)
  | [] => .error .emptyNumeral
  | c :: rest => .ok (c = '-', if Kind.isSign c then rest else c :: rest)

def integerOf (base : Nat) (s : List Char) : Reading Int :=
  (integer? base (String.ofList s)).mapError .integer

def placesOf (s : List Char) : List (List Char) := s.splitOn ':'

def unsignedInteger (s : List Char) : Reading Int :=
  match s with
  | [] => .error .emptyNumeral
  | ['0'] => .ok 0
  | '0' :: 'b' :: rest => integerOf 2 rest
  | '0' :: 'x' :: rest => integerOf 16 rest
  | '0' :: _ => integerOf 8 s
  | _ =>
    if s.contains ':' then do
      let places ← (placesOf s).mapM (integerOf 10)
      return places.foldl (fun n place => 60 * n + place) 0
    else integerOf 10 s

def integerValue (text : String) : Reading Int := do
  let (negative, s) ← takeNumeralSign (text.toList.filter (· ≠ '_'))
  let n ← unsignedInteger s
  return if negative then -n else n

def decimalOf (s : List Char) : Reading Double :=
  match decimal? (String.ofList s) with
  | some x => .ok x
  | none => .error (.decimal (String.ofList s))

def sumPlaces (power : Nat) (sum : Double) : List Double → Reading Double
  | [] => .ok sum
  | x :: rest =>
    match Number.mul (.double x) (.int power) with
    | .ok (.double y) => sumPlaces (60 * power) (sum + y) rest
    | _ => .error .overflow

def unsignedDecimal (s : List Char) : Reading Double :=
  if s = ['.', 'i', 'n', 'f'] then .ok (.inf false)
  else if s = ['.', 'n', 'a', 'n'] then .ok .nan
  else if s.contains ':' then do
    sumPlaces 1 0 (← (placesOf s).mapM decimalOf).reverse
  else decimalOf s

def decimalValue (text : String) : Reading Double := do
  let (negative, s) ← takeNumeralSign ((text.toList.filter (· ≠ '_')).map Char.toLower)
  let x ← unsignedDecimal s
  return if negative then -x else x

/-! ## 2. Bytes and timestamps -/

def binaryValue (text : String) : Reading (List UInt8) :=
  let s := text.toList
  if s.all fun c => c.toNat < 128 then
    match Text.Base64.decode? s with
    | some bytes => .ok bytes
    | none => .error .malformed
  else .error .malformed

def natOf (s : List Char) : Nat := Text.ofDigits 10 (s.filterMap Text.digit?)

def microsecondsOf (fraction : List Char) : Nat :=
  natOf ((fraction ++ List.replicate 6 '0').take 6)

def zoneOffset : Option (Option (Bool × List Char × List Char)) → Reading (Option Int)
  | none => .ok none
  | some none => .ok (some 0)
  | some (some (negative, hours, minutes)) =>
    let seconds : Int := 3600 * natOf hours + 60 * natOf minutes
    match Calendar.offset? (if negative then -seconds else seconds) with
    | .ok offset => .ok (some offset)
    | .error e => .error (.calendar e)

def calendrical {α : Type} (r : Except Calendar.Error α) : Reading α := r.mapError .calendar

def dateOf (t : TimestampText) : Reading Calendar.Date :=
  calendrical (Calendar.Date.of (natOf t.year) (natOf t.month) (natOf t.day))

def timestampValue (text : String) : Reading Value :=
  match TimestampText.ofChars? (Kind.dropFinalBreak text.toList) with
  | none => .error .timestamp
  | some t =>
    match t.time with
    | none => return .date (← dateOf t)
    | some (hour, minute, second, fraction) => do
      let offset ← zoneOffset t.zone
      let date ← dateOf t
      let time ← calendrical
        (Calendar.Time.of (natOf hour) (natOf minute) (natOf second) (microsecondsOf fraction))
      return .moment ⟨date, time, offset⟩

/-! ## 3. All kinds -/

/-- The value of a scalar of a kind; collections and keys with a special meaning have none. -/
def scalarValue (kind : Kind) (text : String) : Reading Value :=
  match kind with
  | .null => .ok .null
  | .bool => (truthValue text).map .bool
  | .integer => (integerValue text).map fun n => .number (.int n)
  | .decimal => (decimalValue text).map fun x => .number (.double x)
  | .binary => (binaryValue text).map .bytes
  | .timestamp => timestampValue text
  | .text => .ok (.text text)
  | _ => .error .malformed

end PenPlotter.Yaml
