import PenPlotter.Calendar
import PenPlotter.Double.Arithmetic
import PenPlotter.Number

/-!
# Instants

An instant is given as seconds since the start of 1970.  Its moment is exact to the microsecond: the
part after the point is counted in microseconds, a half going to the even count.
-/

set_option autoImplicit false

namespace PenPlotter.Calendar

attribute [local instance (high)] instPowNat

inductive Clock where
  /-- Universal time; moments say so. -/
  | universal
  /-- The clock of this place.  It runs with universal time, but moments do not say so. -/
  | here
deriving DecidableEq, Repr

inductive InstantError where
  | notNumber
  /-- More seconds than sixty-four bits count. -/
  | tooManySeconds
  /-- More years from 1900 than thirty-two bits count. -/
  | tooManyYears
  /-- A year that is not in the calendar, as thirty-two bits show it. -/
  | year (year : Int)
deriving DecidableEq, Repr

def InstantError.message : InstantError → String
  | .notNumber => "Invalid value NaN (not a number)"
  | .tooManySeconds => "timestamp out of range for platform time_t"
  | .tooManyYears => "[Errno 75] Value too large for defined data type"
  | .year y => "year " ++ Number.intText y ++ " is out of range"

def microsecondsOf (negative : Bool) (rank : Fin rankLimit) : Int :=
  let whole := Double.units rank / Double.unitsPerOne
  let fraction : Double := .ofUnits false (Double.units rank % Double.unitsPerOne) 1
  let part : Nat :=
    match fraction * Double.ofInt 1000000 with
    | .finite _ r => roundDiv (Double.units r) Double.unitsPerOne
    | _ => 0
  let n : Int := (whole * 1000000 + part : Nat)
  if negative then -n else n

/-- The moment that is so many seconds after the start of 1970.  The clock of this place is also
read a day earlier, to see whether it was set back since. -/
def Moment.ofInstant (clock : Clock) : Double → Except InstantError Moment
  | .nan => .error .notNumber
  | .inf _ => .error .tooManySeconds
  | .finite s r =>
    let us := microsecondsOf s r
    let seconds := us / 1000000
    let year (day : Int) : Int := (civil day).1
    let y := year (seconds / 86400)
    if !fitsBits 64 seconds then .error .tooManySeconds
    else if !fitsBits 32 (y - 1900) then .error .tooManyYears
    else if y < 1 ∨ 9999 < y then .error (.year (y.bmod (2 ^ (32 : Nat))))
    else
      match clock with
      | .universal => .ok (.ofMicroseconds us (some 0))
      | .here =>
        if year (seconds / 86400 - 1) < 1 then .error (.year 0)
        else .ok (.ofMicroseconds us none)

end PenPlotter.Calendar
