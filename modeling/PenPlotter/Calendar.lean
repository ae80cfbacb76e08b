import PenPlotter.Decimal.Scale

/-!
# Calendar

Dates and times of the Gregorian calendar, extended to all years from 1 to 9999, and the count of
days since the start of 1970.
-/

set_option autoImplicit false

namespace PenPlotter.Calendar

open Decimal

structure Date where
  year : Nat
  month : Nat
  day : Nat
deriving DecidableEq, Repr

structure Time where
  hour : Nat
  minute : Nat
  second : Nat
  microsecond : Nat
deriving DecidableEq, Repr

/-- A date with a time of day, and how many seconds its clock is ahead of universal time if that is
known. -/
structure Moment where
  date : Date
  time : Time
  offset : Option Int
deriving DecidableEq, Repr

inductive Error where
  | year (year : Nat)
  | month
  | day
  | hour
  | minute
  | second
  /-- The offset in seconds is a day or more. -/
  | offset (seconds : Int)
deriving DecidableEq, Repr

/-! ## 1. Validity -/

def isLeap (year : Nat) : Bool := year % 4 = 0 && (year % 100 ≠ 0 || year % 400 = 0)

def daysInMonth (year month : Nat) : Nat :=
  if month = 2 then if isLeap year then 29 else 28
  else if month = 4 || month = 6 || month = 9 || month = 11 then 30
  else 31

def Date.of (year month day : Nat) : Except Error Date :=
  if year = 0 || 9999 < year then .error (.year year)
  else if month = 0 || 12 < month then .error .month
  else if day = 0 || daysInMonth year month < day then .error .day
  else .ok ⟨year, month, day⟩

def Time.of (hour minute second microsecond : Nat) : Except Error Time :=
  if 23 < hour then .error .hour
  else if 59 < minute then .error .minute
  else if 59 < second then .error .second
  else .ok ⟨hour, minute, second, microsecond⟩

def offset? (seconds : Int) : Except Error Int :=
  if seconds.natAbs < 86400 then .ok seconds else .error (.offset seconds)

/-! ## 2. Day numbers -/

/-- Days from the first of March of year 0, which puts the leap day last, to a date. -/
def daysFromMarch (d : Date) : Nat :=
  let (y, m) := if d.month ≤ 2 then (d.year - 1, d.month + 9) else (d.year, d.month - 3)
  365 * y + y / 4 - y / 100 + y / 400 + (153 * m + 2) / 5 + (d.day - 1)

def epochDay : Nat := 719468

def Date.dayNumber (d : Date) : Int := (daysFromMarch d : Int) - epochDay

/-- The year, month and day of a day number, in a calendar without first or last year. -/
def civil (n : Int) : Int × Nat × Nat :=
  let z := n + epochDay
  let era := z / 146097
  let doe := (z % 146097).toNat
  let yoe := (doe - doe / 1460 + doe / 36524 - doe / 146096) / 365
  let doy := doe - (365 * yoe + yoe / 4 - yoe / 100)
  let mp := (5 * doy + 2) / 153
  let day := doy - (153 * mp + 2) / 5 + 1
  let month := if mp < 10 then mp + 3 else mp - 9
  (yoe + era * 400 + (if month ≤ 2 then 1 else 0), month, day)

def Date.ofDayNumber (n : Int) : Date :=
  let (year, month, day) := civil n
  ⟨year.toNat, month, day⟩

def Time.microseconds (t : Time) : Nat :=
  ((t.hour * 60 + t.minute) * 60 + t.second) * 1000000 + t.microsecond

def Moment.clockMicroseconds (m : Moment) : Int :=
  m.date.dayNumber * 86400000000 + m.time.microseconds

def Moment.ofMicroseconds (us : Int) (offset : Option Int) : Moment :=
  let within := (us % 86400000000).toNat
  let seconds := within / 1000000
  { date := .ofDayNumber (us / 86400000000)
    time := ⟨seconds / 3600, seconds / 60 % 60, seconds % 60, within % 1000000⟩
    offset }

/-- Whether two moments are the same: on clocks with known offsets the same instant, on clocks
without the same reading. -/
def Moment.same (a b : Moment) : Bool :=
  match a.offset, b.offset with
  | some p, some q => a.clockMicroseconds - p * 1000000 = b.clockMicroseconds - q * 1000000
  | none, none => a.clockMicroseconds = b.clockMicroseconds
  | _, _ => false

/-! ## 3. Text -/

def padded (width n : Nat) : String := String.ofList (padLeft width (digits n))

def Date.text (d : Date) : String :=
  padded 4 d.year ++ "-" ++ padded 2 d.month ++ "-" ++ padded 2 d.day

def offsetText (seconds : Int) : String :=
  let n := seconds.natAbs
  (if seconds < 0 then "-" else "+") ++ padded 2 (n / 3600) ++ ":" ++ padded 2 (n / 60 % 60)
    ++ (if n % 60 = 0 then "" else ":" ++ padded 2 (n % 60))

/-- `2001-02-03T04:05:06.000007+02:00`; the microseconds stand only if there are any, and the
separator of date and time is given. -/
def Moment.text (m : Moment) (separator : String) : String :=
  m.date.text ++ separator ++ padded 2 m.time.hour ++ ":" ++ padded 2 m.time.minute ++ ":"
    ++ padded 2 m.time.second
    ++ (if m.time.microsecond = 0 then "" else "." ++ padded 6 m.time.microsecond)
    ++ (m.offset.map offsetText).getD ""

end PenPlotter.Calendar
