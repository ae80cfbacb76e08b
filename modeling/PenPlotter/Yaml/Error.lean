import PenPlotter.Decimal.Numeral
import PenPlotter.Value.Text

/-!
# Why a text cannot be read
-/

set_option autoImplicit false

namespace PenPlotter.Yaml

inductive Error where
  | malformed
  /-- An escape names a number that is no character. -/
  | noCharacter (code : Nat)
  /-- An escape names half of a surrogate pair, which no text has in it. -/
  | halfPair (code : Nat)
  | tooDeep
  | integer (error : Decimal.IntegerError)
  | decimal (text : String)
  | emptyNumeral
  /-- A sexagesimal numeral has too many places. -/
  | overflow
  /-- A truth value is none of the words for one. -/
  | truthValue
  | timestamp
  | calendar (error : Calendar.Error)
deriving Repr

def abridged (text : String) : String := String.ofList ((Text.quoted text).toList.take 200)

def calendarMessage : Calendar.Error → String
  | .year year => "year " ++ Number.intText year ++ " is out of range"
  | .month => "month must be in 1..12"
  | .day => "day is out of range for month"
  | .hour => "hour must be in 0..23"
  | .minute => "minute must be in 0..59"
  | .second => "second must be in 0..59"
  | .offset seconds =>
    "offset must be a timedelta strictly between -timedelta(hours=24) and timedelta(hours=24), not "
      ++ durationText seconds ++ "."

def Error.message : Error → String
  | .malformed => "malformed"
  | .noCharacter _ => "chr() arg not in range(0x110000)"
  | .halfPair _ => "surrogates not allowed"
  | .tooDeep => "maximum recursion depth exceeded"
  | .integer (.malformed base text) =>
    "invalid literal for int() with base " ++ Number.intText base ++ ": " ++ abridged text
  | .integer (.tooLong digits) =>
    "Exceeds the limit (4300 digits) for integer string conversion: value has "
      ++ Number.intText digits ++ " digits; use sys.set_int_max_str_digits() to increase the limit"
  | .decimal text => "could not convert string to float: " ++ Text.quoted text
  | .emptyNumeral => "string index out of range"
  | .overflow => "int too large to convert to float"
  | .truthValue => "no truth value"
  | .timestamp => "no timestamp"
  | .calendar error => calendarMessage error

abbrev Reading (α : Type) := Except Error α

end PenPlotter.Yaml
