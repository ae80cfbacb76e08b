import PenPlotter.Value.Basic
import PenPlotter.Text.Quoted

/-!
# The text of values

How messages show a value: `shown` in full, with texts between quotes, and `display` the same but
for a text, which stands bare, and dates, which are written plainly.  There is no text for integers of
very many digits, nor for values too deep inside others: each of them takes up room on the stack, and
of that there is only so much.
-/

set_option autoImplicit false

namespace PenPlotter

open Calendar

def durationText (seconds : Int) : String :=
  let days := seconds / 86400
  let rest := seconds % 86400
  let parts := (if days = 0 then [] else ["days=" ++ Number.intText days])
    ++ (if rest = 0 then [] else ["seconds=" ++ Number.intText rest])
  "datetime.timedelta(" ++ (if parts.isEmpty then "0" else ", ".intercalate parts) ++ ")"

namespace Value

def typeName : Value → String
  | .null => "NoneType"
  | .bool _ => "bool"
  | .number (.int _) => "int"
  | .number (.double _) => "float"
  | .text _ => "str"
  | .bytes _ => "bytes"
  | .list _ => "list"
  | .tuple _ => "tuple"
  | .mapping _ => "dict"
  | .set _ => "set"
  | .date _ => "date"
  | .moment _ => "datetime"
  | .enclosing _ => "list"

/-- The fields of a date and time; seconds and microseconds at the end are left out if zero. -/
def shownMoment (m : Moment) : String :=
  let t := m.time
  let numbers := [m.date.year, m.date.month, m.date.day, t.hour, t.minute]
    ++ (if t.second = 0 && t.microsecond = 0 then [] else [t.second])
    ++ (if t.microsecond = 0 then [] else [t.microsecond])
  let zone :=
    match m.offset with
    | none => []
    | some 0 => ["tzinfo=datetime.timezone.utc"]
    | some s => ["tzinfo=datetime.timezone(" ++ durationText s ++ ")"]
  "datetime.datetime(" ++ ", ".intercalate (numbers.map (fun n : Nat => Number.intText n) ++ zone) ++ ")"

def shownDate (d : Date) : String :=
  "datetime.date(" ++ ", ".intercalate ([d.year, d.month, d.day].map fun n : Nat => Number.intText n) ++ ")"

mutual

/-- A value in full.  `around` holds, for each collection around it from the inside out, how that
collection is shown inside itself, and `room` is how deep values may still lie inside it. -/
def shownIn (around : List String) (room : Nat) : Value → Except NoText String
  | .null => .ok "None"
  | .bool b => .ok (if b then "True" else "False")
  | .number n => n.written
  | .text s => .ok (Text.quoted s)
  | .bytes bs => .ok (Text.quotedBytes bs)
  | .list items => do
    return "[" ++ ", ".intercalate (← shownAll ("[...]" :: around) room items) ++ "]"
  | .tuple items => do
    match ← shownAll ("(...)" :: around) room items with
    | [one] => return "(" ++ one ++ ",)"
    | all => return "(" ++ ", ".intercalate all ++ ")"
  | .mapping entries => do
    return "\x7b" ++ ", ".intercalate (← shownEntries ("\x7b...\x7d" :: around) room entries) ++ "\x7d"
  | .set [] => .ok "set()"
  -- The members of a set are shown as a list, which is itself inside the set.
  | .set members => do
    let shown ← shownAll ("set(...)" :: around) (room - 1) members
    return "\x7b" ++ ", ".intercalate shown ++ "\x7d"
  | .date d => .ok (shownDate d)
  | .moment m => .ok (shownMoment m)
  | .enclosing level => .ok (around.getD level "[...]")

def shownAll (around : List String) (room : Nat) : List Value → Except NoText (List String)
  | [] => .ok []
  | v :: rest => do
    if room = 0 then throw .tooDeep
    let first ← shownIn around (room - 1) v
    return first :: (← shownAll around room rest)

def shownEntries (around : List String) (room : Nat) :
    List (Value × Value) → Except NoText (List String)
  | [] => .ok []
  | (k, v) :: rest => do
    if room = 0 then throw .tooDeep
    let key ← shownIn around (room - 1) k
    let content ← shownIn around (room - 1) v
    return (key ++ ": " ++ content) :: (← shownEntries around room rest)

end

def shown (room : Nat) (v : Value) : Except NoText String := shownIn [] room v

def display (room : Nat) : Value → Except NoText String
  | .text s => .ok s
  | .date d => .ok d.text
  | .moment m => .ok (m.text " ")
  | v => v.shown room

end Value

end PenPlotter
