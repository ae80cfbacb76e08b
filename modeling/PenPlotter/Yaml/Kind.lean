import PenPlotter.Yaml.Cursor

/-!
# Kinds

What a node is: said by its tag, or for plain scalars by how they are written.
-/

set_option autoImplicit false

namespace PenPlotter.Yaml

inductive Kind where
  | null
  | bool
  | integer
  | decimal
  | binary
  | timestamp
  | orderedMapping
  | pairs
  | set
  | text
  | sequence
  | mapping
  /-- The key under which other mappings are merged into one. -/
  | merge
  | default
  | unknown
deriving DecidableEq, Repr

namespace Kind

def standardTag : String := "tag:yaml.org,2002:"

def names : List (String × Kind) := [("null", null), ("bool", bool), ("int", integer),
  ("float", decimal), ("binary", binary), ("timestamp", timestamp), ("omap", orderedMapping),
  ("pairs", pairs), ("set", set), ("str", text), ("seq", sequence), ("map", mapping),
  ("merge", merge), ("value", default)]

def ofTag (tag : String) : Kind :=
  match names.find? fun n => standardTag ++ n.1 = tag with
  | some (_, kind) => kind
  | none => unknown

/-! ## Plain scalars -/

def run (p : Char → Bool) (s : List Char) : List Char × List Char := (s.takeWhile p, s.dropWhile p)

def isSign (c : Char) : Bool := c = '+' || c = '-'

def isSpacedDigit (c : Char) : Bool := isAsciiDigit c || c = '_'

def dropSign : List Char → List Char
  | c :: rest => if isSign c then rest else c :: rest
  | [] => []

def boolWords : List String :=
  ["yes", "Yes", "YES", "no", "No", "NO", "true", "True", "TRUE", "false", "False", "FALSE",
    "on", "On", "ON", "off", "Off", "OFF"]

def nullWords : List String := ["~", "null", "Null", "NULL", ""]

def isExponent : List Char → Bool
  | [] => true
  | [_] => false
  | c :: sign :: digits =>
    (c = 'e' || c = 'E') && isSign sign && !digits.isEmpty && digits.all isAsciiDigit

/-- What may come after a colon in a sexagesimal numeral: a place of one or two digits, of which
the first of two is below six, then more of them; in the end what `last` accepts. -/
def isSexagesimalTail (last : List Char → Bool) : List Char → Bool
  | ':' :: a :: b :: rest =>
    isAsciiDigit a && (
      (a < '6' && isAsciiDigit b && (last rest || isSexagesimalTail last rest))
        || last (b :: rest) || isSexagesimalTail last (b :: rest))
  | [':', a] => isAsciiDigit a && last []
  | _ => false

def startsWithDigit (s : List Char) : Bool := s.head?.any isAsciiDigit

def isDecimal (s : List Char) : Bool :=
  let body := dropSign s
  let (whole, rest) := run isSpacedDigit body
  let afterPoint (s : List Char) : Option (List Char) :=
    match s with
    | '.' :: rest => some (rest.dropWhile isSpacedDigit)
    | _ => none
  let pointOnly (s : List Char) : Bool := (afterPoint s) = some []
  (startsWithDigit whole && (afterPoint rest).any isExponent)
    || (s.head? = some '.' && startsWithDigit s.tail && (afterPoint s).any isExponent)
    || (startsWithDigit whole && isSexagesimalTail pointOnly rest)
    || [".inf", ".Inf", ".INF"].contains (String.ofList body)
    || [".nan", ".NaN", ".NAN"].contains (String.ofList s)

def isInteger (s : List Char) : Bool :=
  let body := dropSign s
  let positive := body.head?.any fun c => '1' ≤ c && c ≤ '9'
  let digitsAfter (mark : Char) (p : Char → Bool) : Bool :=
    match body with
    | '0' :: c :: rest => c = mark && !rest.isEmpty && rest.all p
    | _ => false
  let octal : Bool :=
    match body with
    | '0' :: rest => !rest.isEmpty && rest.all fun c => ('0' ≤ c && c ≤ '7') || c = '_'
    | _ => false
  let sexagesimal : Bool :=
    let (_, rest) := run isSpacedDigit body
    positive && isSexagesimalTail (·.isEmpty) rest
  digitsAfter 'b' (fun c => c = '0' || c = '1' || c = '_')
    || octal
    || body = ['0']
    || (positive && body.all isSpacedDigit)
    || digitsAfter 'x' (fun c => isHexDigit c || c = '_')
    || sexagesimal

end Kind

/-! ## Timestamps -/

structure TimestampText where
  year : List Char
  month : List Char
  day : List Char
  time : Option (List Char × List Char × List Char × List Char)
  /-- The zone: nothing, universal time, or a sign, hours and minutes. -/
  zone : Option (Option (Bool × List Char × List Char))
deriving Repr

def takeDigitRun (least most : Nat) (s : List Char) : Option (List Char × List Char) :=
  let ds := (s.takeWhile isAsciiDigit).take most
  if ds.length < least then none else some (ds, s.drop ds.length)

def expectChar (p : Char → Bool) : List Char → Option (List Char)
  | c :: rest => if p c then some rest else none
  | [] => none

namespace TimestampText

def zone? : List Char → Option (Option (Option (Bool × List Char × List Char)))
  | s =>
    match s with
    | [] => some none
    | _ =>
      match s.dropWhile isSpace with
      | ['Z'] => some (some none)
      | c :: rest =>
        if !Kind.isSign c then none
        else do
          let (hours, rest) ← takeDigitRun 1 2 rest
          match rest with
          | [] => some (some (some (c = '-', hours, [])))
          | ':' :: rest =>
            let (minutes, rest) ← takeDigitRun 2 2 rest
            if rest.isEmpty then some (some (some (c = '-', hours, minutes))) else none
          | _ => none
      | [] => none

def ofChars? (s : List Char) : Option TimestampText := do
  let (year, s) ← takeDigitRun 4 4 s
  let s ← expectChar (· = '-') s
  let (month, s) ← takeDigitRun 1 2 s
  let s ← expectChar (· = '-') s
  let (day, s) ← takeDigitRun 1 2 s
  if s.isEmpty then return ⟨year, month, day, none, none⟩
  let s ← expectChar (fun c => c = 'T' || c = 't' || isSpace c) s
  let s := if s.head?.any isSpace then s.dropWhile isSpace else s
  let (hour, s) ← takeDigitRun 1 2 s
  let s ← expectChar (· = ':') s
  let (minute, s) ← takeDigitRun 2 2 s
  let s ← expectChar (· = ':') s
  let (second, s) ← takeDigitRun 2 2 s
  let (fraction, s) :=
    match s with
    | '.' :: rest => Kind.run isAsciiDigit rest
    | _ => ([], s)
  let zone ← zone? s
  return ⟨year, month, day, some (hour, minute, second, fraction), zone⟩

def isPlain (s : List Char) : Bool :=
  match ofChars? s with
  | some t => t.time.isSome || (t.month.length = 2 && t.day.length = 2)
  | none => false

end TimestampText

namespace Kind

def dropFinalBreak (s : List Char) : List Char :=
  if s.getLast? = some '\n' then s.dropLast else s

/-- The kind of a plain scalar, from its text; a line feed at the end does not count. -/
def ofPlain (text : String) : Kind :=
  let s := dropFinalBreak text.toList
  let word := String.ofList s
  if text.isEmpty then null
  else if s.isEmpty then Kind.text
  else if boolWords.contains word then bool
  else if isDecimal s then decimal
  else if isInteger s then integer
  else if word = "<<" then merge
  else if nullWords.contains word then null
  else if TimestampText.isPlain s then timestamp
  else if word = "=" then default
  else if ["!", "&", "*"].contains word then unknown
  else Kind.text

end Kind

end PenPlotter.Yaml
