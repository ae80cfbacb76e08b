import PenPlotter.Value.Basic
import PenPlotter.Text.Quoted
import PenPlotter.Decimal.Shortest

/-!
# JSON

Values in the JavaScript object notation, on one line and in the first 128 characters only.  Beyond
the standard, a number may be not-a-number or infinite.
-/

set_option autoImplicit false

namespace PenPlotter.Log

inductive Json where
  | null
  | bool (b : Bool)
  | number (n : Number)
  | text (s : String)
  | array (items : List Json)
  | object (entries : List (String × Json))

namespace Json

/-! ## 1. Text -/

def unitEscape (n : Nat) : List Char := '\\' :: 'u' :: Text.hex 4 n

/-- One character between quotes: quotes, backslashes and all but the printable first 128 characters
are escaped, those beyond sixteen bits as a pair of surrogates. -/
def escaped (c : Char) : List Char :=
  let n := c.toNat
  if c = '"' || c = '\\' then ['\\', c]
  else if 32 ≤ n && n < 127 then [c]
  else if c = '\n' then ['\\', 'n']
  else if c = '\r' then ['\\', 'r']
  else if c = '\t' then ['\\', 't']
  else if n = 8 then ['\\', 'b']
  else if n = 12 then ['\\', 'f']
  else if n < 0x10000 then unitEscape n
  else unitEscape (0xd800 + (n - 0x10000) / 0x400) ++ unitEscape (0xdc00 + (n - 0x10000) % 0x400)

def quotedChars (s : List Char) : List Char := '"' :: s.flatMap escaped ++ ['"']

def doubleChars : Double → List Char
  | .nan => "NaN".toList
  | .inf s => (if s then "-Infinity" else "Infinity").toList
  | x => x.textChars

def numberChars : Number → List Char
  | .int n => Number.intChars n
  | .double x => doubleChars x

mutual

def chars : Json → List Char
  | .null => "null".toList
  | .bool b => (if b then "true" else "false").toList
  | .number n => numberChars n
  | .text s => quotedChars s.toList
  | .array items => '[' :: itemChars items ++ [']']
  | .object entries => '\x7b' :: entryChars entries ++ ['\x7d']

def itemChars : List Json → List Char
  | [] => []
  | [j] => chars j
  | j :: rest => chars j ++ ',' :: ' ' :: itemChars rest

def entryChars : List (String × Json) → List Char
  | [] => []
  | [(key, j)] => quotedChars key.toList ++ ':' :: ' ' :: chars j
  | (key, j) :: rest =>
    quotedChars key.toList ++ ':' :: ' ' :: (chars j ++ ',' :: ' ' :: entryChars rest)

end

def line (j : Json) : String := String.ofList j.chars

/-! ## 2. Values -/

/-- The name that a key becomes; only texts, numbers, truth values and null can be keys. -/
def keyOf? : Value → Option String
  | .text s => some s
  | .number n => if n.isWritable then some (String.ofList (numberChars n)) else none
  | .bool b => some (if b then "true" else "false")
  | .null => some "null"
  | _ => none

mutual

/-- A value in JSON, unless it has a part that JSON cannot express, or that lies too deep inside it. -/
def ofValue? (room : Nat) : Value → Option Json
  | .null => some .null
  | .bool b => some (.bool b)
  | .number n => if n.isWritable then some (.number n) else none
  | .text s => some (.text s)
  | .list items | .tuple items => (ofItems? room items).map .array
  | .mapping entries => (ofEntries? room entries).map .object
  | _ => none

def ofItems? (room : Nat) : List Value → Option (List Json)
  | [] => some []
  | v :: rest => do
    if room = 0 then none
    return (← ofValue? (room - 1) v) :: (← ofItems? room rest)

def ofEntries? (room : Nat) : List (Value × Value) → Option (List (String × Json))
  | [] => some []
  | (k, v) :: rest => do
    if room = 0 then none
    return (← keyOf? k, ← ofValue? (room - 1) v) :: (← ofEntries? room rest)

end

end Json

end PenPlotter.Log
