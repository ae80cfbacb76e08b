import PenPlotter.Log.Json
import PenPlotter.Proofs.Decimal.Reading

/-!
# A reader of JSON

Reads the notation as its standard has it, and the numbers beyond the standard that are written here.
It is defined apart from the writer, to say what another program finds in a line.
-/

set_option autoImplicit false

namespace PenPlotter.Log.Json

open Decimal Text

/-! ## 1. Texts -/

def hexDigit? (c : Char) : Option Nat := "0123456789abcdef".toList.idxOf? c.toLower

def hexNumber? (s : List Char) : Option Nat := (s.mapM hexDigit?).map (ofDigits 16)

def escapes : List (Char × Nat) :=
  [('"', 34), ('\\', 92), ('/', 47), ('b', 8), ('f', 12), ('n', 10), ('r', 13), ('t', 9)]

/-- The code units of a text up to the quotes that end it, and what follows them.  No line break and
no other control character may stand in a text. -/
def units? : List Char → Option (List Nat × List Char)
  | [] => none
  | '"' :: rest => some ([], rest)
  | '\\' :: 'u' :: a :: b :: c :: d :: rest => do
    let n ← hexNumber? [a, b, c, d]
    (units? rest).map (Prod.map (n :: ·) id)
  | '\\' :: c :: rest => do
    let n ← escapes.lookup c
    (units? rest).map (Prod.map (n :: ·) id)
  | c :: rest =>
    if c.toNat < 32 then none
    else (units? rest).map (Prod.map (c.toNat :: ·) id)

def character? (n : Nat) : Option Char := if n.isValidChar then some (Char.ofNat n) else none

/-- The characters of code units.  Two surrogates make one character, and one alone makes none. -/
def joined? : List Nat → Option (List Char)
  | [] => some []
  | [n] => (character? n).map fun c => [c]
  | n :: m :: rest =>
    if 0xd800 ≤ n ∧ n < 0xdc00 ∧ 0xdc00 ≤ m ∧ m < 0xe000 then do
      let c ← character? (0x10000 + (n - 0xd800) * 0x400 + (m - 0xdc00))
      (joined? rest).map (c :: ·)
    else do
      let c ← character? n
      (joined? (m :: rest)).map (c :: ·)

def text? (s : List Char) : Option (String × List Char) := do
  let (units, rest) ← units? s
  (joined? units).map fun cs => (String.ofList cs, rest)

/-! ## 2. Numbers -/

def fractionOf (s : List Char) : List Char × List Char :=
  match s with
  | '.' :: rest =>
    if (rest.takeWhile Char.isDigit).isEmpty then ([], s)
    else (rest.takeWhile Char.isDigit, rest.dropWhile Char.isDigit)
  | _ => ([], s)

def powerOf (s : List Char) : Option Int × List Char :=
  match s with
  | [] => (none, s)
  | c :: rest =>
    let (negative, rest) := takeSign rest
    let ds := rest.takeWhile Char.isDigit
    if (c = 'e' || c = 'E') && !ds.isEmpty then
      let n : Int := ofDigits 10 (ds.filterMap digit?)
      (some (if negative then -n else n), rest.dropWhile Char.isDigit)
    else (none, s)

def numberOf (negative : Bool) (p : Parts) : Number :=
  if p.isWhole then .int (if negative then -p.number else p.number)
  else .double (.ofDecimal negative p.number p.place)

def takeMinus : List Char → Bool × List Char
  | '-' :: rest => (true, rest)
  | s => (false, s)

def number? (s : List Char) : Option (Number × List Char) :=
  let (negative, s) := takeMinus s
  let whole := s.takeWhile Char.isDigit
  if whole.isEmpty || (whole.head? = some '0' && whole.length ≠ 1) then none
  else
    let (fraction, s) := fractionOf (s.dropWhile Char.isDigit)
    let (power, s) := powerOf s
    some (numberOf negative ⟨whole, fraction, power⟩, s)

/-! ## 3. Values -/

def words : List (String × Json) :=
  [("null", .null), ("true", .bool true), ("false", .bool false), ("NaN", .number (.double .nan)),
    ("Infinity", .number (.double (.inf false))), ("-Infinity", .number (.double (.inf true)))]

def word? (s : List Char) : Option (Json × List Char) :=
  words.findSome? fun (word, j) => (s.dropPrefix? word.toList).map fun rest => (j, rest)

def scalar? (s : List Char) : Option (Json × List Char) :=
  word? s <|> (number? s).map (Prod.map .number id)

def isGap (c : Char) : Bool := c = ' ' || c = '\t' || c = '\n' || c = '\r'

def skip (s : List Char) : List Char := s.dropWhile isGap

mutual

/-- The value at the front, and what follows it.  The number bounds how deep the reader goes. -/
def value? : Nat → List Char → Option (Json × List Char)
  | 0, _ => none
  | fuel + 1, s =>
    match skip s with
    | '"' :: rest => (text? rest).map (Prod.map .text id)
    | '[' :: rest =>
      match skip rest with
      | ']' :: rest => some (.array [], rest)
      | rest => (items? fuel rest).map (Prod.map .array id)
    | '\x7b' :: rest =>
      match skip rest with
      | '\x7d' :: rest => some (.object [], rest)
      | rest => (entries? fuel rest).map (Prod.map .object id)
    | s => scalar? s

/-- The items of an array up to the bracket that ends it, at least one, and what follows it. -/
def items? : Nat → List Char → Option (List Json × List Char)
  | 0, _ => none
  | fuel + 1, s => do
    let (j, rest) ← value? fuel s
    match skip rest with
    | ',' :: rest => (items? fuel rest).map (Prod.map (j :: ·) id)
    | ']' :: rest => some ([j], rest)
    | _ => none

def entries? : Nat → List Char → Option (List (String × Json) × List Char)
  | 0, _ => none
  | fuel + 1, s =>
    match skip s with
    | '"' :: rest => do
      let (name, rest) ← text? rest
      match skip rest with
      | ':' :: rest => do
        let (j, rest) ← value? fuel rest
        match skip rest with
        | ',' :: rest => (entries? fuel rest).map (Prod.map ((name, j) :: ·) id)
        | '\x7d' :: rest => some ([(name, j)], rest)
        | _ => none
      | _ => none
    | _ => none

end

def read? (s : String) : Option Json := do
  let (j, rest) ← value? (2 * s.toList.length + 2) s.toList
  if (skip rest).isEmpty then some j else none

def member? (name : String) : Json → Option Json
  | .object entries => entries.reverse.lookup name
  | _ => none

end PenPlotter.Log.Json
