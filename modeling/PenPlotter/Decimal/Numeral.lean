import PenPlotter.Double.Basic
import PenPlotter.Text.Digit
import PenPlotter.Text.Blank

/-!
# Numerals

Reading numbers from text.  An integer is a sign and digits; a decimal has a fraction and an
exponent besides, or is a name of infinity or not-a-number.  Digits of every script count, single
low lines may stand between two digits, and blanks around the number are ignored.
-/

set_option autoImplicit false

namespace PenPlotter.Decimal

open Text

/-- The blanks that may surround a number: the file, group, record and unit separators are not
among them. -/
def isMargin (c : Char) : Bool := isBlank c && !(28 ≤ c.toNat && c.toNat ≤ 31)

def joinDigits (isDigit : Char → Bool) : List Char → Option (List Char)
  | [] => some []
  | c :: '_' :: d :: rest =>
    if isDigit c && isDigit d then (joinDigits isDigit (d :: rest)).map (c :: ·) else none
  | c :: rest => if c = '_' then none else (joinDigits isDigit rest).map (c :: ·)

def takeSign : List Char → Bool × List Char
  | '-' :: rest => (true, rest)
  | '+' :: rest => (false, rest)
  | s => (false, s)

def takeDigits (s : List Char) : List Nat × List Char :=
  ((s.takeWhile isDigit).filterMap digit?, s.dropWhile isDigit)

def letterDigit? (c : Char) : Option Nat :=
  match digit? c with
  | some d => some d
  | none =>
    let n := c.toLower.toNat
    if 97 ≤ n && n ≤ 122 then some (n - 87) else none

def exponent? : List Char → Option Int
  | [] => some 0
  | c :: rest =>
    if c = 'e' || c = 'E' then
      let (negative, rest) := takeSign rest
      let (ds, rest) := takeDigits rest
      if ds.isEmpty || !rest.isEmpty then none
      else
        let e : Int := ofDigits 10 ds
        some (if negative then -e else e)
    else none

def named? (negative : Bool) (s : List Char) : Option Double :=
  let name := String.ofList (s.map Char.toLower)
  if name = "inf" || name = "infinity" then some (.inf negative)
  else if name = "nan" then some .nan
  else none

def bareDecimal? (s : List Char) : Option Double :=
  let (negative, s) := takeSign s
  let (whole, rest) := takeDigits s
  let (fraction, rest) :=
    match rest with
    | '.' :: rest => takeDigits rest
    | _ => ([], rest)
  if whole.isEmpty && fraction.isEmpty then named? negative s
  else
    (exponent? rest).map fun e =>
      Double.ofDecimal negative (ofDigits 10 (whole ++ fraction)) (e - fraction.length)

def decimal? (s : String) : Option Double :=
  (joinDigits isDigit (trimWhere isMargin s.toList)).bind bareDecimal?

inductive IntegerError where
  | malformed (base : Nat) (text : String)
  | tooLong (digits : Nat)
deriving Repr, DecidableEq

def integerDigitLimit : Nat := 4300

def baseMark : Nat → Option Char
  | 2 => some 'b'
  | 8 => some 'o'
  | 16 => some 'x'
  | _ => none

/-- Drops an announcement of the base: a zero and the mark of the base, in either case, and one low
line after it. -/
def dropBaseMark (base : Nat) : List Char → List Char
  | '0' :: c :: rest =>
    if baseMark base = some c.toLower then
      match rest with
      | '_' :: rest => rest
      | _ => rest
    else '0' :: c :: rest
  | s => s

def integer? (base : Nat) (text : String) : Except IntegerError Int :=
  let (negative, body) := takeSign (trimWhere isMargin text.toList)
  let isDigitOfBase (c : Char) : Bool := (letterDigit? c).any (· < base)
  match joinDigits isDigitOfBase (dropBaseMark base body) with
  | none => .error (.malformed base text)
  | some ds =>
    if ds.isEmpty || !ds.all isDigitOfBase then .error (.malformed base text)
    else if base = 10 && integerDigitLimit < ds.length then .error (.tooLong ds.length)
    else
      let n : Int := ofDigits base (ds.filterMap letterDigit?)
      .ok (if negative then -n else n)

end PenPlotter.Decimal
