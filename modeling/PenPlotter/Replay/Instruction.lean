import PenPlotter.Number
import PenPlotter.Text.Word
import PenPlotter.Decimal.Numeral

/-!
# Instructions

What a line of a program tells the machine.  The pen is moved by whatever commands the machine is
set up with, so these are looked for first; of the rest only moves and the two coordinate modes
matter, and every other line is passed over.
-/

set_option autoImplicit false

namespace PenPlotter.Replay

open Text Decimal

/-! ## 1. Words -/

structure Words where
  x? : Option Double
  y? : Option Double
  feed? : Option Double
deriving DecidableEq, Repr

/-- The characters of a number at the front of a text: a sign, digits and a fraction, of which
either may be missing but not both. -/
def leadingNumeral? (s : List Char) : Option (List Char) :=
  let (sign, rest) :=
    match s with
    | '+' :: rest => (['+'], rest)
    | '-' :: rest => (['-'], rest)
    | _ => ([], s)
  let whole := rest.takeWhile isDigit
  let (point, fraction) :=
    match rest.dropWhile isDigit with
    | '.' :: rest => (['.'], rest.takeWhile isDigit)
    | _ => ([], [])
  if whole.isEmpty && fraction.isEmpty then none else some (sign ++ whole ++ point ++ fraction)

/-- The number after the first letter of a kind, in either case, that has one; blanks may stand
between them. -/
def wordOf? (letter : Char) : List Char → Option Double
  | [] => none
  | c :: rest =>
    if c.toUpper = letter then
      match leadingNumeral? (rest.dropWhile isBlank) with
      | some numeral => bareDecimal? numeral
      | none => wordOf? letter rest
    else wordOf? letter rest

def Words.ofCode (code : List Char) : Words :=
  ⟨wordOf? 'X' code, wordOf? 'Y' code, wordOf? 'F' code⟩

/-! ## 2. Instructions -/

structure Setup where
  penUp : String
  penDown : String
  /-- Output units per minute when travelling. -/
  travelSpeed : Number
  penSeconds : Number

def Setup.standard (penUp penDown : String) : Setup :=
  ⟨penUp, penDown, .double 6000, .double (.ofDecimal false 2 (-1))⟩

inductive Instruction where
  | none
  | penDown
  | penUp
  | travel (words : Words)
  | draw (words : Words)
  | absolute
  | relative
  | other
deriving DecidableEq, Repr

/-- The part of a line before the comment, without blanks around it. -/
def codePart (line : List Char) : List Char := trim (line.takeWhile (· ≠ ';'))

/-- Whether a character goes on a word in capitals.  The combining small iota does, since its
capital is a letter. -/
def continuesWord (c : Char) : Bool := isWord c || c.toNat = 0x345

def startsWithWord (word : List Char) (s : List Char) : Bool :=
  (s.take word.length).map Char.toUpper = word && !(s.drop word.length).head?.any continuesWord

def startsWith (start : List Char) (s : List Char) : Bool :=
  (s.take start.length).map Char.toUpper = start

def Instruction.ofLine (setup : Setup) (line : List Char) : Instruction :=
  let code := codePart line
  if code.isEmpty then .none
  else if code = trim setup.penDown.toList then .penDown
  else if code = trim setup.penUp.toList then .penUp
  else if startsWithWord ['G', '0'] code || startsWithWord ['G', '0', '0'] code then
    .travel (.ofCode code)
  else if startsWithWord ['G', '1'] code || startsWithWord ['G', '0', '1'] code then
    .draw (.ofCode code)
  else if startsWith ['G', '9', '0'] code then .absolute
  else if startsWith ['G', '9', '1'] code then .relative
  else .other

end PenPlotter.Replay
