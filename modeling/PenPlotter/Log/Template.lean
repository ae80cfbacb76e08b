import PenPlotter.Value.Text
import PenPlotter.Decimal.General

/-!
# Templates

The message of a record is a template with arguments.  A directive in it starts with `%` and ends
with a letter for the conversion; between them stand the key of a mapping in parentheses, flags, a
width and a precision, all of them optional.  `%%` is a percent sign.
-/

set_option autoImplicit false

namespace PenPlotter.Log

open Decimal

attribute [local instance (high)] instPowNat

inductive Measure where
  | unset
  | fixed (n : Nat)
  | argument
deriving DecidableEq, Repr

structure Directive where
  key : Option String
  leftAligned : Bool
  plus : Bool
  blank : Bool
  alternate : Bool
  zeros : Bool
  width : Measure
  precision : Measure
deriving DecidableEq, Repr

inductive DirectiveFault where
  | incomplete
  | incompleteKey
  | widthTooBig
  | precisionTooBig
deriving DecidableEq, Repr

inductive Piece where
  | literal (c : Char)
  /-- A directive with its conversion and the place of that in the template. -/
  | directive (d : Directive) (conversion : Char) (index : Nat)
  | broken (d : Directive) (fault : DirectiveFault)
deriving DecidableEq, Repr

namespace Template

/-! ## 1. Reading -/

def isFlag (c : Char) : Bool := c = '-' || c = '+' || c = ' ' || c = '#' || c = '0'

def isDigit (c : Char) : Bool := '0' ≤ c && c ≤ '9'

def scanKey (depth : Nat) : List Char → Option (List Char × Nat)
  | [] => none
  | c :: rest =>
    match c, depth with
    | ')', 0 => some ([], 1)
    | ')', depth + 1 => (scanKey depth rest).map fun (key, n) => (c :: key, n + 1)
    | '(', depth => (scanKey (depth + 1) rest).map fun (key, n) => (c :: key, n + 1)
    | _, depth => (scanKey depth rest).map fun (key, n) => (c :: key, n + 1)

def scanMeasure : List Char → Measure × Nat
  | '*' :: _ => (.argument, 1)
  | cs =>
    let ds := cs.takeWhile isDigit
    if ds.isEmpty then (.unset, 0)
    else (.fixed (ds.foldl (fun n c => 10 * n + (c.toNat - '0'.toNat)) 0), ds.length)

def scanPrecision : List Char → Measure × Nat
  | '.' :: rest =>
    match scanMeasure rest with
    | (.unset, _) => (.fixed 0, 1)
    | (m, n) => (m, n + 1)
  | _ => (.unset, 0)

def scanSize : List Char → Nat
  | c :: _ => if c = 'h' || c = 'l' || c = 'L' then 1 else 0
  | [] => 0

def exceeds (limit : Nat) : Measure → Bool
  | .fixed n => limit < n
  | _ => false

def widthLimit : Nat := 2 ^ (63 : Nat) - 1

def precisionLimit : Nat := 2 ^ (31 : Nat) - 1

/-- Reads what follows a percent sign at an index of the template.  Also gives the number of
characters that it takes. -/
def scan (index : Nat) (cs : List Char) : Piece × Nat :=
  let none : Directive := ⟨.none, false, false, false, false, false, .unset, .unset⟩
  let key : Option (Option String × Nat) :=
    match cs with
    | '(' :: rest => (scanKey 0 rest).map fun (key, n) => (some (String.ofList key), n + 1)
    | _ => some (.none, 0)
  match key with
  | .none => (.broken none .incompleteKey, cs.length)
  | some (key, taken) =>
    let flags := (cs.drop taken).takeWhile isFlag
    let taken := taken + flags.length
    let (width, n) := scanMeasure (cs.drop taken)
    let taken := taken + n
    let d := { none with
      key, width
      leftAligned := flags.contains '-'
      plus := flags.contains '+'
      blank := flags.contains ' '
      alternate := flags.contains '#'
      zeros := flags.contains '0' }
    if exceeds widthLimit width then (.broken d .widthTooBig, taken)
    else
      let (precision, n) := scanPrecision (cs.drop taken)
      let taken := taken + n
      if exceeds precisionLimit precision then (.broken d .precisionTooBig, taken)
      else
        let d := { d with precision }
        let taken := taken + scanSize (cs.drop taken)
        match cs.drop taken with
        | [] => (.broken d .incomplete, taken)
        | c :: _ => (.directive d c (index + taken), taken + 1)

def pieces (index : Nat) : List Char → List Piece
  | [] => []
  | '%' :: '%' :: rest => .literal '%' :: pieces (index + 2) rest
  | '%' :: rest =>
    let (piece, taken) := scan (index + 1) rest
    piece :: pieces (index + 1 + taken) (rest.drop taken)
  | c :: rest => .literal c :: pieces (index + 1) rest
termination_by cs => cs.length
decreasing_by all_goals simp only [List.length_cons, List.length_drop]; omega

/-! ## 2. Converting -/

inductive Error where
  | fault (fault : DirectiveFault)
  | unknownConversion (conversion : Char) (index : Nat)
  | tooFewArguments
  | tooManyArguments
  /-- There is a key but no mapping to look it up in. -/
  | noMapping
  | noSuchKey (key : String)
  | wrongType (typeName : String)
  | notNumber
  | overflow
  | noText (reason : NoText)
deriving DecidableEq, Repr

def Error.message : Error → String
  | .fault .incomplete => "incomplete format"
  | .fault .incompleteKey => "incomplete format key"
  | .fault .widthTooBig => "width too big"
  | .fault .precisionTooBig => "precision too big"
  | .unknownConversion c index =>
    let shown := if 31 ≤ c.toNat && c.toNat < 126 then c else '?'
    "unsupported format character '" ++ String.ofList [shown] ++ "' (0x"
      ++ String.ofList (Text.hex 1 c.toNat) ++ ") at index " ++ Number.intText index
  | .tooFewArguments => "not enough arguments for format string"
  | .tooManyArguments => "not all arguments converted during string formatting"
  | .noMapping => "format requires a mapping"
  | .noSuchKey key => Text.quoted key
  | .wrongType typeName => "a conversion does not take " ++ typeName
  | .notNumber => "cannot convert float NaN to integer"
  | .overflow => "number out of range"
  | .noText reason => reason.message

structure Converted where
  isNumber : Bool
  negative : Bool
  mark : List Char
  body : List Char

/-- Fills up to a width: numbers with zeros after sign and mark if so flagged, all else with
blanks. -/
def Converted.layout (d : Directive) (leftAligned : Bool) (width : Nat) (c : Converted) :
    List Char :=
  let sign :=
    if !c.isNumber then []
    else if c.negative then ['-']
    else if d.plus then ['+']
    else if d.blank then [' ']
    else []
  let lead := sign ++ c.mark
  let missing := width - (lead.length + c.body.length)
  if leftAligned then lead ++ c.body ++ List.replicate missing ' '
  else if d.zeros && c.isNumber then lead ++ List.replicate missing '0' ++ c.body
  else List.replicate missing ' ' ++ lead ++ c.body

def convertText (precision : Option Nat) (s : String) : Converted :=
  let cs := s.toList
  ⟨false, false, [], match precision with | some n => cs.take n | none => cs⟩

def inAscii (s : String) : String :=
  String.ofList <| s.toList.flatMap fun c =>
    let n := c.toNat
    if n < 0x80 then [c]
    else if n < 0x100 then '\\' :: 'x' :: Text.hex 2 n
    else if n < 0x10000 then '\\' :: 'u' :: Text.hex 4 n
    else '\\' :: 'U' :: Text.hex 8 n

/-- The integer of an argument; where it is allowed, doubles are cut off at the point. -/
def integerOf (cutOff : Bool) (v : Value) : Except Error Int :=
  match v.asNumber? with
  | some (.int n) => .ok n
  | some (.double x) =>
    if !cutOff then .error (.wrongType v.typeName)
    else
      match x.truncate? with
      | some n => .ok n
      | none => .error (if x.isNaN then .notNumber else .overflow)
  | none => .error (.wrongType v.typeName)

def writableOf (n : Int) : Except Error Int :=
  if (Number.int n).isWritable then .ok n else .error (.noText .tooManyDigits)

def convertInteger (alternate : Bool) (precision : Option Nat) (conversion : Char) (n : Int) :
    Converted :=
  let base := if conversion = 'o' then 8 else if conversion = 'x' || conversion = 'X' then 16 else 10
  let mark := if alternate && base ≠ 10 then ['0', conversion] else []
  let ds := padLeft (precision.getD 0) (Nat.toDigits base n.natAbs)
  ⟨true, n < 0, mark, if conversion = 'X' then ds.map Char.toUpper else ds⟩

/-- A decimal without its sign.  The alternate form always has a point. -/
def decimalBody (alternate : Bool) (precision : Nat) (kind : Char) (x : Double) : List Char :=
  if !x.isFinite then x.fixedChars 0
  else
    match kind with
    | 'e' =>
      let text := x.scientificChars precision
      if alternate && precision = 0 then
        text.takeWhile (· ≠ 'e') ++ '.' :: text.dropWhile (· ≠ 'e')
      else text
    | 'f' =>
      let text := x.fixedChars precision
      if alternate && precision = 0 then text ++ ['.'] else text
    | _ => x.generalChars alternate precision

def convertDecimal (alternate : Bool) (precision : Option Nat) (conversion : Char) (x : Double) :
    Converted :=
  let body := decimalBody alternate (precision.getD 6) conversion.toLower x.abs
  let negative :=
    match x with
    | .finite s _ | .inf s => s
    | .nan => false
  ⟨true, negative, [], if conversion.isUpper then body.map Char.toUpper else body⟩

def doubleOf (v : Value) : Except Error Double :=
  match v.asNumber? with
  | none => .error (.wrongType v.typeName)
  | some n => n.toDouble.mapError fun _ => .overflow

def characterOf (v : Value) : Except Error Char :=
  match v with
  | .text s =>
    match s.toList with
    | [c] => .ok c
    | _ => .error (.wrongType v.typeName)
  | v => do
    let n ← integerOf false v
    if n < 0 ∨ 0x110000 ≤ n then throw .overflow
    return Char.ofNat n.toNat

def convert (room : Nat) (d : Directive) (precision : Option Nat) (conversion : Char) (index : Nat)
    (v : Value) : Except Error Converted :=
  match conversion with
  | 's' => ((v.display room).map (convertText precision)).mapError .noText
  | 'r' => ((v.shown room).map (convertText precision)).mapError .noText
  | 'a' => ((v.shown room).map fun s => convertText precision (inAscii s)).mapError .noText
  | 'c' => (characterOf v).map fun c => ⟨false, false, [], [c]⟩
  | 'd' | 'i' | 'u' => do
    let n ← writableOf (← integerOf true v)
    return convertInteger d.alternate precision conversion n
  | 'o' | 'x' | 'X' =>
    (integerOf false v).map (convertInteger d.alternate precision conversion)
  | 'e' | 'E' | 'f' | 'F' | 'g' | 'G' =>
    (doubleOf v).map (convertDecimal d.alternate precision conversion)
  | _ => .error (.unknownConversion conversion index)

/-! ## 3. Filling in -/

structure Supply where
  arguments : List Value
  mapping : Option (List (Value × Value))

def Supply.of (arguments : List Value) : Supply :=
  match arguments with
  | [.mapping (e :: es)] => ⟨arguments, some (e :: es)⟩
  | _ => ⟨arguments, none⟩

def Supply.next (s : Supply) : Except Error (Value × Supply) :=
  match s.arguments with
  | [] => .error .tooFewArguments
  | v :: rest => .ok (v, { s with arguments := rest })

def Supply.select (s : Supply) : Option String → Except Error Supply
  | none => .ok s
  | some key =>
    match s.mapping with
    | none => .error .noMapping
    | some entries =>
      match Value.find? entries (.text key) with
      | some v => .ok { s with arguments := [v] }
      | none => .error (.noSuchKey key)

/-- The number of a measure; an argument that is one must be an integer of so many bits. -/
def Supply.measure (s : Supply) (bits : Nat) : Measure → Except Error (Option Int × Supply)
  | .unset => .ok (none, s)
  | .fixed n => .ok (some n, s)
  | .argument => do
    let (v, s) ← s.next
    let n ← integerOf false v
    if !fitsBits bits n then throw .overflow
    return (some n, s)

/-- The mapping and the measures of a directive: what is left for its argument, the width, which
aligns to the left if negative, and the precision. -/
def Supply.prepare (s : Supply) (d : Directive) :
    Except Error (Supply × Option Int × Option Nat) := do
  let s ← s.select d.key
  let (width, s) ← s.measure 64 d.width
  let (precision, s) ← s.measure 32 d.precision
  return (s, width, precision.map Int.toNat)

def fillPiece (room : Nat) (s : Supply) : Piece → Except Error (List Char × Supply)
  | .literal c => .ok ([c], s)
  | .broken _ .incompleteKey =>
    .error (if s.mapping.isNone then .noMapping else .fault .incompleteKey)
  | .broken d fault => do
    let _ ← s.prepare d
    throw (.fault fault)
  | .directive d conversion index => do
    let (s, width, precision) ← s.prepare d
    let (v, s) ← s.next
    let converted ← convert room d precision conversion index v
    let width := width.getD 0
    return (converted.layout d (d.leftAligned || width < 0) width.natAbs, s)

def fillPieces (room : Nat) (s : Supply) : List Piece → Except Error (List Char)
  | [] => if s.mapping.isNone && !s.arguments.isEmpty then .error .tooManyArguments else .ok []
  | p :: rest => do
    let (text, s) ← fillPiece room s p
    return text ++ (← fillPieces room s rest)

def fill (room : Nat) (template : String) (arguments : List Value) : Except Error String :=
  if arguments.isEmpty then .ok template
  else
    (fillPieces room (.of arguments) (pieces 0 template.toList)).map String.ofList

end Template

end PenPlotter.Log
