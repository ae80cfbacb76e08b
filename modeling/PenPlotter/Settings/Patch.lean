import PenPlotter.Settings.Basic
import PenPlotter.Value.Text
import PenPlotter.Decimal.Numeral

/-!
# Patches

A patch proposes a value for some of the settings.  `Settings.revise` puts it on top of settings
that are already in force: every proposal is checked on its own, all that fail are reported
together, in the order of the fields, and nothing changes unless all pass.
-/

set_option autoImplicit false

namespace PenPlotter

open Text Decimal

attribute [local instance (high)] instPowNat

/-! ## 1. Fields -/

inductive Field where
  | penUp
  | penDown
  | feedRate
  | start
  | finish
  | scalePercent
deriving DecidableEq, Repr

namespace Field

def all : List Field := [.penUp, .penDown, .feedRate, .start, .finish, .scalePercent]

def name : Field → String
  | .penUp => "pen_up"
  | .penDown => "pen_down"
  | .feedRate => "feed_rate"
  | .start => "start"
  | .finish => "end"
  | .scalePercent => "scale_percent"

def alias? : Field → Option String
  | .penUp => some "penUp"
  | .penDown => some "penDown"
  | .feedRate => some "feedRate"
  | .scalePercent => some "scalePercent"
  | .start | .finish => none

def named? (s : String) : Option Field := all.find? fun f => f.name = s

def called? (s : String) : Option Field := all.find? fun f => f.name = s || f.alias? = some s

end Field

/-! ## 2. What can be wrong with a value -/

inductive Fault where
  | commandNotText (typeName : String)
  | commandNotSingleLine (text : String)
  /-- A truth value stands for a number. -/
  | booleanFor (field : Field)
  | feedNotFinite (x : Double)
  | feedNotInteger
  | feedMalformed
  | feedTooLong
  | feedFractional
  | scaleNotNumber
  | scaleMalformed
  | scaleNotFinite
  | notPositive
deriving DecidableEq, Repr

def Fault.message : Fault → String
  | .commandNotText typeName => "Value error, command must be a string, got " ++ typeName
  | .commandNotSingleLine text => "Value error, command must be a single line, got " ++ quoted text
  | .booleanFor field => "Value error, " ++ field.name ++ " must be a number, got a boolean"
  | .feedNotFinite x => "Value error, feed_rate must be finite, got " ++ x.text
  | .feedNotInteger => "Input should be a valid integer"
  | .feedMalformed => "Input should be a valid integer, unable to parse string as an integer"
  | .feedTooLong => "Unable to parse input string as an integer, exceeded maximum size"
  | .feedFractional => "Input should be a valid integer, got a number with a fractional part"
  | .scaleNotNumber => "Input should be a valid number"
  | .scaleMalformed => "Input should be a valid number, unable to parse string as a number"
  | .scaleNotFinite => "Input should be a finite number"
  | .notPositive => "Input should be greater than 0"

structure Rejection where
  field : Field
  fault : Fault
deriving DecidableEq, Repr

def Rejection.message (r : Rejection) : String := r.field.name ++ ": " ++ r.fault.message

def rejectionMessage (rs : List Rejection) : String :=
  "Invalid configuration value: " ++ "; ".intercalate (rs.map Rejection.message)

/-! ## 3. Checking values -/

def commandOf : Value → Except Fault Command
  | .text s =>
    match Command.of? s with
    | some c => .ok c
    | none => .error (.commandNotSingleLine s)
  | v => .error (.commandNotText v.typeName)

def isAsciiDigit (c : Char) : Bool := '0' ≤ c && c ≤ '9'

/-- A whole number in digits of the first 128 characters, of which the leading zeros do not count
towards the limit; a point and zeros may follow. -/
def wholeNumber (s : List Char) : Except Fault Int :=
  let (negative, body) := takeSign s
  let whole := body.takeWhile fun c => isAsciiDigit c || c = '_'
  let tailAllowed :=
    match body.dropWhile fun c => isAsciiDigit c || c = '_' with
    | [] => true
    | '.' :: zeros => !zeros.isEmpty && zeros.all (· = '0')
    | _ => false
  match joinDigits isAsciiDigit whole with
  | none => .error .feedMalformed
  | some ds =>
    if ds.isEmpty || !tailAllowed then .error .feedMalformed
    else if integerDigitLimit < (ds.dropWhile (· = '0')).length then .error .feedTooLong
    else
      let n : Int := ofDigits 10 (ds.filterMap digit?)
      .ok (if negative then -n else n)

def wholeDouble (x : Double) : Except Fault Int :=
  match x.truncate? with
  | none => .error (.feedNotFinite x)
  | some n =>
    if !x.isWhole then .error .feedFractional
    else if 2 ^ (63 : Nat) ≤ n.natAbs then .error .feedTooLong
    else .ok n

def charactersOf? (bytes : List UInt8) : Option (List Char) :=
  (String.fromUTF8? ⟨bytes.toArray⟩).map String.toList

def feedNumber : Value → Except Fault Int
  | .bool _ => .error (.booleanFor .feedRate)
  | .number (.int n) => .ok n
  | .number (.double x) => wholeDouble x
  | .text s => wholeNumber (trim s.toList)
  | .bytes bytes =>
    match charactersOf? bytes with
    | some s => wholeNumber (trimWhere isMargin s)
    | none => .error .feedMalformed
  | _ => .error .feedNotInteger

def feedOf (v : Value) : Except Fault { n : Int // 0 < n } := do
  let n ← feedNumber v
  if h : 0 < n then return ⟨n, h⟩ else throw .notPositive

def dropLowLines (s : List Char) : Option (List Char) :=
  let rec doubled : List Char → Bool
    | '_' :: '_' :: _ => true
    | _ :: rest => doubled rest
    | [] => false
  if s.head? = some '_' || s.getLast? = some '_' || doubled s then none
  else some (s.filter (· ≠ '_'))

def asciiDecimal? (s : List Char) : Option Double := do
  let s := trimWhere isMargin (← dropLowLines s)
  if s.all fun c => c.toNat < 128 then bareDecimal? s else none

def scaleText (s : List Char) : Except Fault Double :=
  match asciiDecimal? s with
  | some x => .ok x
  | none => .error .scaleMalformed

def scaleNumber : Value → Except Fault Double
  | .bool _ => .error (.booleanFor .scalePercent)
  | .number n =>
    match n.toDouble with
    | .ok x => .ok x
    | .error _ => .error .scaleNotNumber
  | .text s => scaleText (trim s.toList)
  | .bytes bytes =>
    match charactersOf? bytes with
    | some s => scaleText s
    | none => .error .scaleMalformed
  | _ => .error .scaleNotNumber

def scaleOf (v : Value) : Except Fault { x : Double // x.isFinite = true ∧ 0 < x } := do
  let x ← scaleNumber v
  if finite : x.isFinite = true then
    if pos : 0 < x then return ⟨x, finite, pos⟩ else throw .notPositive
  else throw .scaleNotFinite

/-! ## 4. Patches -/

abbrev Patch := Field → Option Value

namespace Patch

def empty : Patch := fun _ => none

def put (p : Patch) (f : Field) (v : Value) : Patch := fun g => if g = f then some v else p g

/-- Reads the entries of a mapping.  Fields may be called by either name; keys that name no field
and entries without a content are left out; of several entries for a field the last counts. -/
def ofEntries (entries : List (Value × Value)) : Patch :=
  entries.foldl (fun p e =>
    match e with
    | (_, .null) => p
    | (.text key, v) =>
      match Field.called? key with
      | some f => p.put f v
      | none => p
    | _ => p) empty

def unknownKeys (entries : List (Value × Value)) : List Value :=
  (entries.map (·.1)).filter fun
    | .text key => (Field.called? key).isNone
    | _ => true

/-- Reads entries that name fields by their own names; an entry without a content proposes that. -/
def ofNamed (entries : List (Value × Value)) : Patch :=
  entries.foldl (fun p e =>
    match e with
    | (.text key, v) =>
      match Field.named? key with
      | some f => p.put f v
      | none => p
    | _ => p) empty

end Patch

/-- The proposal for a field, checked; without one the present value stays. -/
def proposal {α : Type} (p : Patch) (f : Field) (check : Value → Except Fault α) (present : α) :
    Except Rejection α :=
  match p f with
  | none => .ok present
  | some v =>
    match check v with
    | .ok a => .ok a
    | .error fault => .error ⟨f, fault⟩

def rejected {α : Type} : Except Rejection α → List Rejection
  | .ok _ => []
  | .error r => [r]

namespace Settings

def revise (s : Settings) (p : Patch) : Except (List Rejection) Settings :=
  let penUp := proposal p .penUp commandOf s.penUp
  let penDown := proposal p .penDown commandOf s.penDown
  let feed := proposal p .feedRate feedOf ⟨s.feedRate, s.feed_pos⟩
  let start := proposal p .start commandOf s.start
  let finish := proposal p .finish commandOf s.finish
  let scale := proposal p .scalePercent scaleOf ⟨s.scalePercent, s.scale_finite, s.scale_pos⟩
  match penUp, penDown, feed, start, finish, scale with
  | .ok penUp, .ok penDown, .ok feed, .ok start, .ok finish, .ok scale =>
    .ok { penUp, penDown, feedRate := feed, start, finish, scalePercent := scale
          feed_pos := feed.property
          scale_finite := scale.property.1
          scale_pos := scale.property.2 }
  | penUp, penDown, feed, start, finish, scale =>
    .error (rejected penUp ++ rejected penDown ++ rejected feed ++ rejected start
      ++ rejected finish ++ rejected scale)

def ofEntries (entries : List (Value × Value)) : Except (List Rejection) Settings :=
  standard.revise (.ofEntries entries)

end Settings

/-! ## 5. Updates -/

/-- What an update puts into force: other settings in place of the present ones, or a patch on top of
them. -/
inductive Update where
  | replace (settings : Settings)
  | patch (p : Patch)

def Settings.update (s : Settings) : Update → Except (List Rejection) Settings
  | .replace settings => .ok settings
  | .patch p => s.revise p

end PenPlotter
