import PenPlotter.CommandLine.Word
import PenPlotter.Decimal.Numeral
import PenPlotter.Drawing.Pattern
import PenPlotter.Text.Upper

/-!
# Requests

What a command line asks for.
-/

set_option autoImplicit false

namespace PenPlotter.CommandLine

inductive Given (α : Type) where
  | absent
  /-- The value was two dashes, which count as no value at all. -/
  | blank
  | value (a : α)
deriving DecidableEq, Repr

namespace Given

def isGiven {α : Type} : Given α → Bool
  | .absent => false
  | _ => true

def value? {α : Type} : Given α → Option α
  | .value a => some a
  | _ => none

def toValue {α : Type} (f : α → Value) : Given α → Value
  | .absent => .null
  | .blank => .list []
  | .value a => f a

end Given

structure Request where
  segments : Given String
  pattern : Given String
  config : Given String
  profile : Given String
  penUp : Given String
  penDown : Given String
  feedRate : Given Int
  start : Given String
  finish : Given String
  scale : Given Double
  output : Given String
  /-- The program goes to the standard output and not into a file. -/
  toOutput : Bool
  check : Bool
  logLevel : Given String
  logFile : Given String
deriving DecidableEq

namespace Request

def empty : Request :=
  ⟨.absent, .absent, .absent, .absent, .absent, .absent, .absent, .absent, .absent, .absent,
    .absent, false, false, .absent, .absent⟩

def levels : List String := ["DEBUG", "INFO", "WARNING", "ERROR", "CRITICAL"]

/-! ## 1. Values -/

def given {α : Type} (text : String) (read : String → Except UsageError α) :
    Except UsageError (Given α) :=
  if text = "--" then .ok .blank else (read text).map .value

def integer (p : Parameter) (text : String) : Except UsageError Int :=
  (Decimal.integer? 10 text).mapError fun _ => .notInteger p text

def number (p : Parameter) (text : String) : Except UsageError Double :=
  match Decimal.decimal? text with
  | some x => .ok x
  | none => .error (.notNumber p text)

def among (p : Parameter) (choices : List String) (text : String) : Except UsageError String :=
  if choices.contains text then .ok text else .error (.notAmong p text choices)

/-- Sets a parameter that takes a value.  Of segments and pattern only one can be set. -/
def put (r : Request) (p : Parameter) (text : String) : Except UsageError Request := do
  let plain := given text .ok
  match p with
  | .segments =>
    if r.pattern.isGiven then throw (.notAllowedWith .segments .pattern)
    return { r with segments := ← plain }
  | .pattern =>
    let pattern ← given text (among .pattern Pattern.names)
    if r.segments.isGiven then throw (.notAllowedWith .pattern .segments)
    return { r with pattern }
  | .config => return { r with config := ← plain }
  | .profile => return { r with profile := ← plain }
  | .penUp => return { r with penUp := ← plain }
  | .penDown => return { r with penDown := ← plain }
  | .feedRate => return { r with feedRate := ← given text (integer .feedRate) }
  | .start => return { r with start := ← plain }
  | .finish => return { r with finish := ← plain }
  | .scale => return { r with scale := ← given text (number .scale) }
  | .output => return { r with output := ← plain }
  | .logLevel =>
    return { r with logLevel := ← given text fun s => among .logLevel levels (Text.upper s) }
  | .logFile => return { r with logFile := ← plain }
  | .help | .stdout | .check => return r

def set (r : Request) (p : Parameter) : Except UsageError Request :=
  match p with
  | .help => .error .helpWanted
  | .stdout => .ok { r with toOutput := true }
  | .check => .ok { r with check := true }
  | _ => .ok r

/-! ## 2. Words -/

def valueFollows : List Word → Bool
  | .plain _ :: _ => true
  | _ => false

/-- Checks letters that stand in one word after a short name without a value: each names a further
parameter, and the first that takes a value has the rest of the word for it, or the next word. -/
def checkLetters (p : Parameter) (following : List Word) : List Char → Except UsageError Unit
  | [] => .error (.valueIgnored p "")
  | c :: rest =>
    match Parameter.named? (String.ofList ['-', c]) with
    | none => .error (.valueIgnored p (String.ofList (c :: rest)))
    | some q =>
      if q.takesValue then
        if rest.isEmpty && !valueFollows following then .error (.valueExpected q) else .ok ()
      else if rest.isEmpty then .ok ()
      else checkLetters q following rest

def read (r : Request) : List Word → Except UsageError (Request × List String)
  | [] => .ok (r, [])
  | .plain text :: rest => keep text rest
  | .unknown text :: rest => keep text rest
  | .separator :: rest => keep "--" rest
  | .parameter p name (some value) :: rest => do
    if p.takesValue then read (← r.put p value) rest
    else
      if name.toList.take 2 = ['-', '-'] then throw (.valueIgnored p value)
      checkLetters p rest value.toList
      read (← r.set p) rest
  | .parameter p _ none :: rest =>
    if p.takesValue then
      match rest with
      | .plain value :: rest => do read (← r.put p value) rest
      | _ => .error (.valueExpected p)
    else do read (← r.set p) rest
where
  keep (text : String) (rest : List Word) : Except UsageError (Request × List String) := do
    let (r, left) ← r.read rest
    return (r, text :: left)

def ofArguments (arguments : List String) : Except UsageError Request := do
  let (r, left) ← empty.read (← Word.ofTexts arguments)
  if !r.segments.isGiven && !r.pattern.isGiven then throw (.noneOf [.segments, .pattern])
  if left.isEmpty then return r else throw (.unrecognized left)

end Request

end PenPlotter.CommandLine
