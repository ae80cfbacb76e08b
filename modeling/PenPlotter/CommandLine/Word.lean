import PenPlotter.CommandLine.Parameter
import PenPlotter.Text.Digit
import PenPlotter.Text.Quoted

/-!
# Words of a command line

Each word names a parameter, perhaps with its value in the same word, or is plain.  A long name may
be cut short as long as only one parameter fits.
-/

set_option autoImplicit false

namespace PenPlotter.CommandLine

inductive UsageError where
  /-- No error: the command line asks how it is used. -/
  | helpWanted
  | ambiguous (word : String) (names : List String)
  | valueExpected (p : Parameter)
  | valueIgnored (p : Parameter) (value : String)
  | notInteger (p : Parameter) (value : String)
  | notNumber (p : Parameter) (value : String)
  | notAmong (p : Parameter) (value : String) (choices : List String)
  | notAllowedWith (p other : Parameter)
  | noneOf (ps : List Parameter)
  | unrecognized (words : List String)
deriving DecidableEq, Repr

namespace UsageError

def aboutParameter (p : Parameter) (s : String) : String := "argument " ++ p.label ++ ": " ++ s

def message : UsageError → String
  | .helpWanted => ""
  | .ambiguous word names =>
    "ambiguous option: " ++ word ++ " could match " ++ ", ".intercalate names
  | .valueExpected p => aboutParameter p "expected one argument"
  | .valueIgnored p value =>
    aboutParameter p ("ignored explicit argument " ++ Text.quoted value)
  | .notInteger p value => aboutParameter p ("invalid int value: " ++ Text.quoted value)
  | .notNumber p value => aboutParameter p ("invalid float value: " ++ Text.quoted value)
  | .notAmong p value choices =>
    aboutParameter p ("invalid choice: " ++ Text.quoted value ++ " (choose from "
      ++ ", ".intercalate (choices.map Text.quoted) ++ ")")
  | .notAllowedWith p other => aboutParameter p ("not allowed with argument " ++ other.label)
  | .noneOf ps =>
    "one of the arguments " ++ " ".intercalate (ps.map Parameter.label) ++ " is required"
  | .unrecognized words => "unrecognized arguments: " ++ " ".intercalate words

def report (e : UsageError) : String := "compile_program: error: " ++ e.message

end UsageError

inductive Word where
  | plain (text : String)
  /-- Two dashes: all words after them are plain. -/
  | separator
  /-- A parameter by one of its names, and the value that stands in the same word. -/
  | parameter (p : Parameter) (name : String) (value : Option String)
  | unknown (text : String)
deriving DecidableEq, Repr

namespace Word

def splitAtEquals (word : List Char) : List Char × Option (List Char) :=
  match word.dropWhile (· ≠ '=') with
  | [] => (word, none)
  | _ :: value => (word.takeWhile (· ≠ '='), some value)

def isNegativeNumber (word : List Char) : Bool :=
  match word with
  | '-' :: s =>
    let s := if s.getLast? = some '\n' then s.dropLast else s
    match s.dropWhile Text.isDigit with
    | [] => !s.isEmpty
    | '.' :: fraction => !fraction.isEmpty && fraction.all Text.isDigit
    | _ => false
  | _ => false

/-- The parameters that a word can stand for which has none of the names: a long name cut short,
perhaps with a value after an equals sign, or a short name with its value right after it. -/
def candidates (word : List Char) : List (Parameter × String × Option String) :=
  match word with
  | '-' :: '-' :: _ =>
    let (start, value) := splitAtEquals word
    (Parameter.table.filter fun e => start.isPrefixOf e.1.toList).map
      fun e => (e.2, e.1, value.map String.ofList)
  | '-' :: c :: value =>
    Parameter.table.filterMap fun e =>
      if e.1 = String.ofList ['-', c] then some (e.2, e.1, some (String.ofList value))
      else if word.isPrefixOf e.1.toList then some (e.2, e.1, none)
      else none
  | _ => []

def ofUnnamed (text : String) : Except UsageError Word :=
  let word := text.toList
  match candidates word with
  | [(p, name, value)] => .ok (.parameter p name value)
  | [] => .ok (if isNegativeNumber word || word.contains ' ' then .plain text else .unknown text)
  | several => .error (.ambiguous text (several.map (·.2.1)))

def ofText (text : String) : Except UsageError Word :=
  let word := text.toList
  if word.head? ≠ some '-' then .ok (.plain text)
  else
    match Parameter.named? text with
    | some p => .ok (.parameter p text none)
    | none =>
      if word.length = 1 then .ok (.plain text)
      else
        match splitAtEquals word with
        | (_, none) => ofUnnamed text
        | (name, some value) =>
          let name := String.ofList name
          match Parameter.named? name with
          | some p => .ok (.parameter p name (some (String.ofList value)))
          | none => ofUnnamed text

def ofTexts : List String → Except UsageError (List Word)
  | [] => .ok []
  | text :: rest =>
    if text = "--" then .ok (.separator :: rest.map .plain)
    else do return (← ofText text) :: (← ofTexts rest)

end Word

end PenPlotter.CommandLine
