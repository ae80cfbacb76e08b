import PenPlotter.Files.Store
import PenPlotter.Yaml.Read

/-!
# Documents

Files that hold a value.
-/

set_option autoImplicit false

namespace PenPlotter.Files

inductive DocumentError where
  | missing (path : String)
  | text (error : Store.TextError)
  | malformed (path : String)
  | value (error : Yaml.Error)

def DocumentError.message : DocumentError → String
  | .missing path => "YAML file not found: " ++ path
  | .text (.file e) => e.message
  | .text .notText => "invalid text"
  | .malformed path => "Failed to parse YAML file " ++ path
  | .value e => e.message

def valueOfText (p : Runtime) (path text : String) : Except DocumentError Value :=
  match Yaml.read p text with
  | .ok v => .ok v
  | .error .malformed => .error (.malformed path)
  | .error e => .error (.value e)

def Store.readValue (s : Store) (p : Runtime) (path : Path) : Except DocumentError Value := do
  if ← (s.exists? path).mapError (.text ∘ .file) then
    valueOfText p path.text (← (s.readText path).mapError .text)
  else throw (.missing path.text)

end PenPlotter.Files
