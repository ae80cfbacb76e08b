import PenPlotter.Text.Quoted

/-!
# Paths

A path is a row of names, which leads on from the working directory unless it starts at the root.
Empty names and single dots are left out when a path is read; double dots stay, since where they
lead depends on the files.
-/

set_option autoImplicit false

namespace PenPlotter.Files

structure Path where
  /-- The slashes that it starts with: none, one, or two. -/
  root : String
  parts : List String
deriving DecidableEq, Repr

namespace Path

instance : Inhabited Path := ⟨"", []⟩

/-- Reads a path.  Three or more slashes at the start count as one. -/
def ofText (s : String) : Path :=
  let slashes := (s.toList.takeWhile (· = '/')).length
  let root := if slashes = 0 then "" else if slashes = 2 then "//" else "/"
  let names := (s.toList.splitOn '/').map String.ofList
  ⟨root, names.filter fun name => name ≠ "" && name ≠ "."⟩

def text (p : Path) : String :=
  if p.parts.isEmpty && p.root.isEmpty then "." else p.root ++ "/".intercalate p.parts

def parent (p : Path) : Path := { p with parts := p.parts.dropLast }

def name (p : Path) : String := p.parts.getLast?.getD ""

def endsInName (p : Path) : Bool := !(["", ".", ".."].contains p.name)

def holdsNull (p : Path) : Bool := p.parts.any fun name => name.toList.contains '\x00'

/-- What follows the last dot of a name, with the dot; nothing if the name starts or ends with
it. -/
def suffixOf (name : List Char) : List Char :=
  let after := (name.reverse.takeWhile (· ≠ '.')).reverse
  if after.isEmpty || name.length ≤ after.length + 1 then [] else '.' :: after

def suffix (p : Path) : String := String.ofList (suffixOf p.name.toList)

inductive SuffixError where
  | invalid (suffix : String)
  | noName (path : String)
deriving DecidableEq, Repr

def SuffixError.message : SuffixError → String
  | .invalid suffix => "Invalid suffix " ++ Text.quoted suffix
  | .noName path => "PosixPath(" ++ Text.quoted path ++ ") has an empty name"

def withSuffix (p : Path) (suffix : String) : Except SuffixError Path :=
  let s := suffix.toList
  if s.contains '/' || (s ≠ [] && s.head? ≠ some '.') || s = ['.'] then .error (.invalid suffix)
  else if p.name.isEmpty then .error (.noName p.text)
  else
    let name := p.name.toList
    let stem := name.take (name.length - (suffixOf name).length)
    .ok { p with parts := p.parts.dropLast ++ [String.ofList (stem ++ s)] }

end Path

end PenPlotter.Files
