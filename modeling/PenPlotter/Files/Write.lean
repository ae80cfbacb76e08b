import PenPlotter.Files.Store

/-!
# Writing at once

A file is first written beside its place and then moved there, so nobody who looks at it sees it
half written.  Whatever happens, nothing is left beside it.
-/

set_option autoImplicit false

namespace PenPlotter.Files

def unlessDirectory (s : Store) (p : Path) (e : Error) : Outcome Unit :=
  match s.isDirectory p with
  | .ok true => (s, .ok ())
  | .ok false => (s, .error e)
  | .error e => (s, .error e)

/-- Makes a directory; that it is there already is no error.  With `depth` it makes up to so many
missing directories above it. -/
def makeDirectories (p : Path) : (depth : Nat) → Store → Outcome Unit
  | depth, s =>
    match s.makeDirectory p with
    | .ok s => (s, .ok ())
    | .error (.obstacle .missing path) =>
      match depth with
      | 0 => (s, .error (.obstacle .missing path))
      | depth + 1 =>
        if p.parent = p then (s, .error (.obstacle .missing path))
        else
          match makeDirectories p.parent depth s with
          | (s, .error e) => (s, .error e)
          | (s, .ok ()) =>
            match s.makeDirectory p with
            | .ok s => (s, .ok ())
            | .error (.obstacle .missing path) => (s, .error (.obstacle .missing path))
            | .error e => unlessDirectory s p e
    | .error .nullCharacter => (s, .error .nullCharacter)
    | .error e => unlessDirectory s p e

def ensureDirectory (s : Store) (p : Path) : Outcome Unit :=
  makeDirectories p p.parts.length s

inductive WriteError where
  | directory (error : Error)
  | suffix (error : Path.SuffixError)
  | failed (path : String) (error : Error)
  /-- Not even what was written beside it could be removed. -/
  | cleanup (error : Error)
deriving DecidableEq, Repr

def WriteError.message : WriteError → String
  | .directory e | .cleanup e => e.message
  | .suffix e => e.message
  | .failed path e => "Failed to write " ++ path ++ " atomically: " ++ e.message

def writeAndMove (s : Store) (beside p : Path) (bytes : List UInt8) : Outcome Unit :=
  match s.writeBytes beside bytes with
  | (s, .error e) => (s, .error e)
  | (s, .ok ()) =>
    match s.move beside p with
    | .error e => (s, .error e)
    | .ok s => (s, .ok ())

def cleanUp (s : Store) (beside : Path) : Outcome Unit :=
  match s.exists? beside with
  | .error e => (s, .error e)
  | .ok false => (s, .ok ())
  | .ok true =>
    match s.remove beside with
    | .ok s => (s, .ok ())
    | .error e => (s, .error e)

def writeAtOnce (s : Store) (p : Path) (bytes : List UInt8) (suffix : String) :
    Store × Except WriteError Unit :=
  match ensureDirectory s p.parent with
  | (s, .error e) => (s, .error (.directory e))
  | (s, .ok ()) =>
    match p.withSuffix (p.suffix ++ suffix) with
    | .error e => (s, .error (.suffix e))
    | .ok beside =>
      match writeAndMove s beside p bytes with
      | (s, .ok ()) => (s, .ok ())
      | (s, .error .nullCharacter) => (s, .error (.cleanup .nullCharacter))
      | (s, .error e) =>
        match cleanUp s beside with
        | (s, .ok ()) => (s, .error (.failed p.text e))
        | (s, .error e) => (s, .error (.cleanup e))

def besideSuffix : String := ".tmp"

end PenPlotter.Files
