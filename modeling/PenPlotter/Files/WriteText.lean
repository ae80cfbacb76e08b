import PenPlotter.Files.Write
import PenPlotter.Text.Encoding

/-!
# Writing texts
-/

set_option autoImplicit false

namespace PenPlotter.Files

inductive WriteTextError where
  | unknownEncoding (name : String)
  /-- The text has a character that cannot be written. -/
  | notEncodable
  | write (error : WriteError)
deriving DecidableEq, Repr

def WriteTextError.message : WriteTextError → String
  | .unknownEncoding name => "unknown encoding: " ++ name
  | .notEncodable => "text cannot be encoded"
  | .write e => e.message

def writeText (s : Store) (p : Path) (text encoding : String) :
    Store × Except WriteTextError Unit :=
  match Text.Encoding.named? encoding with
  | none => (s, .error (.unknownEncoding encoding))
  | some e =>
    match e.encode? text with
    | none => (s, .error .notEncodable)
    | some bytes =>
      let (s, r) := writeAtOnce s p bytes besideSuffix
      (s, r.mapError .write)

end PenPlotter.Files
