import PenPlotter.Settings.Patch
import PenPlotter.Files.Document

/-!
# Profiles

A settings file is a mapping of settings, or has several of them as named profiles.  Without a name
the file's default profile is taken, and without one of those the first.
-/

set_option autoImplicit false

namespace PenPlotter

open Files

inductive SettingsSource where
  | shipped
  | file (path : Path)

namespace SettingsSource

/-- The profiles that come with the library: a pen on the spindle's switch, and one on the vertical
axis. -/
def shippedText : String :=
  "\n".intercalate [
    "default_profile: spindle",
    "profiles:",
    "  spindle:",
    "    pen_up: \"M5\"",
    "    pen_down: \"M3\"",
    "    feed_rate: 3000",
    "    start: \"G28\"",
    "    end: \"M2\"",
    "    scale_percent: 100",
    "  z_lift:",
    "    pen_up: \"G0 Z5\"",
    "    pen_down: \"G0 Z0\"",
    "    feed_rate: 3000",
    "    start: \"G28\"",
    "    end: \"M2\"",
    "    scale_percent: 100"]

def shown : SettingsSource → String
  | .shipped => "<pkg>/configs/plotter.yaml"
  | .file path => path.text

end SettingsSource

/-! ## 1. Errors -/

inductive ProfileError where
  | missing (source : String)
  | document (error : DocumentError)
  | empty (source : String)
  | notMapping (source typeName : String)
  /-- What is listed as profiles is no mapping of any. -/
  | notProfiles (source : String)
  | unknown (name source : String) (available : List String)
  /-- A profile is unknown, and the others cannot be listed since not all have texts as names. -/
  | namesNotText
  | nameNotKey
  /-- The name of a profile has no text to stand in a message. -/
  | nameNotShown (reason : NoText)
  | profileNotMapping (name source : String)
  | noProfiles (source name : String)
  | unlistable
  | rejected (rejections : List Rejection)

def ProfileError.message : ProfileError → String
  | .missing source => "Configuration file not found: " ++ source
  | .document e => e.message
  | .empty source => "Empty configuration file: " ++ source
  | .notMapping source typeName =>
    "Configuration file " ++ source ++ " must contain a mapping, got " ++ typeName
  | .notProfiles source => "'profiles' in " ++ source ++ " must be a non-empty mapping"
  | .unknown name source available =>
    "Unknown profile '" ++ name ++ "' in " ++ source ++ ". Available: "
      ++ ", ".intercalate available
  | .namesNotText => "profile names must be texts"
  | .nameNotKey => "a collection names no profile"
  | .nameNotShown reason => reason.message
  | .profileNotMapping name source => "Profile '" ++ name ++ "' in " ++ source ++ " must be a mapping"
  | .noProfiles source name => source ++ " defines no profiles (requested '" ++ name ++ "')"
  | .unlistable => "'profiles' must be a mapping of name -> settings"
  | .rejected rejections => rejectionMessage rejections

/-! ## 2. Reading a file -/

def SettingsSource.value (files : Store) (p : Runtime) (source : SettingsSource) :
    Except ProfileError Value :=
  match source with
  | .shipped => (valueOfText p source.shown shippedText).mapError .document
  | .file path =>
    match files.exists? path with
    | .error e => .error (.document (.text (.file e)))
    | .ok false => .error (.missing path.text)
    | .ok true => (files.readValue p path).mapError .document

def SettingsSource.entries (files : Store) (p : Runtime) (source : SettingsSource) :
    Except ProfileError (List (Value × Value)) := do
  let v ← source.value files p
  match v.entries? with
  | some entries => return entries
  | none =>
    match v with
    | .null => throw (.empty source.shown)
    | v => throw (.notMapping source.shown v.typeName)

/-! ## 3. Choosing a profile -/

structure Choice where
  name : Option Value
  entries : List (Value × Value)

/-- The name of the profile to take: the given one unless it is empty, else the default, else the
first. -/
def profileName (given standard : Option Value) (first : Value) : Value :=
  orElse given (orElse standard first)
where
  /-- A value, or another one if there is none or it counts as none. -/
  orElse (v : Option Value) (other : Value) : Value :=
    match v with
    | some v => if v.isVoid then other else v
    | none => other

def textNames (names : List Value) : Option (List String) :=
  names.mapM fun
    | .text s => some s
    | _ => none

def ProfileError.naming (room : Nat) (name : Value) (e : String → ProfileError) : ProfileError :=
  match name.display room with
  | .ok text => e text
  | .error reason => .nameNotShown reason

def unknownName (source : String) (profiles : List (Value × Value)) (name : String) : ProfileError :=
  match textNames (profiles.map (·.1)) with
  | some available => .unknown name source available
  | none => .namesNotText

def chooseProfile (room : Nat) (source : String) (profiles : List (Value × Value)) (name : Value) :
    Except ProfileError Choice :=
  if !name.isKey then .error .nameNotKey
  else
    match Value.find? profiles name with
    | none => .error (.naming room name (unknownName source profiles))
    | some v =>
      if v.isVoid then .ok ⟨some name, []⟩
      else
        match v.entries? with
        | some entries => .ok ⟨some name, entries⟩
        | none => .error (.naming room name (.profileNotMapping · source))

def choose (room : Nat) (source : String) (entries : List (Value × Value)) (given : Option Value) :
    Except ProfileError Choice :=
  match Value.find? entries (.text "profiles") with
  | some profiles =>
    match profiles.entries? with
    | some (first :: rest) =>
      let name := profileName given (Value.find? entries (.text "default_profile")) first.1
      chooseProfile room source (first :: rest) name
    | _ => .error (.notProfiles source)
  | none =>
    match given with
    | some name => .error (.naming room name (.noProfiles source))
    | none => .ok ⟨none, entries⟩

def readSettings (files : Store) (p : Runtime) (source : SettingsSource) (given : Option Value) :
    Except ProfileError Settings := do
  let choice ← choose p.room source.shown (← source.entries files p) given
  (Settings.ofEntries choice.entries).mapError .rejected

def profileNames (files : Store) (p : Runtime) (source : SettingsSource) :
    Except ProfileError (List Value) := do
  match Value.find? (← source.entries files p) (.text "profiles") with
  | none => return []
  | some profiles =>
    if profiles.isVoid then return []
    else
      match profiles.entries? with
      | some entries => return entries.map (·.1)
      | none => throw .unlistable

end PenPlotter
