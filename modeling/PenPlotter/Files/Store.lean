import PenPlotter.Files.Path
import PenPlotter.Number
import PenPlotter.Text.Blank

/-!
# File stores

The directories, files and symbolic links below a root.  A file is a number under which its bytes are
kept, and it may have several names.  A path is walked from the root, or from the working directory,
name by name: a link on the way is followed, and double dots lead to the directory above the one that
was reached.  Whatever nothing is in the way of may still be refused by the system, for want of a
permission or of room.
-/

set_option autoImplicit false

namespace PenPlotter.Files

/-! ## 1. Errors -/

inductive Refusal where
  | notPermitted
  | inputOutput
  | outOfMemory
  | denied
  | busy
  | invalid
  | tooManyOpen
  | textBusy
  | tooLarge
  | noSpace
  | readOnly
  | overQuota
deriving DecidableEq, Repr

def Refusal.text : Refusal → String
  | .notPermitted => "[Errno 1] Operation not permitted"
  | .inputOutput => "[Errno 5] Input/output error"
  | .outOfMemory => "[Errno 12] Cannot allocate memory"
  | .denied => "[Errno 13] Permission denied"
  | .busy => "[Errno 16] Device or resource busy"
  | .invalid => "[Errno 22] Invalid argument"
  | .tooManyOpen => "[Errno 24] Too many open files"
  | .textBusy => "[Errno 26] Text file busy"
  | .tooLarge => "[Errno 27] File too large"
  | .noSpace => "[Errno 28] No space left on device"
  | .readOnly => "[Errno 30] Read-only file system"
  | .overQuota => "[Errno 122] Disk quota exceeded"

inductive Obstacle where
  | missing
  | noDevice
  | exists
  | notDirectory
  | isDirectory
  | nameTooLong
  | notEmpty
  | tooManyLinks
  | refused (reason : Refusal)
deriving DecidableEq, Repr

def Obstacle.text : Obstacle → String
  | .missing => "[Errno 2] No such file or directory"
  | .noDevice => "[Errno 6] No such device or address"
  | .exists => "[Errno 17] File exists"
  | .notDirectory => "[Errno 20] Not a directory"
  | .isDirectory => "[Errno 21] Is a directory"
  | .nameTooLong => "[Errno 36] File name too long"
  | .notEmpty => "[Errno 39] Directory not empty"
  | .tooManyLinks => "[Errno 40] Too many levels of symbolic links"
  | .refused reason => reason.text

inductive Error where
  | obstacle (obstacle : Obstacle) (path : String)
  | moving (obstacle : Obstacle) (source target : String)
  /-- What is written to an open file is not stored. -/
  | stream (reason : Refusal)
  | nullCharacter
deriving DecidableEq, Repr

def Error.message : Error → String
  | .obstacle o path => o.text ++ ": " ++ Text.quoted path
  | .moving o source target => o.text ++ ": " ++ Text.quoted source ++ " -> " ++ Text.quoted target
  | .stream reason => reason.text
  | .nullCharacter => "embedded null byte"

def Error.saysAbsent : Error → Bool
  | .obstacle .missing _ | .obstacle .notDirectory _ | .obstacle .tooManyLinks _ => true
  | .nullCharacter => true
  | _ => false

/-! ## 2. Stores -/

abbrev Place := List String

inductive Entry where
  | directory
  | file (number : Nat)
  /-- A symbolic link: the names that are walked in its stead, from the root or from its own
  directory. -/
  | link (absolute : Bool) (names : List String)
  | socket
deriving DecidableEq, Repr

def Entry.number? : Entry → Option Nat
  | .file number => some number
  | _ => none

inductive Access where
  | pass
  | read
  | write
  /-- Making sure that the bytes of a file are stored. -/
  | sync
  | enter
  | leave
deriving DecidableEq, Repr

structure Store where
  here : Place
  entries : List (Place × Entry)
  /-- The bytes of the files by their numbers. -/
  contents : List (Nat × List UInt8)
  refuses : Access → Place → Entry → Option Refusal
  /-- How many bytes a file may have, and what is said about more. -/
  capacity : Nat → Option (Nat × Refusal)

abbrev Outcome (α : Type) := Store × Except Error α

namespace Store

/-- A store that refuses nothing, with directories and files and without links. -/
def plain (here : Place) (directories : List Place) (files : List (Place × List UInt8)) : Store where
  here
  entries := directories.map (·, .directory)
    ++ files.mapIdx fun number file => (file.1, .file number)
  contents := files.mapIdx fun number file => (number, file.2)
  refuses _ _ _ := none
  capacity _ := none

def empty : Store := plain [] [] []

def ofTexts (texts : List (String × String)) : Store :=
  plain [] [] (texts.map fun (name, text) => ([name], text.toUTF8.toList))

instance : Inhabited Store := ⟨empty⟩

def entryAt? (s : Store) (place : Place) : Option Entry :=
  if place.isEmpty then some .directory
  else (s.entries.find? (·.1 = place)).map (·.2)

def put (s : Store) (place : Place) (e : Entry) : Store :=
  { s with entries := (place, e) :: s.entries.filter (·.1 ≠ place) }

def erase (s : Store) (place : Place) : Store :=
  { s with entries := s.entries.filter (·.1 ≠ place) }

def content (s : Store) (number : Nat) : List UInt8 :=
  ((s.contents.find? (·.1 = number)).map (·.2)).getD []

def setContent (s : Store) (number : Nat) (bytes : List UInt8) : Store :=
  { s with contents := (number, bytes) :: s.contents.filter (·.1 ≠ number) }

/-- A number that no file has, not even one that has lost its names. -/
def freshNumber (s : Store) : Nat :=
  (s.entries.filterMap (·.2.number?) ++ s.contents.map (·.1)).foldl max 0 + 1

/-! ## 3. Walking -/

def nameLimit : Nat := 255

def pathLimit : Nat := 4096

def linkLimit : Nat := 40

def allow (s : Store) (a : Access) (place : Place) (e : Entry) : Except Obstacle Unit :=
  match s.refuses a place e with
  | some reason => .error (.refused reason)
  | none => .ok ()

/-- Walks names from a directory up to the next link, where `jump` takes over with the place of the
link, the link, the directory from where to go on, and the names to walk.  A link at the end is
followed only if `follow` says so; nothing need be there. -/
def walkWith (s : Store) (follow : Bool)
    (jump : Place → Entry → Place → List String → Except Obstacle Place) :
    Place → List String → Except Obstacle Place
  | d, [] => .ok d
  | d, name :: rest =>
    match s.entryAt? d with
    | none => .error .missing
    | some .directory => do
      s.allow .pass d .directory
      if nameLimit < name.utf8ByteSize then throw .nameTooLong
      else if name = "." then s.walkWith follow jump d rest
      else if name = ".." then s.walkWith follow jump d.dropLast rest
      else
        let next := d ++ [name]
        match s.entryAt? next with
        | some (.link absolute names) =>
          if rest.isEmpty && !follow then return next
          else jump next (.link absolute names) (if absolute then [] else d) (names ++ rest)
        | _ => s.walkWith follow jump next rest
    | some _ => .error .notDirectory

def walk (s : Store) (follow : Bool) : (links : Nat) → Place → List String → Except Obstacle Place
  | 0 => s.walkWith follow fun _ _ _ _ => .error .tooManyLinks
  | links + 1 => s.walkWith follow fun place link d names => do
    s.allow .pass place link
    s.walk follow links d names

def start (s : Store) (p : Path) : Place := if p.root = "" then s.here else []

def resolve (s : Store) (follow : Bool) (p : Path) : Except Error Place :=
  if p.holdsNull then .error .nullCharacter
  else if pathLimit ≤ p.text.utf8ByteSize then .error (.obstacle .nameTooLong p.text)
  else (s.walk follow linkLimit (s.start p) p.parts).mapError (.obstacle · p.text)

def place (s : Store) (p : Path) : Except Error Place := s.resolve true p

/-- Where a path itself stands, which may be a link. -/
def spot (s : Store) (p : Path) : Except Error Place := s.resolve false p

def lookup (s : Store) (p : Path) : Except Error Entry := do
  match s.entryAt? (← s.place p) with
  | some e => return e
  | none => throw (.obstacle .missing p.text)

def exists? (s : Store) (p : Path) : Except Error Bool :=
  match s.lookup p with
  | .ok _ => .ok true
  | .error e => if e.saysAbsent then .ok false else .error e

def isDirectory (s : Store) (p : Path) : Except Error Bool :=
  match s.lookup p with
  | .ok e => .ok (e = .directory)
  | .error e => if e.saysAbsent then .ok false else .error e

/-! ## 4. Operations -/

def permit (s : Store) (a : Access) (place : Place) (e : Entry) (p : Path) : Except Error Unit :=
  (s.allow a place e).mapError (.obstacle · p.text)

def readBytes (s : Store) (p : Path) : Except Error (List UInt8) := do
  let place ← s.place p
  match s.entryAt? place with
  | none => throw (.obstacle .missing p.text)
  | some e =>
    s.permit .read place e p
    match e with
    | .file number => return s.content number
    | .directory => throw (.obstacle .isDirectory p.text)
    | .socket => throw (.obstacle .noDevice p.text)
    | .link _ _ => throw (.obstacle .tooManyLinks p.text)

def openForWriting (s : Store) (p : Path) : Except Error (Store × Place × Nat) := do
  let place ← s.place p
  match s.entryAt? place with
  | none =>
    let number := s.freshNumber
    s.permit .enter place (.file number) p
    return ((s.put place (.file number)).setContent number [], place, number)
  | some (.file number) =>
    s.permit .write place (.file number) p
    return (s, place, number)
  | some .directory => throw (.obstacle .isDirectory p.text)
  | some .socket =>
    s.permit .write place .socket p
    throw (.obstacle .noDevice p.text)
  | some (.link _ _) => throw (.obstacle .tooManyLinks p.text)

/-- Writes bytes to the end of a file.  Gives those that it could not take. -/
def append (s : Store) (number : Nat) (bytes : List UInt8) :
    Store × Option (List UInt8 × Refusal) :=
  let old := s.content number
  match s.capacity number with
  | none => (s.setContent number (old ++ bytes), none)
  | some (limit, reason) =>
    if bytes.isEmpty || old.length + bytes.length ≤ limit then
      (s.setContent number (old ++ bytes), none)
    else
      let room := limit - old.length
      (s.setContent number (old ++ bytes.take room), some (bytes.drop room, reason))

/-- Gives a file other bytes and makes sure that they are stored.  A missing file is made, and a file
that cannot take all bytes keeps the first of them. -/
def writeBytes (s : Store) (p : Path) (bytes : List UInt8) : Outcome Unit :=
  match s.openForWriting p with
  | .error e => (s, .error e)
  | .ok (s, place, number) =>
    match (s.setContent number []).append number bytes with
    | (s, some (_, reason)) => (s, .error (.stream reason))
    | (s, none) =>
      match s.refuses .sync place (.file number) with
      | some reason => (s, .error (.stream reason))
      | none => (s, .ok ())

def makeDirectory (s : Store) (p : Path) : Except Error Store := do
  let place ← s.spot p
  if p.endsInName && (s.entryAt? place).isNone then
    s.permit .enter place .directory p
    return s.put place .directory
  else throw (.obstacle .exists p.text)

/-- Removes a name.  The file stays under its other names, and a link leaves what it leads to. -/
def remove (s : Store) (p : Path) : Except Error Store := do
  let place ← s.spot p
  if !p.endsInName then throw (.obstacle .isDirectory p.text)
  else
    match s.entryAt? place with
    | none => throw (.obstacle .missing p.text)
    | some e =>
      s.permit .leave place e p
      if e = .directory then throw (.obstacle .isDirectory p.text) else return s.erase place

def sameFile (e : Entry) (e' : Option Entry) : Bool := e.number?.isSome && e' = some e

def allowAt (s : Store) (place : Place) (e : Entry) : Except Obstacle Unit :=
  match s.entryAt? place with
  | none => s.allow .enter place e
  | some old => do
    s.allow .leave place old
    match old, e with
    | .directory, .directory =>
      if s.entries.any fun below => place.isPrefixOf below.1 && below.1 ≠ place then throw .notEmpty
    | .directory, _ => throw .isDirectory
    | _, .directory => throw .notDirectory
    | _, _ => pure ()

def relocate (s : Store) (origin place : Place) (e : Entry) : Store :=
  match e with
  | .directory =>
    let along (q : Place) := if origin.isPrefixOf q then place ++ q.drop origin.length else q
    { s with
      here := along s.here
      entries := (s.erase place).entries.map fun below => (along below.1, below.2) }
  | e => (s.erase origin).put place e

def moveEntry (s : Store) (origin place : Place) : Except Obstacle Store :=
  match s.entryAt? origin with
  | none => .error .missing
  | some e =>
    if origin = place || sameFile e (s.entryAt? place) then .ok s
    else if e = .directory && origin.isPrefixOf place then .error (.refused .invalid)
    else do
      s.allow .leave origin e
      s.allowAt place e
      return s.relocate origin place e

/-- Gives what a path stands for another path, in place of what stands there.  Nothing happens if both
are names of one file already. -/
def move (s : Store) (source target : Path) : Except Error Store := do
  let moving (e : Error) : Error :=
    match e with
    | .obstacle o _ => .moving o source.text target.text
    | e => e
  let origin ← (s.spot source).mapError moving
  let place ← (s.spot target).mapError moving
  if !(source.endsInName && target.endsInName) then
    throw (.moving (.refused .busy) source.text target.text)
  else (s.moveEntry origin place).mapError (.moving · source.text target.text)

/-! ## 5. Texts -/

inductive TextError where
  | file (error : Error)
  | notText
deriving DecidableEq, Repr

def readText (s : Store) (p : Path) : Except TextError String := do
  let bytes ← (s.readBytes p).mapError .file
  match String.fromUTF8? ⟨bytes.toArray⟩ with
  | some text => return String.ofList (Text.unifyNewlines text.toList)
  | none => throw .notText

end Store

end PenPlotter.Files
