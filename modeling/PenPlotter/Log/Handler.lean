import PenPlotter.Files.Write
import PenPlotter.Log.Record

/-!
# Handlers

A handler lays out records and writes them to the console or to the end of a file.  A file may be
changed for a new one when it has grown to a size, or at set times; then the former files are kept
as numbered backups.  What a file cannot take stays with its handler and is tried again.
-/

set_option autoImplicit false

namespace PenPlotter.Log

open Files

inductive Rotation where
  | never
  /-- Before a record would bring the file to a size. -/
  | atSize (limit backups : Value)
  /-- At set times.  No time passes while records are written, so this never comes up. -/
  | atTimes (times : String) (backups : Value)

inductive Sink where
  | console
  | file (base : Path) (rotation : Rotation)

structure Handler where
  number : Nat
  formatter : Formatter
  sink : Sink

def Handler.isConsole (h : Handler) : Bool :=
  match h.sink with
  | .console => true
  | .file _ _ => false

/-! ## 1. Streams -/

structure Stream where
  number : Nat
  pending : List UInt8
deriving DecidableEq, Repr

def bufferSize : Nat := 8192

def Stream.flush (st : Stream) (s : Store) : Store × Stream × Option Refusal :=
  match s.append st.number st.pending with
  | (s, none) => (s, { st with pending := [] }, none)
  | (s, some (left, reason)) => (s, { st with pending := left }, some reason)

def Stream.write (st : Stream) (s : Store) (bytes : List UInt8) :
    Store × Stream × Option Refusal :=
  if st.pending.length + bytes.length ≤ bufferSize then
    { st with pending := st.pending ++ bytes }.flush s
  else
    match st.flush s with
    | (s, st, some reason) => (s, st, some reason)
    | (s, st, none) =>
      match s.append st.number bytes with
      | (s, none) => (s, st, none)
      | (s, some (left, reason)) =>
        (s, if left.length ≤ bufferSize then { st with pending := left } else st, some reason)

/-! ## 2. Opening a file -/

/-- Names without double dots, each of which takes back the name before it. -/
def collapse (names : List String) : List String :=
  names.foldl (fun front name => if name = ".." then front.dropLast else front ++ [name]) []

/-- The path from the root that a path means in a directory, without a look at the files. -/
def basePath (here : Place) (p : Path) : Path :=
  if p.root = "" then ⟨"/", collapse (here ++ p.parts)⟩ else ⟨p.root, collapse p.parts⟩

def openStream (s : Store) (base : Path) : Store × Except Error Stream :=
  match s.openForWriting base with
  | .error e => (s, .error e)
  | .ok (s, _, number) => (s, .ok ⟨number, []⟩)

def reopen (s : Store) (base : Path) : Option Stream → Store × Option Stream
  | some st => (s, some st)
  | none =>
    let (s, r) := openStream s base
    (s, r.toOption)

/-! ## 3. Changing files -/

def backup (base : Path) (n : Nat) : Path :=
  { base with parts := base.parts.dropLast ++ [base.name ++ "." ++ Number.intText n] }

def stands (s : Store) (p : Path) : Bool := (s.lookup p).isOk

-- The steps give the store that they come to, and whether they could be done.

def clearAway (s : Store) (p : Path) : Store × Bool :=
  if stands s p then
    match s.remove p with
    | .ok s => (s, true)
    | .error _ => (s, false)
  else (s, true)

def bring (s : Store) (source target : Path) : Store × Bool :=
  if stands s source then
    match s.move source target with
    | .ok s => (s, true)
    | .error _ => (s, false)
  else (s, true)

def shiftBackups (base : Path) : (n : Nat) → Store → Store × Bool
  | 0, s => (s, true)
  | n + 1, s =>
    if stands s (backup base (n + 1)) then
      match clearAway s (backup base (n + 2)) with
      | (s, false) => (s, false)
      | (s, true) =>
        match bring s (backup base (n + 1)) (backup base (n + 2)) with
        | (s, false) => (s, false)
        | (s, true) => shiftBackups base n s
    else shiftBackups base n s

/-- Makes the file the first of so many backups; without backups it stays.  Nothing can be done if the
number of backups is no integer. -/
def rotate (s : Store) (base : Path) (backups : Value) : Store × Bool :=
  match backups.asNumber? with
  | none => (s, false)
  | some (.double x) => (s, !(0 < x))
  | some (.int n) =>
    if n ≤ 0 then (s, true)
    else
      match shiftBackups base (n.toNat - 1) s with
      | (s, false) => (s, false)
      | (s, true) =>
        match clearAway s (backup base 1) with
        | (s, false) => (s, false)
        | (s, true) => bring s base (backup base 1)

def reaches (limit : Number) (size length : Nat) : Bool :=
  !((.int (size + length : Nat) : Number) < limit)

/-- Changes the file for a new one if a line of such a length would bring it to the limit.  Gives no
stream if there is no new one. -/
def changeIfDue (s : Store) (base : Path) (st : Stream) (limit : Number) (backups : Value)
    (length : Nat) : Store × Option Stream × Bool :=
  match st.flush s with
  | (s, st, some _) => (s, some st, false)
  | (s, st, none) =>
    if reaches limit (s.content st.number).length length then
      match rotate s base backups with
      | (s, false) => (s, none, false)
      | (s, true) =>
        let (s, stream) := reopen s base none
        (s, stream, stream.isSome)
    else (s, some st, true)

/-! ## 4. Writing -/

def standsOtherwise (s : Store) (p : Path) : Bool :=
  match s.lookup p with
  | .ok e => e.number?.isNone
  | .error _ => false

/-- Makes a file ready for a line, if that can be laid out.  A file that cannot be made ready gets
none. -/
def makeReady (s : Store) (base : Path) (rotation : Rotation) (stream : Option Stream)
    (line : Option String) : Store × Option Stream × Bool :=
  match rotation with
  | .never | .atTimes _ _ => (s, stream, true)
  | .atSize limit backups =>
    if standsOtherwise s base then (s, stream, true)
    else
      match reopen s base stream with
      | (s, none) => (s, none, false)
      | (s, some st) =>
        match limit.asNumber?, line with
        | some limit, some line =>
          if 0 < limit then changeIfDue s base st limit backups line.length
          else (s, some st, true)
        | _, _ => (s, some st, true)

/-- Writes a record.  Gives the files after it, the stream of the handler, and what appears on the
console; a record that cannot be laid out, or whose file cannot be opened or changed, is left out. -/
def Handler.write (h : Handler) (stream : Option Stream) (s : Store) (p : Runtime) (c : Context)
    (r : Record) : Store × Option Stream × String :=
  let line := (h.formatter.text p c r).toOption.map (· ++ "\n")
  match h.sink with
  | .console => (s, stream, line.getD "")
  | .file base rotation =>
    match makeReady s base rotation stream line with
    | (s, stream, false) => (s, stream, "")
    | (s, stream, true) =>
      match reopen s base stream, line with
      | (s, some st), some line =>
        let (s, st, _) := st.write s line.toUTF8.toList
        (s, some st, "")
      | (s, stream), _ => (s, stream, "")

end PenPlotter.Log
