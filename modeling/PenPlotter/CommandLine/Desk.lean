import PenPlotter.Log.Journal

/-!
# Desks

What a command works on: the files, the journal that it keeps, and what it has written so far.  A
task changes the desk step by step until it is done or stops.
-/

set_option autoImplicit false

namespace PenPlotter.CommandLine

open Files

structure Desk where
  files : Store
  journal : Log.Journal
  process : Runtime
  /-- Seconds since the start of 1970. -/
  now : Double
  /-- The records that the journal has taken, each with the context of its time. -/
  records : List (Log.Context × Log.Record)
  output : String
  console : String

namespace Desk

def new (files : Store) (process : Runtime) (now : Double) : Desk :=
  ⟨files, .initial, process, now, [], "", ""⟩

def logger : String := "compile"

def note (d : Desk) (level : Log.Level) (template : String) (arguments : List Value) : Desk :=
  if d.journal.takes level then
    let r : Log.Record := ⟨logger, level, d.process.number, d.now, template, arguments, none⟩
    let (journal, files, shown) := d.journal.write d.files d.process r
    { d with
      files, journal
      records := d.records ++ [(d.journal.context, r)]
      console := d.console ++ shown }
  else d

def print (d : Desk) (line : String) : Desk := { d with output := d.output ++ line ++ "\n" }

def push (d : Desk) (name value : String) : Desk :=
  { d with journal := d.journal.push [(name, .text value)] }

end Desk

abbrev Task (ε α : Type) := ExceptT ε (StateM Desk) α

namespace Task

def note {ε : Type} (level : Log.Level) (template : String) (arguments : List Value) : Task ε Unit :=
  modify (·.note level template arguments)

def info {ε : Type} (template : String) (arguments : List Value) : Task ε Unit :=
  note .info template arguments

def debug {ε : Type} (template : String) (arguments : List Value) : Task ε Unit :=
  note .debug template arguments

def take {ε δ α : Type} (reason : δ → ε) : Except δ α → Task ε α
  | .ok a => pure a
  | .error e => throw (reason e)

end Task

end PenPlotter.CommandLine
