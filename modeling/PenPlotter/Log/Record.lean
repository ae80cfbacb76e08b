import PenPlotter.Calendar.Instant
import PenPlotter.Log.Context
import PenPlotter.Log.Json
import PenPlotter.Log.Level
import PenPlotter.Log.Template
import PenPlotter.Runtime

/-!
# Records

A record is laid out as a line for people, or as a JSON object on one line for other programs.
-/

set_option autoImplicit false

namespace PenPlotter.Log

open Calendar

structure Failure where
  kind : String
  message : String
deriving DecidableEq, Repr

def Failure.text (f : Failure) : String :=
  let message := if f.kind = "KeyError" then Text.quoted f.message else f.message
  if message.isEmpty then f.kind else f.kind ++ ": " ++ message

structure Record where
  logger : String
  level : Level
  process : Int
  /-- Seconds since the start of 1970. -/
  created : Double
  template : String
  arguments : List Value
  failure : Option Failure

inductive Layout where
  | human (coloured : Bool)
  | json
deriving DecidableEq, Repr

structure Formatter where
  layout : Layout
  clock : Clock
deriving DecidableEq, Repr

inductive FormatError where
  | instant (error : InstantError)
  | template (error : Template.Error)
  | noText (reason : NoText)
  | notJson
deriving DecidableEq, Repr

def FormatError.message : FormatError → String
  | .instant e => e.message
  | .template e => e.message
  | .noText reason => reason.message
  | .notJson => "a value has no expression in JSON"

/-! ## 1. Lines for people -/

def stamp (m : Moment) : String :=
  Number.intText m.date.year ++ "-" ++ padded 2 m.date.month ++ "-" ++ padded 2 m.date.day ++ "T"
    ++ padded 2 m.time.hour ++ ":" ++ padded 2 m.time.minute ++ ":" ++ padded 2 m.time.second ++ "."
    ++ padded 3 (m.time.microsecond / 1000) ++ "Z"

def colour (l : Level) : String :=
  if l = .debug then "\x1b[36m"
  else if l = .info then "\x1b[32m"
  else if l = .warning then "\x1b[33m"
  else if l = .error then "\x1b[31m"
  else if l = .critical then "\x1b[35m"
  else ""

def levelColumn (coloured : Bool) (l : Level) : String :=
  let column := String.ofList (l.name.toList ++ List.replicate (8 - l.name.length) ' ')
  if coloured then colour l ++ column ++ "\x1b[0m" else column

/-- Stamp, level, context and message with bars between them; the context stands only if there is
any, and a failure follows on a line of its own. -/
def humanLine (coloured : Bool) (context : String) (m : Moment) (r : Record) (message : String) :
    String :=
  stamp m ++ " | " ++ levelColumn coloured r.level ++ " | "
    ++ (if context.isEmpty then "" else context ++ " | ") ++ message
    ++ ((r.failure.map fun f => "\n" ++ f.text).getD "")

/-! ## 2. Lines for programs -/

/-- The members of the object: the record's own and the number of the process that lays it out, then
the context, which may override them, then the failure, which may override that.  A value that has no
expression in JSON only matters if it is not overridden. -/
def jsonMembers (p : Runtime) (c : Context) (m : Moment) (r : Record) (message : String) :
    Option (List (String × Json)) :=
  let own : List (String × Json) :=
    [("t", .text (m.text "T")), ("lvl", .text r.level.name), ("name", .text r.logger),
      ("pid", .number (.int p.number)), ("msg", .text message)]
  let failure : List (String × Json) := r.failure.toList.map fun f => ("exc", .text f.text)
  let members := putEntries (own.map fun e => (e.1, some e.2))
    (c.map (fun e => (e.1, Json.ofValue? p.room e.2)) ++ failure.map fun e => (e.1, some e.2))
  members.mapM fun e => e.2.map (e.1, ·)

/-! ## 3. Formatters -/

def Formatter.text (f : Formatter) (p : Runtime) (c : Context) (r : Record) :
    Except FormatError String := do
  let m ← (Moment.ofInstant f.clock r.created).mapError .instant
  match f.layout with
  | .human coloured =>
    let context ← (c.text p.room).mapError .noText
    let message ← (Template.fill p.room r.template r.arguments).mapError .template
    return humanLine coloured context m r message
  | .json =>
    let message ← (Template.fill p.room r.template r.arguments).mapError .template
    match jsonMembers p c m r message with
    | some members => return (Json.object members).line
    | none => throw .notJson

end PenPlotter.Log
