import PenPlotter.Value.Text

/-!
# Context

Named values that every record is given, in the order in which their names first came.
-/

set_option autoImplicit false

namespace PenPlotter.Log

def putEntry {α : Type} (entries : List (String × α)) (name : String) (a : α) :
    List (String × α) :=
  if entries.any (·.1 = name) then entries.map fun e => if e.1 = name then (name, a) else e
  else entries ++ [(name, a)]

def putEntries {α : Type} (entries : List (String × α)) (more : List (String × α)) :
    List (String × α) :=
  more.foldl (fun es e => putEntry es e.1 e.2) entries

abbrev Context := List (String × Value)

namespace Context

def push (c : Context) (entries : List (String × Value)) : Context := putEntries c entries

def pop (c : Context) (names : List String) : Context := c.filter fun e => !names.contains e.1

def ofEntries? (entries : List (Value × Value)) : Option (List (String × Value)) :=
  entries.mapM fun
    | (.text name, v) => some (name, v)
    | _ => none

def text (room : Nat) (c : Context) : Except NoText String := do
  let parts ← c.mapM fun e => return e.1 ++ "=" ++ (← e.2.display room)
  return " ".intercalate parts

end Context

end PenPlotter.Log
