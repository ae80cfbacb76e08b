import PenPlotter.Number
import PenPlotter.Calendar

/-!
# Value — what a settings or segment file holds

Files are read into values: null, booleans, numbers, texts, byte strings, dates and collections of
values.  A mapping keeps its entries in the order in which the keys first came.  A collection may
contain itself; such a place holds `enclosing n`, the collection that lies `n` levels further out
than the one around it.
-/

set_option autoImplicit false

namespace PenPlotter

inductive Value where
  | null
  | bool (b : Bool)
  | number (n : Number)
  | text (s : String)
  | bytes (bs : List UInt8)
  | list (items : List Value)
  | tuple (items : List Value)
  | mapping (entries : List (Value × Value))
  | set (members : List Value)
  | date (d : Calendar.Date)
  | moment (m : Calendar.Moment)
  | enclosing (level : Nat)
deriving Repr

namespace Value

instance : Inhabited Value := ⟨.null⟩

/-! ## 1. Collections that contain themselves -/

mutual

def close (whole : Value) (depth : Nat) : Value → Value
  | .enclosing level => if level = depth then whole else .enclosing level
  | .list items => .list (closeAll whole (depth + 1) items)
  | .tuple items => .tuple (closeAll whole (depth + 1) items)
  | .mapping entries => .mapping (closeEntries whole (depth + 1) entries)
  | .set members => .set (closeAll whole (depth + 1) members)
  | v => v

def closeAll (whole : Value) (depth : Nat) : List Value → List Value
  | [] => []
  | v :: rest => close whole depth v :: closeAll whole depth rest

def closeEntries (whole : Value) (depth : Nat) : List (Value × Value) → List (Value × Value)
  | [] => []
  | (k, v) :: rest => (close whole depth k, close whole depth v) :: closeEntries whole depth rest

end

def items? : Value → Option (List Value)
  | .list items => some (closeAll (.list items) 0 items)
  | .tuple items => some (closeAll (.tuple items) 0 items)
  | .set members => some (closeAll (.set members) 0 members)
  | _ => none

def entries? : Value → Option (List (Value × Value))
  | .mapping entries => some (closeEntries (.mapping entries) 0 entries)
  | _ => none

/-! ## 2. Equality of keys -/

def asNumber? : Value → Option Number
  | .number n => some n
  | .bool b => some (.int (if b then 1 else 0))
  | _ => none

mutual

/-- Whether two values are the same key.  Truth values count as one and zero, numbers are the same
if their values are, and not-a-number is the same key as itself. -/
def sameKey : Value → Value → Bool
  | .null, .null => true
  | .text s, .text t => s = t
  | .bytes b, .bytes c => b = c
  | .date d, .date e => d = e
  | .moment m, .moment n => m.same n
  | .tuple a, .tuple b => sameKeys a b
  | .bool a, w =>
    match w.asNumber? with
    | some n => n.same (.int (if a then 1 else 0))
    | none => false
  | .number m, w =>
    match w.asNumber? with
    | some n => m.same n || (m = .double .nan && n = .double .nan)
    | none => false
  | _, _ => false

def sameKeys : List Value → List Value → Bool
  | [], [] => true
  | a :: as, b :: bs => sameKey a b && sameKeys as bs
  | _, _ => false

end

def put (entries : List (Value × Value)) (key content : Value) : List (Value × Value) :=
  if entries.any (sameKey key ·.1) then
    entries.map fun e => if sameKey key e.1 then (e.1, content) else e
  else entries ++ [(key, content)]

def ofEntries (entries : List (Value × Value)) : Value :=
  .mapping (entries.foldl (fun es e => put es e.1 e.2) [])

def find? (entries : List (Value × Value)) (key : Value) : Option Value :=
  (entries.find? (sameKey key ·.1)).map (·.2)

def get? (v : Value) (key : String) : Option Value :=
  v.entries?.bind (find? · (.text key))

/-! ## 3. Classes -/

/-- Null, false, zero and everything empty: the values that count as nothing given. -/
def isVoid : Value → Bool
  | .null => true
  | .bool b => !b
  | .number n => n.isZero
  | .text s => s.isEmpty
  | .bytes bs => bs.isEmpty
  | .list items => items.isEmpty
  | .tuple items => items.isEmpty
  | .mapping entries => entries.isEmpty
  | .set members => members.isEmpty
  | _ => false

def isKey : Value → Bool
  | .list _ | .mapping _ | .set _ | .enclosing _ => false
  | _ => true

end Value

end PenPlotter
