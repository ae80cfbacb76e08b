import PenPlotter.Value.Basic

/-!
# The runtime

What a program does depends, besides the program and what it is given, on the process that runs it:
on the number of the process, on how much room its stack has, and on the order in which it goes
through the members of a set.
-/

set_option autoImplicit false

namespace PenPlotter

structure Runtime where
  number : Int
  /-- How deep inside one another values may lie that are shown. -/
  room : Nat
  /-- The documents whose collections lie so deep inside one another that they cannot be read. -/
  exhausts : String → Bool
  /-- The order in which the members of a set come. -/
  arrange : List Value → List Value
  arrange_perm (members : List Value) : (arrange members).Perm members

def Runtime.standard : Runtime := ⟨1, 100, fun _ => false, id, fun _ => .rfl⟩

instance : Inhabited Runtime := ⟨.standard⟩

end PenPlotter
