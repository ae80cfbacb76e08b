/-!
# Base 64

Bytes written with sixty-four characters, four for three bytes.  Characters outside of the alphabet
are passed over, and reading ends at the padding of an incomplete group.
-/

set_option autoImplicit false

namespace PenPlotter.Text.Base64

def sextet? (c : Char) : Option Nat :=
  let n := c.toNat
  if 'A' ≤ c && c ≤ 'Z' then some (n - 65)
  else if 'a' ≤ c && c ≤ 'z' then some (n - 71)
  else if '0' ≤ c && c ≤ '9' then some (n + 4)
  else if c = '+' then some 62
  else if c = '/' then some 63
  else none

def bytesOf (group : List Nat) : List UInt8 :=
  let bits := (group ++ List.replicate (4 - group.length) 0).foldl (fun n d => 64 * n + d) 0
  ([bits / 65536, bits / 256 % 256, bits % 256].take (group.length - 1)).map UInt8.ofNat

def decodeFrom? (group : List Nat) (pads : Nat) : List Char → Option (List UInt8)
  | [] => if group.isEmpty then some [] else none
  | c :: rest =>
    if c = '=' then
      if 2 ≤ group.length then
        if 4 ≤ group.length + pads + 1 then some (bytesOf group)
        else decodeFrom? group (pads + 1) rest
      else decodeFrom? group pads rest
    else
      match sextet? c with
      | none => decodeFrom? group pads rest
      | some d =>
        if group.length = 3 then (decodeFrom? [] 0 rest).map (bytesOf (group ++ [d]) ++ ·)
        else decodeFrom? (group ++ [d]) 0 rest

def decode? (s : List Char) : Option (List UInt8) := decodeFrom? [] 0 s

end PenPlotter.Text.Base64
