import PenPlotter.Text.Printable

/-!
# Quoted text

Texts and byte strings are shown in messages between quotes, with escapes for the quote, the
backslash and everything that cannot be printed.  The quote is `'`, or `"` if the text holds `'`
and no `"`.
-/

set_option autoImplicit false

namespace PenPlotter.Text

def hex (width n : Nat) : List Char :=
  let digits := Nat.toDigits 16 n
  List.replicate (width - digits.length) '0' ++ digits

def escaped (quote c : Char) : List Char :=
  let n := c.toNat
  if c = quote || c = '\\' then ['\\', c]
  else if c = '\n' then ['\\', 'n']
  else if c = '\r' then ['\\', 'r']
  else if c = '\t' then ['\\', 't']
  else if isPrintable c then [c]
  else if n < 0x100 then '\\' :: 'x' :: hex 2 n
  else if n < 0x10000 then '\\' :: 'u' :: hex 4 n
  else '\\' :: 'U' :: hex 8 n

def quoteFor (s : List Char) : Char :=
  if s.contains '\'' && !s.contains '"' then '"' else '\''

def quotedChars (s : List Char) : List Char :=
  let q := quoteFor s
  q :: s.flatMap (escaped q) ++ [q]

def quoted (s : String) : String := String.ofList (quotedChars s.toList)

def escapedByte (quote : Char) (b : UInt8) : List Char :=
  let c := Char.ofNat b.toNat
  if b < 0x80 then escaped quote c else '\\' :: 'x' :: hex 2 b.toNat

def quotedBytes (bytes : List UInt8) : String :=
  let q := quoteFor (bytes.map fun b => Char.ofNat b.toNat)
  String.ofList ('b' :: q :: bytes.flatMap (escapedByte q) ++ [q])

end PenPlotter.Text
