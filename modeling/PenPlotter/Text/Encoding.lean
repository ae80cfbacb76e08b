/-!
# Encodings

Texts as bytes.
-/

set_option autoImplicit false

namespace PenPlotter.Text

attribute [local instance (high)] instPowNat

/-- Which byte of a unit comes first; without a choice a mark is written, and then the low one. -/
inductive ByteOrder where
  | marked
  | lowFirst
  | highFirst
deriving DecidableEq, Repr

inductive Encoding where
  | utf8 (marked : Bool)
  | utf16 (order : ByteOrder)
  | utf32 (order : ByteOrder)
  | ascii
  | latin1
  | windows1252
deriving DecidableEq, Repr

namespace Encoding

def names : List (Encoding × List String) := [
  (utf8 false, ["utf_8", "utf8", "u8", "utf", "cp65001"]),
  (utf8 true, ["utf_8_sig"]),
  (utf16 .marked, ["utf_16", "utf16", "u16"]),
  (utf16 .lowFirst, ["utf_16_le", "utf_16le", "unicodelittleunmarked"]),
  (utf16 .highFirst, ["utf_16_be", "utf_16be", "unicodebigunmarked"]),
  (utf32 .marked, ["utf_32", "utf32", "u32"]),
  (utf32 .lowFirst, ["utf_32_le", "utf_32le"]),
  (utf32 .highFirst, ["utf_32_be", "utf_32be"]),
  (ascii, ["ascii", "us_ascii", "us", "646", "iso646_us", "ansi_x3_4_1968", "cp367", "ibm367"]),
  (latin1, ["latin_1", "latin1", "latin", "l1", "iso_8859_1", "iso8859_1", "iso8859", "8859",
    "cp819", "ibm819"]),
  (windows1252, ["cp1252", "1252", "windows_1252"])]

def plainName (name : String) : String :=
  let words := (name.toList.map Char.toLower).splitBy fun a b => a.isAlphanum == b.isAlphanum
  "_".intercalate ((words.filter fun w => w.any Char.isAlphanum).map String.ofList)

def named? (name : String) : Option Encoding :=
  (names.find? fun e => e.2.contains (plainName name)).map (·.1)

def unitBytes (width unit : Nat) : List UInt8 :=
  (List.range width).map fun i => UInt8.ofNat (unit / 256 ^ i)

def bytesOfUnits (order : ByteOrder) (width : Nat) (units : List Nat) : List UInt8 :=
  match order with
  | .marked => (0xfeff :: units).flatMap (unitBytes width)
  | .lowFirst => units.flatMap (unitBytes width)
  | .highFirst => units.flatMap fun u => (unitBytes width u).reverse

def units16 (c : Char) : List Nat :=
  let n := c.toNat
  if n < 0x10000 then [n] else [0xd800 + (n - 0x10000) / 0x400, 0xdc00 + (n - 0x10000) % 0x400]

def windowsExtras : List Nat := [0x20ac, 0, 0x201a, 0x192, 0x201e, 0x2026, 0x2020, 0x2021, 0x2c6,
  0x2030, 0x160, 0x2039, 0x152, 0, 0x17d, 0, 0, 0x2018, 0x2019, 0x201c, 0x201d, 0x2022, 0x2013,
  0x2014, 0x2dc, 0x2122, 0x161, 0x203a, 0x153, 0, 0x17e, 0x178]

def windowsByte? (c : Char) : Option Nat :=
  let n := c.toNat
  if n < 0x80 || (0xa0 ≤ n && n < 0x100) then some n
  else if n = 0 then none
  else (windowsExtras.findIdx? (· = n)).map (· + 0x80)

def singleBytes? (byte? : Char → Option Nat) (s : String) : Option (List UInt8) :=
  s.toList.mapM fun c => (byte? c).map UInt8.ofNat

def encode? (e : Encoding) (s : String) : Option (List UInt8) :=
  match e with
  | .utf8 marked => some ((if marked then [0xef, 0xbb, 0xbf] else []) ++ s.toUTF8.toList)
  | .utf16 order => some (bytesOfUnits order 2 (s.toList.flatMap units16))
  | .utf32 order => some (bytesOfUnits order 4 (s.toList.map Char.toNat))
  | .ascii => singleBytes? (fun c => if c.toNat < 0x80 then some c.toNat else none) s
  | .latin1 => singleBytes? (fun c => if c.toNat < 0x100 then some c.toNat else none) s
  | .windows1252 => singleBytes? windowsByte? s

end Encoding

end PenPlotter.Text
