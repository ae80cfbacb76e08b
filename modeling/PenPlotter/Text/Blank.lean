/-!
# Blanks and line breaks

Two sets of characters: the blanks, which surround words and are stripped from the ends of a text,
and the line breaks, which are the blanks that end a line.
-/

set_option autoImplicit false

namespace PenPlotter.Text

def isBlank (c : Char) : Bool :=
  let n := c.toNat
  (9 ≤ n && n ≤ 13) || (28 ≤ n && n ≤ 32) || n = 0x85 || n = 0xa0 || n = 0x1680
    || (0x2000 ≤ n && n ≤ 0x200a) || n = 0x2028 || n = 0x2029 || n = 0x202f || n = 0x205f
    || n = 0x3000

def isLineBreak (c : Char) : Bool :=
  let n := c.toNat
  (10 ≤ n && n ≤ 13) || (28 ≤ n && n ≤ 30) || n = 0x85 || n = 0x2028 || n = 0x2029

def trimWhere (p : Char → Bool) (s : List Char) : List Char :=
  ((s.dropWhile p).reverse.dropWhile p).reverse

def trim (s : List Char) : List Char := trimWhere isBlank s

/-! ## Lines -/

/-- Cuts a text after every line break; a carriage return and a line feed together are one break.
The breaks are dropped, and a break at the very end starts no further line. -/
def splitLines (s : List Char) : List (List Char) :=
  go s []
where
  /-- `line` holds the current line, reversed. -/
  go : List Char → List Char → List (List Char)
    | [], [] => []
    | [], line => [line.reverse]
    | '\r' :: '\n' :: rest, line => line.reverse :: go rest []
    | c :: rest, line =>
      if isLineBreak c then line.reverse :: go rest [] else go rest (c :: line)

def lines (s : String) : List String := (splitLines s.toList).map String.ofList

def unifyNewlines : List Char → List Char
  | [] => []
  | '\r' :: '\n' :: rest => '\n' :: unifyNewlines rest
  | c :: rest => (if c = '\r' then '\n' else c) :: unifyNewlines rest

end PenPlotter.Text
