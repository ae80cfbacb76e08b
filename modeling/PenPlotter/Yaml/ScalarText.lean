import PenPlotter.Yaml.Cursor
import PenPlotter.Yaml.Error

/-!
# The text of scalars

Scalars are written plain, between quotes, or as indented blocks.  In the first two ways a single
line end counts as a space and further ones stand; in blocks line ends stand, or are folded in the
same manner.
-/

set_option autoImplicit false

namespace PenPlotter.Yaml

open Cursor

/-! ## 1. Between quotes -/

def escapeOf? (c : Char) : Option Char :=
  ([('0', 0), ('a', 7), ('b', 8), ('t', 9), ('\t', 9), ('n', 10), ('v', 11), ('f', 12), ('r', 13),
    ('e', 27), (' ', 32), ('"', 34), ('\\', 92), ('/', 47), ('N', 0x85), ('_', 0xa0),
    ('L', 0x2028), ('P', 0x2029)].find? (·.1 = c)).map fun e => Char.ofNat e.2

def escapeLength? (c : Char) : Option Nat :=
  if c = 'x' then some 2 else if c = 'u' then some 4 else if c = 'U' then some 8 else none

def hexValue (s : List Char) : Nat := Text.ofDigits 16 (s.filterMap Decimal.letterDigit?)

def characterOf (code : Nat) : Reading Char :=
  if 0x10ffff < code then .error (.noCharacter code)
  else if 0xd800 ≤ code && code ≤ 0xdfff then .error (.halfPair code)
  else .ok (Char.ofNat code)

/-- Line ends and blanks, of which the line ends are kept.  No document separator may stand in
quotes. -/
def quotedBreaks : Nat → Cursor → Reading (List Char × Cursor)
  | 0, _ => .error .malformed
  | fuel + 1, c =>
    if c.atSeparator then .error .malformed
    else
      let c := c.skipWhile isSpace
      if isBreak c.peek then do
        let (br, c) := c.takeBreak
        let (more, c) ← quotedBreaks fuel c
        return (br ++ more, c)
      else .ok ([], c)

def foldBreaks (first : List Char) (more : List Char) : List Char :=
  if first ≠ ['\n'] then first ++ more else if more.isEmpty then [' '] else more

def takeEscape (c : Cursor) : Reading (List Char × Cursor) :=
  match escapeOf? c.peek with
  | some ch => .ok ([ch], c.advance)
  | none =>
    match escapeLength? c.peek with
    | some n => do
      let c := c.advance
      let digits := c.rest.take n
      if digits.length < n || !digits.all isHexDigit then throw .malformed
      return ([← characterOf (hexValue digits)], c.advanceBy n)
    | none =>
      if isBreak c.peek then quotedBreaks c.bound c.takeBreak.2 else .error .malformed

def quotedText (quote : Char) : Nat → Cursor → List (List Char) → Reading (List Char × Cursor)
  | 0, _, _ => .error .malformed
  | fuel + 1, c, before => do
    let ch := c.peek
    if isGap ch then
      let (blanks, c) := c.takeWhile isSpace
      if c.peek = endMark then throw .malformed
      if isBreak c.peek then
        let (first, c) := c.takeBreak
        let (more, c) ← quotedBreaks c.bound c
        quotedText quote fuel c (foldBreaks first more :: before)
      else quotedText quote fuel c (blanks :: before)
    else if ch = quote then
      if quote = '\'' && c.peekAt 1 = '\'' then
        quotedText quote fuel (c.advanceBy 2) (['\''] :: before)
      else return (before.reverse.flatten, c.advance)
    else if quote = '"' && ch = '\\' then
      let (piece, c) ← takeEscape c.advance
      quotedText quote fuel c (piece :: before)
    else quotedText quote fuel c.advance ([ch] :: before)

def takeQuoted (c : Cursor) : Reading (List Char × Cursor) :=
  quotedText c.peek c.bound c.advance []

/-! ## 2. Plain -/

def isFlowDelimiter (c : Char) : Bool :=
  c = ',' || c = '[' || c = ']' || c = '\x7b' || c = '\x7d'

def endsAfterColon (inFlow : Bool) (next : Char) : Bool :=
  isGap next || (inFlow && isFlowDelimiter next)

def plainWord (inFlow : Bool) : List Char → List Char
  | [] => []
  | ch :: rest =>
    if isGap ch || (ch = ':' && endsAfterColon inFlow (rest.headD endMark))
        || (inFlow && (ch = '?' || isFlowDelimiter ch)) then []
    else ch :: plainWord inFlow rest

/-- Line ends and spaces after the first line end; none if a document separator follows one. -/
def plainBreaks : Nat → Cursor → List Char → Option (List Char) × Cursor
  | 0, c, _ => (none, c)
  | fuel + 1, c, before =>
    if c.atSeparator then (none, c)
    else
      let c := c.skipWhile (· = ' ')
      if isBreak c.peek then
        let (br, c) := c.takeBreak
        plainBreaks fuel c (before ++ br)
      else (some before, c)

/-- The gap after a word of a plain scalar: what it stands for, the place after it, and whether it
holds a line end.  Nothing goes on after an empty gap. -/
def plainGap (c : Cursor) : List Char × Cursor × Bool :=
  let (spaces, c) := c.takeWhile (· = ' ')
  if isBreak c.peek then
    let (first, c) := c.takeBreak
    match plainBreaks c.bound c [] with
    | (some more, c) => (foldBreaks first more, c, true)
    | (none, c) => ([], c, true)
  else (spaces, c, false)

structure PlainText where
  text : List Char
  place : Cursor
  brokeLine : Bool

def plainText (inFlow : Bool) (indent : Int) :
    Nat → Cursor → (gap : List Char) → (before : List (List Char)) → (brokeLine : Bool) → PlainText
  | 0, c, _, before, brokeLine => ⟨before.reverse.flatten, c, brokeLine⟩
  | fuel + 1, c, gap, before, brokeLine =>
    let word := if c.peek = '#' then [] else plainWord inFlow c.rest
    if word.isEmpty then ⟨before.reverse.flatten, c, brokeLine⟩
    else
      let before := word :: gap :: before
      let (gap, c, brokeLine) := plainGap (c.advanceBy word.length)
      if gap.isEmpty || c.peek = '#' || (!inFlow && decide ((c.column : Int) < indent)) then
        ⟨before.reverse.flatten, c, brokeLine⟩
      else plainText inFlow indent fuel c gap before brokeLine

def takePlain (inFlow : Bool) (indent : Int) (c : Cursor) : PlainText :=
  plainText inFlow indent c.bound c [] [] false

/-! ## 3. Blocks -/

inductive Chomping where
  | strip
  | clip
  | keep
deriving DecidableEq

def takeBlockMarks (c : Cursor) : Reading ((Chomping × Option Nat) × Cursor) := do
  let chomping? (ch : Char) : Option Chomping :=
    if ch = '+' then some .keep else if ch = '-' then some .strip else none
  let increment? (c : Cursor) : Reading (Option Nat × Cursor) :=
    if isAsciiDigit c.peek then
      if c.peek = '0' then .error .malformed else .ok (some (c.peek.toNat - 48), c.advance)
    else .ok (none, c)
  let (marks, c) ←
    match chomping? c.peek with
    | some chomping => do
      let (increment, c) ← increment? c.advance
      pure ((chomping, increment), c)
    | none => do
      let (increment, c) ← increment? c
      match increment, chomping? c.peek with
      | some n, some chomping => pure ((chomping, some n), c.advance)
      | _, _ => pure ((.clip, increment), c)
  if endsWord c.peek then return (marks, c) else throw .malformed

def skipLineEnd (c : Cursor) : Reading Cursor :=
  let c := c.skipWhile (· = ' ')
  let c := if c.peek = '#' then c.skipWhile (!endsLine ·) else c
  if endsLine c.peek then .ok c.takeBreak.2 else .error .malformed

def leadingBreaks : Nat → Cursor → List Char → Nat → List Char × Nat × Cursor
  | 0, c, breaks, widest => (breaks, widest, c)
  | fuel + 1, c, breaks, widest =>
    if c.peek = ' ' then
      let c := c.advance
      leadingBreaks fuel c breaks (max widest c.column)
    else if isBreak c.peek then
      let (br, c) := c.takeBreak
      leadingBreaks fuel c (breaks ++ br) widest
    else (breaks, widest, c)

def skipSpacesTo (column : Nat) (c : Cursor) : Cursor :=
  c.advanceBy ((c.rest.takeWhile (· = ' ')).take (column - c.column)).length

def blockBreaks (indent : Nat) : Nat → Cursor → List Char → List Char × Cursor
  | 0, c, breaks => (breaks, c)
  | fuel + 1, c, breaks =>
    let c := skipSpacesTo indent c
    if isBreak c.peek then
      let (br, c) := c.takeBreak
      blockBreaks indent fuel c (breaks ++ br)
    else (breaks, c)

/-- The lines of a block.  `breaks` are the line ends before the next line, `ending` is that of the
last line. -/
def blockLines (folded : Bool) (chomping : Chomping) (indent : Nat) :
    Nat → Cursor → (before : List (List Char)) → (breaks ending : List Char) → List Char × Cursor
  | 0, c, before, _, _ => (before.reverse.flatten, c)
  | fuel + 1, c, before, breaks, ending =>
    let finish (before : List (List Char)) (breaks ending : List Char) (c : Cursor) :=
      let tail :=
        match chomping with
        | .strip => []
        | .clip => ending
        | .keep => ending ++ breaks
      (before.reverse.flatten ++ tail, c)
    if c.column = indent && c.peek ≠ endMark then
      let indented := isSpace c.peek
      let (text, c) := c.takeWhile (!endsLine ·)
      let before := text :: breaks :: before
      let (ending, c) := c.takeBreak
      let (breaks, c) := blockBreaks indent c.bound c []
      if c.column = indent && c.peek ≠ endMark then
        let joint :=
          if folded && ending = ['\n'] && !indented && !isSpace c.peek then
            if breaks.isEmpty then [' '] else []
          else ending
        blockLines folded chomping indent fuel c (joint :: before) breaks ending
      else finish before breaks ending c
    else finish before breaks ending c

def takeBlock (around : Int) (c : Cursor) : Reading (List Char × Cursor) := do
  let folded := c.peek = '>'
  let ((chomping, increment), c) ← takeBlockMarks c.advance
  let c ← skipLineEnd c
  let least := (max 1 (around + 1)).toNat
  match increment with
  | some n =>
    let indent := least + n - 1
    let (breaks, c) := blockBreaks indent c.bound c []
    return blockLines folded chomping indent c.bound c [] breaks []
  | none =>
    let (breaks, widest, c) := leadingBreaks c.bound c [] 0
    let indent := max least widest
    return blockLines folded chomping indent c.bound c [] breaks []

end PenPlotter.Yaml
