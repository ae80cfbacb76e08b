import PenPlotter.Yaml.ScalarText

/-!
# Tokens

A text as a row of tokens.  In blocks, collections are shown by columns alone, so the tokens that
open and close them are put in where the column changes.  A mapping can only be noticed at the colon
after its first key; that key's place is remembered until then, and the opening tokens are put in
front of it.
-/

set_option autoImplicit false

namespace PenPlotter.Yaml

open Cursor

inductive Token where
  | version (major minor : Nat)
  | tagHandle (handle meaning : String)
  | otherDirective
  | documentStart
  | documentEnd
  | blockSequenceStart
  | blockMappingStart
  | blockEnd
  | flowSequenceStart
  | flowSequenceEnd
  | flowMappingStart
  | flowMappingEnd
  | blockEntry
  | flowEntry
  | key
  | value
  | alias (name : String)
  | anchor (name : String)
  | tag (handle : Option String) (suffix : String)
  | scalar (text : String) (plain : Bool)
deriving DecidableEq, Repr

/-! ## 1. Names, tags and directives -/

def takeName (c : Cursor) : Reading (String × Cursor) :=
  let (name, c) := c.takeWhile isNameChar
  if name.isEmpty then .error .malformed else .ok (String.ofList name, c)

def takeAnchorName (c : Cursor) : Reading (String × Cursor) := do
  let (name, c) ← takeName c
  if isGap c.peek || "?:,]\x7d%@\x60".toList.contains c.peek then return (name, c)
  else throw .malformed

def takeTagHandle (c : Cursor) : Reading (String × Cursor) :=
  if c.peek ≠ '!' then .error .malformed
  else if c.peekAt 1 = ' ' then .ok ("!", c.advance)
  else
    let (name, rest) := c.advance.takeWhile isNameChar
    if rest.peek = '!' then .ok (String.ofList ('!' :: name ++ ['!']), rest.advance)
    else .error .malformed

def takeByteEscapes : Nat → Cursor → List UInt8 → Reading (List UInt8 × Cursor)
  | 0, c, bytes => .ok (bytes.reverse, c)
  | fuel + 1, c, bytes =>
    if c.peek = '%' then
      let c := c.advance
      let digits := c.rest.take 2
      if digits.length < 2 || !digits.all isHexDigit then .error .malformed
      else takeByteEscapes fuel (c.advanceBy 2) (UInt8.ofNat (hexValue digits) :: bytes)
    else .ok (bytes.reverse, c)

def takeTagText : Nat → Cursor → List (List Char) → Reading (String × Cursor)
  | 0, c, before => .ok (String.ofList before.reverse.flatten, c)
  | fuel + 1, c, before =>
    if c.peek = '%' then do
      let (bytes, c) ← takeByteEscapes c.bound c []
      match String.fromUTF8? ⟨bytes.toArray⟩ with
      | some s => takeTagText fuel c (s.toList :: before)
      | none => throw .malformed
    else if isTagChar c.peek then takeTagText fuel c.advance ([c.peek] :: before)
    else if before.isEmpty then .error .malformed
    else .ok (String.ofList before.reverse.flatten, c)

def marksHandle (s : List Char) : Bool := (s.takeWhile (!endsWord ·)).contains '!'

def takeTag (c : Cursor) : Reading (Token × Cursor) := do
  let next := c.peekAt 1
  let (tag, c) ←
    if next = '<' then do
      let c := c.advanceBy 2
      let (suffix, c) ← takeTagText c.bound c []
      if c.peek ≠ '>' then throw .malformed
      pure (Token.tag none suffix, c.advance)
    else if isGap next then pure (Token.tag none "!", c.advance)
    else do
      let (handle, c) ← if marksHandle c.rest.tail then takeTagHandle c else pure ("!", c.advance)
      let (suffix, c) ← takeTagText c.bound c []
      pure (Token.tag (some handle) suffix, c)
  if endsWord c.peek then return (tag, c) else throw .malformed

def takeDirectiveNumber (c : Cursor) : Reading (Nat × Cursor) :=
  let (digits, c) := c.takeWhile isAsciiDigit
  if digits.isEmpty then .error .malformed
  else .ok (Text.ofDigits 10 (digits.filterMap Text.digit?), c)

def takeDirective (c : Cursor) : Reading (Token × Cursor) := do
  let (name, c) ← takeName c.advance
  if !endsWord c.peek then throw .malformed
  let skipSpaces (c : Cursor) : Cursor := c.skipWhile (· = ' ')
  let (token, c) ←
    if name = "YAML" then do
      let (major, c) ← takeDirectiveNumber (skipSpaces c)
      if c.peek ≠ '.' then throw .malformed
      let (minor, c) ← takeDirectiveNumber c.advance
      if !endsWord c.peek then throw .malformed
      pure (Token.version major minor, c)
    else if name = "TAG" then do
      let (handle, c) ← takeTagHandle (skipSpaces c)
      if c.peek ≠ ' ' then throw .malformed
      let c := skipSpaces c
      let (meaning, c) ← takeTagText c.bound c []
      if !endsWord c.peek then throw .malformed
      pure (Token.tagHandle handle meaning, c)
    else pure (Token.otherDirective, c.skipWhile (!endsLine ·))
  return (token, ← skipLineEnd c)

/-! ## 2. The state between tokens -/

structure PossibleKey where
  position : Nat
  /-- Whether nothing but a key can stand there. -/
  required : Bool
  index : Nat
  line : Nat
  column : Nat

structure Tokenizer where
  place : Cursor
  flow : Nat
  /-- The column of the innermost open block collection, or `-1`. -/
  indent : Int
  outer : List Int
  /-- Whether a key may start here without a mark. -/
  keyAllowed : Bool
  /-- The possible keys, at most one for each depth of brackets. -/
  keys : List (Nat × PossibleKey)
  tokens : Array Token

namespace Tokenizer

def ofText (s : List Char) : Tokenizer := ⟨.ofText s, 0, -1, [], true, [], #[]⟩

def push (t : Tokenizer) (token : Token) : Tokenizer := { t with tokens := t.tokens.push token }

/-- Gives up the possible keys that are too far back: a key is on one line, and short. -/
def dropStaleKeys (t : Tokenizer) : Reading Tokenizer :=
  let isStale (k : PossibleKey) : Bool :=
    k.line ≠ t.place.line || 1024 < t.place.index - k.index
  if t.keys.any fun k => isStale k.2 && k.2.required then .error .malformed
  else .ok { t with keys := t.keys.filter fun k => !isStale k.2 }

def dropKey (t : Tokenizer) : Reading Tokenizer :=
  if t.keys.any fun k => k.1 = t.flow && k.2.required then .error .malformed
  else .ok { t with keys := t.keys.filter fun k => k.1 ≠ t.flow }

def noteKey (t : Tokenizer) : Reading Tokenizer :=
  if t.keyAllowed then do
    let required := t.flow = 0 && t.indent = (t.place.column : Int)
    let t ← t.dropKey
    let k : PossibleKey :=
      ⟨t.tokens.size, required, t.place.index, t.place.line, t.place.column⟩
    return { t with keys := (t.flow, k) :: t.keys }
  else .ok t

def closeBlocks (t : Tokenizer) (column : Int) : Tokenizer :=
  if t.flow ≠ 0 then t
  else
    let rec close (indent : Int) (tokens : Array Token) : List Int → Int × List Int × Array Token
      | [] => (indent, [], tokens)
      | o :: outer =>
        if column < indent then close o (tokens.push .blockEnd) outer
        else (indent, o :: outer, tokens)
    let (indent, outer, tokens) := close t.indent t.tokens t.outer
    { t with indent, outer, tokens }

/-- Opens a block collection at a column, if that is further right than the one around it: its
first token goes in at a position. -/
def openBlock (t : Tokenizer) (column : Nat) (position : Nat) (token : Token) : Tokenizer :=
  if t.indent < column then
    { t with
      indent := column, outer := t.indent :: t.outer
      tokens := t.tokens.insertIdxIfInBounds position token }
  else t

/-- Goes past blanks, comments and line ends.  After a line end outside of brackets a key may
start. -/
def skipGap (t : Tokenizer) : Tokenizer :=
  let rec skip : Nat → Cursor → Bool → Cursor × Bool
    | 0, c, allowed => (c, allowed)
    | fuel + 1, c, allowed =>
      let c := c.skipWhile (· = ' ')
      let c := if c.peek = '#' then c.skipWhile (!endsLine ·) else c
      if isBreak c.peek then skip fuel c.takeBreak.2 (allowed || t.flow = 0) else (c, allowed)
  let start :=
    if t.place.index = 0 && t.place.peek.toNat = 0xfeff then t.place.advance else t.place
  let (place, keyAllowed) := skip start.bound start t.keyAllowed
  { t with place, keyAllowed }

/-! ## 3. Taking a token -/

def single (t : Tokenizer) (token : Token) (keyAllowed : Bool) : Tokenizer :=
  { t with place := t.place.advance, keyAllowed }.push token

def keyPart (t : Tokenizer) (take : Cursor → Reading (Token × Cursor)) : Reading Tokenizer := do
  let t ← t.noteKey
  let (token, place) ← take t.place
  return { t with place, keyAllowed := false }.push token

def documentMark (t : Tokenizer) (token : Token) : Reading Tokenizer := do
  let t ← (t.closeBlocks (-1)).dropKey
  return { t with place := t.place.advanceBy 3, keyAllowed := false }.push token

def directive (t : Tokenizer) : Reading Tokenizer := do
  let t ← (t.closeBlocks (-1)).dropKey
  let (token, place) ← takeDirective t.place
  return { t with place, keyAllowed := false }.push token

def openFlow (t : Tokenizer) (token : Token) : Reading Tokenizer := do
  let t ← t.noteKey
  return { t with flow := t.flow + 1 }.single token true

def closeFlow (t : Tokenizer) (token : Token) : Reading Tokenizer := do
  if t.flow = 0 then throw .malformed
  let t ← t.dropKey
  return { t with flow := t.flow - 1 }.single token false

def flowEntry (t : Tokenizer) : Reading Tokenizer := do
  return (← t.dropKey).single .flowEntry true

def openHere (t : Tokenizer) (token : Token) : Reading Tokenizer :=
  if t.flow ≠ 0 then .ok t
  else if t.keyAllowed then .ok (t.openBlock t.place.column t.tokens.size token)
  else .error .malformed

def blockEntry (t : Tokenizer) : Reading Tokenizer := do
  return (← (← t.openHere .blockSequenceStart).dropKey).single .blockEntry true

def key (t : Tokenizer) : Reading Tokenizer := do
  return (← (← t.openHere .blockMappingStart).dropKey).single .key (t.flow = 0)

def value (t : Tokenizer) : Reading Tokenizer :=
  match t.keys.find? fun k => k.1 = t.flow with
  | some (_, k) =>
    let t := { t with
      keys := t.keys.filter fun k => k.1 ≠ t.flow
      tokens := t.tokens.insertIdxIfInBounds k.position .key }
    let t := if t.flow = 0 then t.openBlock k.column k.position .blockMappingStart else t
    .ok (t.single .value false)
  | none => do
    return (← (← t.openHere .blockMappingStart).dropKey).single .value (t.flow = 0)

def block (t : Tokenizer) : Reading Tokenizer := do
  let t ← t.dropKey
  let (text, place) ← takeBlock t.indent t.place
  return { t with place, keyAllowed := true }.push (.scalar (String.ofList text) false)

def quoted (t : Tokenizer) : Reading Tokenizer :=
  t.keyPart fun c => do
    let (text, c) ← takeQuoted c
    return (.scalar (String.ofList text) false, c)

def plain (t : Tokenizer) : Reading Tokenizer := do
  let t ← t.noteKey
  let p := takePlain (t.flow ≠ 0) (t.indent + 1) t.place
  return { t with place := p.place, keyAllowed := p.brokeLine }.push
    (.scalar (String.ofList p.text) true)

def anchorOrAlias (t : Tokenizer) (token : String → Token) : Reading Tokenizer :=
  t.keyPart fun c => do
    let (name, c) ← takeAnchorName c.advance
    return (token name, c)

def startsPlain (inFlow : Bool) (ch next : Char) : Bool :=
  (!isGap ch && !"-?:,[]\x7b\x7d#&*!|>'\"%@\x60".toList.contains ch)
    || (!isGap next && (ch = '-' || (!inFlow && (ch = '?' || ch = ':'))))

def take (t : Tokenizer) : Reading Tokenizer :=
  let c := t.place
  let ch := c.peek
  let next := c.peekAt 1
  let inFlow : Bool := t.flow ≠ 0
  if ch = '%' && c.column = 0 then t.directive
  else if ch = '-' && c.column = 0 && c.atSeparator then t.documentMark .documentStart
  else if ch = '.' && c.column = 0 && c.atSeparator then t.documentMark .documentEnd
  else if ch = '[' then t.openFlow .flowSequenceStart
  else if ch = '\x7b' then t.openFlow .flowMappingStart
  else if ch = ']' then t.closeFlow .flowSequenceEnd
  else if ch = '\x7d' then t.closeFlow .flowMappingEnd
  else if ch = ',' then t.flowEntry
  else if ch = '-' && isGap next then t.blockEntry
  else if ch = '?' && (inFlow || isGap next) then t.key
  else if ch = ':' && (inFlow || isGap next) then t.value
  else if ch = '*' then t.anchorOrAlias .alias
  else if ch = '&' then t.anchorOrAlias .anchor
  else if ch = '!' then t.keyPart takeTag
  else if (ch = '|' || ch = '>') && !inFlow then t.block
  else if ch = '\'' || ch = '"' then t.quoted
  else if startsPlain inFlow ch next then t.plain
  else .error .malformed

end Tokenizer

structure TokenRow where
  tokens : List Token
  trouble : Option Error

def Tokenizer.run (t : Tokenizer) : Nat → TokenRow
  | 0 => ⟨t.tokens.toList, some .malformed⟩
  | fuel + 1 =>
    let start : Reading Tokenizer := do
      let t ← t.skipGap.dropStaleKeys
      return t.closeBlocks t.place.column
    match start with
    | .error e => ⟨t.tokens.toList, some e⟩
    | .ok t =>
      if t.place.peek = endMark then
        let t := t.closeBlocks (-1)
        match t.dropKey with
        | .ok t => ⟨t.tokens.toList, none⟩
        | .error e => ⟨t.tokens.toList, some e⟩
      else
        match t.take with
        | .ok t => t.run fuel
        | .error e => ⟨t.tokens.toList, some e⟩

def TokenRow.ofText (s : List Char) : TokenRow := (Tokenizer.ofText s).run (s.length + 1)

end PenPlotter.Yaml
