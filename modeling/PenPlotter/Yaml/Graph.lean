import PenPlotter.Yaml.Tokens
import PenPlotter.Yaml.Kind

/-!
# Graph

A document as a graph of nodes.  An alias stands for the node with its anchor, so a node can be
reached in several ways, and even from within itself.
-/

set_option autoImplicit false

namespace PenPlotter.Yaml

abbrev NodeId := Nat

inductive Content where
  | scalar (text : String)
  | sequence (items : List NodeId)
  | mapping (entries : List (NodeId × NodeId))
deriving Repr

structure Node where
  kind : Kind
  content : Content
deriving Repr

instance : Inhabited Node := ⟨⟨.null, .scalar ""⟩⟩

structure Graph where
  nodes : Array Node

namespace Graph

def node (g : Graph) (id : NodeId) : Node := g.nodes.getD id default

def setNode (g : Graph) (id : NodeId) (n : Node) : Graph := ⟨g.nodes.setIfInBounds id n⟩

/-! ## 1. The state while a document is read -/

structure Reader where
  tokens : List Token
  /-- Why the tokens end before the text does. -/
  trouble : Option Error
  graph : Graph
  anchors : List (String × NodeId)
  handles : List (String × String)

def Reader.peek (r : Reader) : Reading (Option Token) :=
  match r.tokens, r.trouble with
  | token :: _, _ => .ok (some token)
  | [], none => .ok none
  | [], some e => .error e

def Reader.next (r : Reader) : Reader := { r with tokens := r.tokens.tail }

def Reader.add (r : Reader) (anchor : Option String) (n : Node) : Reading (NodeId × Reader) :=
  let id := r.graph.nodes.size
  let graph : Graph := ⟨r.graph.nodes.push n⟩
  match anchor with
  | none => .ok (id, { r with graph })
  | some name =>
    if r.anchors.any (·.1 = name) then .error .malformed
    else .ok (id, { r with graph, anchors := (name, id) :: r.anchors })

def Reader.addEmpty (r : Reader) : Reading (NodeId × Reader) :=
  r.add none ⟨Kind.ofPlain "", .scalar ""⟩

def Reader.fill (r : Reader) (id : NodeId) (content : Content) : Reader :=
  { r with graph := r.graph.setNode id ⟨(r.graph.node id).kind, content⟩ }

/-! ## 2. Properties of a node -/

structure Properties where
  anchor : Option String
  tag : Option String

def resolveTag (r : Reader) (handle : Option String) (suffix : String) : Reading String :=
  match handle with
  | none => .ok suffix
  | some h =>
    match r.handles.find? (·.1 = h) with
    | some (_, meaning) => .ok (meaning ++ suffix)
    | none => .error .malformed

def takeProperties (r : Reader) : Reading (Properties × Reader) := do
  let takeAnchor (r : Reader) : Reading (Option String × Reader) := do
    match ← r.peek with
    | some (.anchor name) => return (some name, r.next)
    | _ => return (none, r)
  let takeTag (r : Reader) : Reading (Option (Option String × String) × Reader) := do
    match ← r.peek with
    | some (.tag handle suffix) => return (some (handle, suffix), r.next)
    | _ => return (none, r)
  let (anchor, r) ← takeAnchor r
  let (tag, r) ← takeTag r
  let (anchor, r) ← if anchor.isNone && tag.isSome then takeAnchor r else pure (anchor, r)
  match tag with
  | none => return (⟨anchor, none⟩, r)
  | some (handle, suffix) => return (⟨anchor, some (← resolveTag r handle suffix)⟩, r)

/-- The kind of a scalar.  Plain ones without a tag, and all with the tag `!`, show it by their
text. -/
def scalarKind (tag : Option String) (text : String) (plain : Bool) : Kind :=
  match tag with
  | none => if plain then Kind.ofPlain text else .text
  | some t => if t = "!" then Kind.ofPlain text else Kind.ofTag t

def collectionKind (tag : Option String) (standard : Kind) : Kind :=
  match tag with
  | none => standard
  | some t => if t = "!" then standard else Kind.ofTag t

/-! ## 3. Nodes -/

def isOneOf (token : Option Token) (tokens : List Token) : Bool :=
  match token with
  | some t => tokens.contains t
  | none => false

mutual

/-- Reads a node.  Block collections may not stand in brackets; a sequence without indentation may
only stand in a mapping. -/
def readNode (block indentless : Bool) : Nat → Reader → Reading (NodeId × Reader)
  | 0, _ => .error .malformed
  | fuel + 1, r => do
    match ← r.peek with
    | some (.alias name) =>
      match r.anchors.find? (·.1 = name) with
      | some (_, id) => return (id, r.next)
      | none => throw .malformed
    | _ =>
      let (p, r) ← takeProperties r
      let sequence (readItems : NodeId → Reader → Reading (List NodeId × Reader)) (r : Reader) :
          Reading (NodeId × Reader) := do
        let (id, r) ← r.add p.anchor ⟨collectionKind p.tag .sequence, .sequence []⟩
        let (items, r) ← readItems id r
        return (id, r.fill id (.sequence items))
      let mapping (readEntries : NodeId → Reader → Reading (List (NodeId × NodeId) × Reader))
          (r : Reader) : Reading (NodeId × Reader) := do
        let (id, r) ← r.add p.anchor ⟨collectionKind p.tag .mapping, .mapping []⟩
        let (entries, r) ← readEntries id r
        return (id, r.fill id (.mapping entries))
      match ← r.peek with
      | some .blockEntry =>
        if indentless then sequence (fun _ => readIndentless fuel) r
        else if p.anchor.isSome || p.tag.isSome then
          r.add p.anchor ⟨scalarKind p.tag "" true, .scalar ""⟩
        else throw .malformed
      | some (.scalar text plain) =>
        r.next.add p.anchor ⟨scalarKind p.tag text plain, .scalar text⟩
      | some .flowSequenceStart => sequence (fun _ => readFlowSequence fuel true) r.next
      | some .flowMappingStart => mapping (fun _ => readFlowMapping fuel true) r.next
      | token =>
        if block && token = some .blockSequenceStart then
          sequence (fun _ => readBlockSequence fuel) r.next
        else if block && token = some .blockMappingStart then
          mapping (fun _ => readBlockMapping fuel) r.next
        else if p.anchor.isSome || p.tag.isSome then
          r.add p.anchor ⟨scalarKind p.tag "" true, .scalar ""⟩
        else throw .malformed

def readNodeUnless (block indentless : Bool) (stops : List Token) :
    Nat → Reader → Reading (NodeId × Reader)
  | 0, _ => .error .malformed
  | fuel + 1, r => do
    if isOneOf (← r.peek) stops then r.addEmpty else readNode block indentless fuel r

def readBlockSequence : Nat → Reader → Reading (List NodeId × Reader)
  | 0, _ => .error .malformed
  | fuel + 1, r => do
    match ← r.peek with
    | some .blockEntry =>
      let (item, r) ← readNodeUnless true false [.blockEntry, .blockEnd] fuel r.next
      let (rest, r) ← readBlockSequence fuel r
      return (item :: rest, r)
    | some .blockEnd => return ([], r.next)
    | _ => throw .malformed

def readIndentless : Nat → Reader → Reading (List NodeId × Reader)
  | 0, _ => .error .malformed
  | fuel + 1, r => do
    match ← r.peek with
    | some .blockEntry =>
      let (item, r) ← readNodeUnless true false [.blockEntry, .key, .value, .blockEnd] fuel r.next
      let (rest, r) ← readIndentless fuel r
      return (item :: rest, r)
    | _ => return ([], r)

def readBlockMapping : Nat → Reader → Reading (List (NodeId × NodeId) × Reader)
  | 0, _ => .error .malformed
  | fuel + 1, r => do
    let stops : List Token := [.key, .value, .blockEnd]
    match ← r.peek with
    | some .key =>
      let (key, r) ← readNodeUnless true true stops fuel r.next
      let (value, r) ←
        if (← r.peek) = some .value then readNodeUnless true true stops fuel r.next
        else r.addEmpty
      let (rest, r) ← readBlockMapping fuel r
      return ((key, value) :: rest, r)
    | some .blockEnd => return ([], r.next)
    | _ => throw .malformed

/-- The items of a sequence in brackets, up to and with the closing one.  An item with a key is a
mapping of one entry. -/
def readFlowSequence : Nat → Bool → Reader → Reading (List NodeId × Reader)
  | 0, _, _ => .error .malformed
  | fuel + 1, first, r => do
    if (← r.peek) = some .flowSequenceEnd then return ([], r.next)
    let r ←
      if first then pure r
      else if (← r.peek) = some .flowEntry then pure r.next
      else throw .malformed
    match ← r.peek with
    | some .flowSequenceEnd => return ([], r.next)
    | some .key =>
      let (id, r) ← r.add none ⟨.mapping, .mapping []⟩
      let (key, r) ←
        readNodeUnless false false [.value, .flowEntry, .flowSequenceEnd] fuel r.next
      let (value, r) ←
        if (← r.peek) = some .value then
          readNodeUnless false false [.flowEntry, .flowSequenceEnd] fuel r.next
        else r.addEmpty
      let (rest, r) ← readFlowSequence fuel false (r.fill id (.mapping [(key, value)]))
      return (id :: rest, r)
    | _ =>
      let (item, r) ← readNode false false fuel r
      let (rest, r) ← readFlowSequence fuel false r
      return (item :: rest, r)

def readFlowMapping : Nat → Bool → Reader → Reading (List (NodeId × NodeId) × Reader)
  | 0, _, _ => .error .malformed
  | fuel + 1, first, r => do
    if (← r.peek) = some .flowMappingEnd then return ([], r.next)
    let r ←
      if first then pure r
      else if (← r.peek) = some .flowEntry then pure r.next
      else throw .malformed
    match ← r.peek with
    | some .flowMappingEnd => return ([], r.next)
    | some .key =>
      let (key, r) ← readNodeUnless false false [.value, .flowEntry, .flowMappingEnd] fuel r.next
      let (value, r) ←
        if (← r.peek) = some .value then
          readNodeUnless false false [.flowEntry, .flowMappingEnd] fuel r.next
        else r.addEmpty
      let (rest, r) ← readFlowMapping fuel false r
      return ((key, value) :: rest, r)
    | _ =>
      let (key, r) ← readNode false false fuel r
      let (value, r) ← r.addEmpty
      let (rest, r) ← readFlowMapping fuel false r
      return ((key, value) :: rest, r)

end

/-! ## 4. Documents -/

def standardHandles : List (String × String) := [("!", "!"), ("!!", Kind.standardTag)]

def readDirectives : Nat → Reader → (versioned : Bool) → Reading Reader
  | 0, _, _ => .error .malformed
  | fuel + 1, r, versioned => do
    match ← r.peek with
    | some (.version major _) =>
      if versioned || major ≠ 1 then throw .malformed
      readDirectives fuel r.next true
    | some (.tagHandle handle meaning) =>
      if r.handles.any (·.1 = handle) then throw .malformed
      readDirectives fuel { r.next with handles := (handle, meaning) :: r.handles } versioned
    | some .otherDirective => readDirectives fuel r.next versioned
    | _ => return { r with handles := r.handles ++ standardHandles }

def skipDocumentEnds : Nat → Reader → Reading Reader
  | 0, r => .ok r
  | fuel + 1, r => do
    if (← r.peek) = some .documentEnd then skipDocumentEnds fuel r.next else return r

def isDirective : Token → Bool
  | .version _ _ | .tagHandle _ _ | .otherDirective => true
  | _ => false

def readDocument (r : Reader) : Reading (Option NodeId × Graph) := do
  let fuel := 4 * r.tokens.length + 8
  match ← r.peek with
  | none => return (none, r.graph)
  | some token =>
    let (root, r) ←
      if isDirective token || token = .documentStart then do
        let r ← readDirectives fuel r false
        if (← r.peek) ≠ some .documentStart then throw .malformed
        let r := r.next
        match ← r.peek with
        | none => r.addEmpty
        | some token =>
          if isDirective token || token = .documentStart || token = .documentEnd then r.addEmpty
          else readNode true false fuel r
      else readNode true false fuel { r with handles := standardHandles }
    let r ← skipDocumentEnds fuel r
    match ← r.peek with
    | none => return (some root, r.graph)
    | some _ => throw .malformed

def ofText (s : List Char) : Reading (Option NodeId × Graph) :=
  if s.all isAllowed then
    let row := TokenRow.ofText s
    readDocument ⟨row.tokens, row.trouble, ⟨#[]⟩, [], []⟩
  else .error .malformed

end Graph

end PenPlotter.Yaml
