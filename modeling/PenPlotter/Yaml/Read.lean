import PenPlotter.Runtime
import PenPlotter.Yaml.Graph
import PenPlotter.Yaml.Scalar

/-!
# Reading

The value of a document.  Collections are opened first and filled later, level by level from the
root on, so a collection can be reached from within itself; the first node that has no value, in
that order, is why a document has none.
-/

set_option autoImplicit false

namespace PenPlotter.Yaml

/-! ## 1. Merging -/

namespace Graph

def entries? (g : Graph) (id : NodeId) : Option (List (NodeId × NodeId)) :=
  match (g.node id).content with
  | .mapping entries => some entries
  | _ => none

def setEntries (g : Graph) (id : NodeId) (entries : List (NodeId × NodeId)) : Graph :=
  g.setNode id ⟨(g.node id).kind, .mapping entries⟩

/-- Sorts the keys of a mapping: whatever is to be merged in is taken out, and a key that marks a
mapping's own value becomes a text. -/
def sortKeys (g : Graph) : List (NodeId × NodeId) → Graph × List NodeId × List (NodeId × NodeId)
  | [] => (g, [], [])
  | (k, v) :: rest =>
    match (g.node k).kind with
    | .merge =>
      let (g, sources, kept) := sortKeys g rest
      (g, v :: sources, kept)
    | .default =>
      let (g, sources, kept) := sortKeys (g.setNode k ⟨.text, (g.node k).content⟩) rest
      (g, sources, (k, v) :: kept)
    | _ =>
      let (g, sources, kept) := sortKeys g rest
      (g, sources, (k, v) :: kept)

mutual

/-- Puts the entries of the mappings under merge keys in front of a mapping's own, which override
them. -/
def flatten : Nat → Graph → NodeId → Reading Graph
  | 0, g, _ => .ok g
  | fuel + 1, g, id =>
    match g.entries? id with
    | none => .ok g
    | some entries => do
      let (g, sources, kept) := g.sortKeys entries
      let (g, merged) ← mergeAll fuel (g.setEntries id kept) sources
      if merged.isEmpty then return g
      else return g.setEntries id (merged ++ (g.entries? id).getD [])

def mergeAll : Nat → Graph → List NodeId → Reading (Graph × List (NodeId × NodeId))
  | 0, g, _ => .ok (g, [])
  | _, g, [] => .ok (g, [])
  | fuel + 1, g, source :: rest => do
    let (g, entries) ← mergeOne fuel g source
    let (g, others) ← mergeAll fuel g rest
    return (g, entries ++ others)

/-- The entries that one source gives: a mapping its own, a sequence of mappings those of its last
first, so that earlier ones override later ones. -/
def mergeOne : Nat → Graph → NodeId → Reading (Graph × List (NodeId × NodeId))
  | 0, g, _ => .ok (g, [])
  | fuel + 1, g, source =>
    match (g.node source).content with
    | .mapping _ => do
      let g ← flatten fuel g source
      return (g, (g.entries? source).getD [])
    | .sequence items => do
      let (g, lists) ← mergeItems fuel g items
      return (g, lists.reverse.flatten)
    | .scalar _ => .error .malformed

def mergeItems : Nat → Graph → List NodeId → Reading (Graph × List (List (NodeId × NodeId)))
  | 0, g, _ => .ok (g, [])
  | _, g, [] => .ok (g, [])
  | fuel + 1, g, item :: rest =>
    match g.entries? item with
    | none => .error .malformed
    | some _ => do
      let g ← flatten fuel g item
      let entries := (g.entries? item).getD []
      let (g, others) ← mergeItems fuel g rest
      return (g, entries :: others)

end

def mergeBound (g : Graph) : Nat :=
  g.nodes.foldl (fun bound n =>
    match n.content with
    | .scalar _ => bound + 4
    | .sequence items => bound + 4 * (items.length + 1)
    | .mapping entries => bound + 4 * (entries.length + 1)) 4

end Graph

/-! ## 2. Filling collections -/

inductive Filling where
  | list (items : List NodeId)
  | pairs (items : List (NodeId × NodeId))
  | mapping (entries : List (Value × NodeId))
  | set (members : List Value)

inductive Progress where
  | unmet
  | scalar (value : Value)
  | opened
  | filled (filling : Filling)

structure Builder where
  graph : Graph
  /-- A bound on how deep merging can go. -/
  mergeBound : Nat
  progress : Array Progress

namespace Builder

def ofGraph (g : Graph) : Builder := ⟨g, g.mergeBound, .replicate g.nodes.size .unmet⟩

def progressOf (b : Builder) (id : NodeId) : Progress := b.progress.getD id .unmet

def advance (b : Builder) (id : NodeId) (p : Progress) : Builder :=
  { b with progress := b.progress.setIfInBounds id p }

def textOf (g : Graph) : Nat → NodeId → Reading String
  | 0, _ => .error .malformed
  | fuel + 1, id =>
    match (g.node id).content with
    | .scalar text => .ok text
    | .sequence _ => .error .malformed
    | .mapping entries =>
      match entries.find? fun e => (g.node e.1).kind = .default with
      | some (_, v) => textOf g fuel v
      | none => .error .malformed

def isCollection : Kind → Bool
  | .sequence | .mapping | .set | .orderedMapping | .pairs => true
  | _ => false

def meet (b : Builder) (id : NodeId) : Reading (Builder × List NodeId) :=
  match b.progressOf id with
  | .unmet =>
    let kind := (b.graph.node id).kind
    if isCollection kind then .ok (b.advance id .opened, [id])
    else do
      let text ← textOf b.graph (b.graph.nodes.size + 1) id
      return (b.advance id (.scalar (← scalarValue kind text)), [])
  | _ => .ok (b, [])

def meetAll (b : Builder) : List NodeId → Reading (Builder × List NodeId)
  | [] => .ok (b, [])
  | id :: rest => do
    let (b, queued) ← b.meet id
    let (b, more) ← b.meetAll rest
    return (b, queued ++ more)

/-- Meets the keys and values of a mapping.  A key must be a scalar; of equal keys the first stands
and the last value counts. -/
def meetEntries (b : Builder) (entries : List (Value × NodeId)) :
    List (NodeId × NodeId) → Reading (Builder × List (Value × NodeId) × List NodeId)
  | [] => .ok (b, entries, [])
  | (k, v) :: rest => do
    let (b, _) ← b.meet k
    match b.progressOf k with
    | .scalar key =>
      let (b, queued) ← b.meet v
      let entries :=
        if entries.any (Value.sameKey key ·.1) then
          entries.map fun e => if Value.sameKey key e.1 then (e.1, v) else e
        else entries ++ [(key, v)]
      let (b, entries, more) ← b.meetEntries entries rest
      return (b, entries, queued ++ more)
    | _ => throw .malformed

def meetPairs (b : Builder) :
    List NodeId → Reading (Builder × List (NodeId × NodeId) × List NodeId)
  | [] => .ok (b, [], [])
  | item :: rest =>
    match b.graph.entries? item with
    | some [(k, v)] => do
      let (b, first) ← b.meet k
      let (b, second) ← b.meet v
      let (b, pairs, more) ← b.meetPairs rest
      return (b, (k, v) :: pairs, first ++ second ++ more)
    | _ => .error .malformed

def fillMapping (b : Builder) (id : NodeId) :
    Reading (Builder × List (Value × NodeId) × List NodeId) := do
  let graph ← b.graph.flatten b.mergeBound id
  let b := { b with graph }
  match graph.entries? id with
  | some entries => b.meetEntries [] entries
  | none => throw .malformed

/-- Fills a collection; the collections that it meets are to be filled after all others. -/
def fill (b : Builder) (id : NodeId) : Reading (Builder × List NodeId) := do
  let node := b.graph.node id
  let put (b : Builder) (filling : Filling) : Builder := b.advance id (.filled filling)
  match node.kind, node.content with
  | .sequence, .sequence items =>
    let (b, queued) ← b.meetAll items
    return (put b (.list items), queued)
  | .mapping, _ =>
    let (b, entries, queued) ← b.fillMapping id
    return (put b (.mapping entries), queued)
  | .set, _ =>
    let (b, entries, queued) ← b.fillMapping id
    return (put b (.set (entries.map (·.1))), queued)
  | .orderedMapping, .sequence items | .pairs, .sequence items =>
    let (b, pairs, queued) ← b.meetPairs items
    return (put b (.pairs pairs), queued)
  | _, _ => throw .malformed

def fillAll (b : Builder) : Nat → List NodeId → Reading Builder
  | _, [] => .ok b
  | 0, _ => .ok b
  | fuel + 1, id :: queue => do
    let (b, queued) ← b.fill id
    b.fillAll fuel (queue ++ queued)

/-! ## 3. The value -/

/-- The value of a node.  `around` are the collections around it, from the inside out; one of them
that is met again stands for itself. -/
def valueOf (p : Runtime) (b : Builder) : Nat → (around : List (Option NodeId)) → NodeId → Value
  | 0, _, _ => .null
  | fuel + 1, around, id =>
    if around.contains (some id) then .enclosing (around.idxOf (some id))
    else
      match b.progressOf id with
      | .scalar value => value
      | .filled (.list items) => .list (items.map (valueOf p b fuel (some id :: around)))
      | .filled (.pairs items) =>
        .list (items.map fun e =>
          .tuple [valueOf p b fuel (none :: some id :: around) e.1,
            valueOf p b fuel (none :: some id :: around) e.2])
      | .filled (.mapping entries) =>
        .mapping (entries.map fun e => (e.1, valueOf p b fuel (some id :: around) e.2))
      | .filled (.set members) => .set (p.arrange members)
      | .unmet | .opened => .null

end Builder

def read (p : Runtime) (s : String) : Reading Value := do
  if p.exhausts s then throw .tooDeep
  let (root, graph) ← Graph.ofText s.toList
  match root with
  | none => return .null
  | some root =>
    let (b, queue) ← (Builder.ofGraph graph).meet root
    let b ← b.fillAll (graph.nodes.size + 1) queue
    return b.valueOf p (graph.nodes.size + 1) [] root

end PenPlotter.Yaml
