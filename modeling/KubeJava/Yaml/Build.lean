import KubeJava.Yaml.Graph
import KubeJava.Yaml.Heap
import KubeJava.Yaml.Scalar

set_option autoImplicit false

/-! # Building values

The values of node graphs. A scalar has its value at once. A collection is an object that is filled
later, in the order in which objects are met, so it may hold itself. Of two entries of a mapping
with one key the later value stands in the place of the earlier. -/

namespace KubeJava.Yaml

structure BuildState where
  /-- The values of the nodes met so far. -/
  values : Array (Option Value)
  heap : Heap := #[]
  /-- The objects to fill, each with its node. -/
  pending : Array (ObjectId × NodeId) := #[]

abbrev Build := StateT BuildState Merging

namespace Build

def problem {α : Type} (p : Problem) : Build α := fun _ _ => .error p

def malformed {α : Type} : Build α := problem .malformed

def nodeOf (id : NodeId) : Build Node := do
  let g : Graph ← getThe Graph
  return g.node id

/-! ## Scalars -/

/-- The text of a scalar; a mapping has that of its value under a lone equals sign, which may again
be a mapping, at most `fuel` times. -/
def scalarText (g : Graph) : (fuel : Nat) → NodeId → Reading Text
  | 0, _ => .error .endlessScalar
  | fuel + 1, id =>
    match (g.node id).content with
    | .scalar text => .ok text
    | .sequence _ => .error .malformed
    | .mapping entries =>
      match entries.find? fun e => (g.node e.1).tag = Tag.value with
      | some (_, source) => scalarText g fuel source
      | none => .error .malformed

def scalarValue (g : Graph) (id : NodeId) (read : Text → Reading Document) : Reading Document := do
  let text ← scalarText g (g.size + 1) id
  let n := g.node id
  match n.content with
  | .scalar _ => read text
  | _ => if n.tag = Tag.timestamp then throw .timestampOfMapping else read text

/-! ## Values -/

def collectionTags : List String := [Tag.seq, Tag.map, Tag.omap, Tag.pairs, Tag.set]

/-- A new object that is yet to be filled. -/
def newObject (id : NodeId) : Build Value :=
  modifyGet fun s =>
    let object := s.heap.size
    (.object object,
      { s with heap := s.heap.push (.list []), pending := s.pending.push (object, id) })

def newValue (id : NodeId) : Build Value := do
  let tag := (← nodeOf id).tag
  match scalarReadings.lookup tag with
  | some read =>
    match scalarValue (← getThe Graph) id read with
    | .ok d => return .scalar d
    | .error p => problem p
  | none => if collectionTags.contains tag then newObject id else malformed

def value (id : NodeId) : Build Value := do
  match (← get).values.getD id none with
  | some v => return v
  | none =>
    let v ← newValue id
    modify fun s => { s with values := s.values.set! id (some v) }
    return v

/-! ## Collections -/

/-- A tuple of its own. -/
def newTuple (items : List Value) : Build Value :=
  modifyGet fun s => (.object s.heap.size, { s with heap := s.heap.push (.tuple items) })

/-- The entries of a mapping, in which a collection cannot be a key. -/
def entriesFrom : List (NodeId × NodeId) → List (Document × Value) →
    Build (List (Document × Value))
  | [], found => return found
  | (k, v) :: rest, found => do
    match ← value k with
    | .object _ => malformed
    | .scalar key => entriesFrom rest (Mapping.put key (← value v) found)

/-- The only entry of a mapping, as a tuple. -/
def singleEntry (id : NodeId) : Build Value := do
  match (← nodeOf id).content with
  | .mapping [(k, v)] =>
    let key ← value k
    newTuple [key, ← value v]
  | _ => malformed

/-- The object of a collection; the fuel is for its merge keys. -/
def objectOf (fuel : Nat) (id : NodeId) : Build Object := do
  let n ← nodeOf id
  if n.tag = Tag.map then return .map (← entriesFrom (← Merging.flattened fuel id) [])
  else if n.tag = Tag.set then
    let found ← entriesFrom (← Merging.flattened fuel id) []
    return .set (Document.ascending (found.map Prod.fst))
  else
    match n.content with
    | .sequence items =>
      if n.tag = Tag.seq then return .list (← items.mapM value)
      else return .list (← items.mapM singleEntry)
    | _ => malformed

/-- Fills the objects from a position on; every one that this brings up is filled in its turn. -/
def fillFrom (merges : Nat) : (fuel : Nat) → (position : Nat) → Build Unit
  | 0, _ => return
  | fuel + 1, position => do
    match (← get).pending[position]? with
    | none => return
    | some (object, id) =>
      let filled ← objectOf merges id
      modify fun s => { s with heap := s.heap.set! object filled }
      fillFrom merges fuel (position + 1)

end Build

/-- The document with the given nodes and root. There is at most one object to fill for a node. -/
def build (g : Graph) (root : NodeId) : Reading Document := do
  let building : Build Value := do
    let v ← Build.value root
    Build.fillFrom (g.mergeCount + 1) (g.size + 1) 0
    return v
  let ((v, state), _) ← (building.run { values := Array.replicate g.size none }).run g
  return state.heap.document v

end KubeJava.Yaml
