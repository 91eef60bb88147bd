import KubeJava.Yaml.Cursor
import KubeJava.Yaml.Form

set_option autoImplicit false

/-! # Node graphs

The nodes that a document is written with: scalars, sequences and mappings, each with its tag. An
alias makes one node the child of several others, or of itself, so nodes are referred to by number.

Merge keys are resolved on this level. A mapping takes over the entries of the mappings under its
merge keys; they come before its own, so that its own entries win. -/

namespace KubeJava.Yaml

/-- The number of a node, in the order in which nodes are met. -/
abbrev NodeId := Nat

inductive Content where
  | scalar (text : Text)
  | sequence (items : List NodeId)
  | mapping (entries : List (NodeId × NodeId))
  deriving DecidableEq, Repr

structure Node where
  tag : String
  content : Content
  deriving DecidableEq, Repr

abbrev Graph := Array Node

namespace Graph

/-- A node by its number. -/
def node (g : Graph) (id : NodeId) : Node := g.getD id ⟨Tag.null, .scalar ""⟩

def setContent (g : Graph) (id : NodeId) (content : Content) : Graph :=
  g.modify id fun n => { n with content }

def setTag (g : Graph) (id : NodeId) (tag : String) : Graph := g.modify id fun n => { n with tag }

/-- Whether a node is a key that takes over entries. -/
def isMergeKey (g : Graph) (id : NodeId) : Bool := (g.node id).tag = Tag.merge

/-- The number of merge keys in a node. -/
def mergesIn (g : Graph) (n : Node) : Nat :=
  match n.content with
  | .mapping entries => entries.countP fun e => g.isMergeKey e.1
  | _ => 0

/-- The number of merge keys in all nodes. -/
def mergeCount (g : Graph) : Nat := g.foldl (fun sum n => sum + g.mergesIn n) 0

end Graph

/-! ## Merge keys -/

abbrev Merging := StateT Graph Reading

namespace Merging

def malformed {α : Type} : Merging α := fun _ => .error .malformed

def entries (id : NodeId) : Merging (List (NodeId × NodeId)) := do
  match ((← get).node id).content with
  | .mapping es => return es
  | _ => malformed

/-- Takes the first merge key out of a mapping and gives the node under it. -/
def takeMerge? (id : NodeId) : Merging (Option NodeId) := do
  let g ← get
  let es ← entries id
  match es.find? fun e => g.isMergeKey e.1 with
  | none => return none
  | some (_, source) =>
    set (g.setContent id (.mapping (es.eraseP fun e => g.isMergeKey e.1)))
    return some source

/-- The entries that a node under a merge key contributes: those of a mapping, or of a sequence of
mappings, the last one first. -/
def contributed (flattened : NodeId → Merging (List (NodeId × NodeId))) (source : NodeId) :
    Merging (List (NodeId × NodeId)) := do
  match ((← get).node source).content with
  | .sequence items => return (← items.mapM flattened).reverse.flatten
  | _ => flattened source

/-- Takes the merge keys out of a mapping, at most `fuel` of them, and gives what they contribute.
-/
def takeMerges (flattened : NodeId → Merging (List (NodeId × NodeId))) (id : NodeId) :
    (fuel : Nat) → Merging (List (NodeId × NodeId))
  | 0 => return []
  | fuel + 1 => do
    match ← takeMerge? id with
    | none => return []
    | some source => return (← contributed flattened source) ++ (← takeMerges flattened id fuel)

/-- As a key, a lone equals sign is text. -/
def keepAsText (id : NodeId) : Merging Unit := do
  if ((← get).node id).tag = Tag.value then modify fun g => g.setTag id Tag.str

/-- Resolves the merge keys of a mapping and gives its entries. The fuel bounds how far merge keys
lead from one mapping to the next; each of them is taken out before it is followed, so their number
is enough. -/
def flattened : (fuel : Nat) → NodeId → Merging (List (NodeId × NodeId))
  | 0, id => entries id
  | fuel + 1, id => do
    let merged ← takeMerges (flattened fuel) id (← entries id).length
    let own ← entries id
    own.forM fun e => keepAsText e.1
    if !merged.isEmpty then modify fun g => g.setContent id (.mapping (merged ++ own))
    return merged ++ own

end Merging

end KubeJava.Yaml
