import KubeJava.Document.Basic

set_option autoImplicit false

/-! # Heaps

Collections that share parts or hold themselves, each an object with a number, and the documents
that they stand for. A document is a tree: a part that several objects share is given to each of
them, and an object that leads into a cycle is labelled with its number, so that it can be named
inside itself. -/

namespace KubeJava.Yaml

/-- The number of an object. -/
abbrev ObjectId := Nat

/-- A scalar, or a collection by its number. -/
inductive Value where
  | scalar (d : Document)
  | object (id : ObjectId)
  deriving Repr

inductive Object where
  | list (items : List Value)
  | tuple (items : List Value)
  | map (entries : List (Document × Value))
  | set (members : List Document)
  deriving Repr

abbrev Heap := Array Object

/-! ## Documents -/

/-- Whether a value leads into a cycle. -/
def isLooped : Document → Bool
  | .cyclic .. | .within _ => true
  | _ => false

/-- A document, and the objects around its place that it names. -/
abbrev Unfolded := Document × List ObjectId

/-- The documents of objects that name nothing around them. -/
abbrev Unfolding := StateM (Array (Option Document))

/-- The object with the values of its parts. -/
def objectDocument (part : Value → Unfolding Unfolded) : Object → Unfolding Unfolded
  | .list items => do
    let parts ← items.mapM part
    return (.list (parts.map Prod.fst), parts.flatMap Prod.snd)
  | .tuple items => do
    let parts ← items.mapM part
    return (.tuple (parts.map Prod.fst), parts.flatMap Prod.snd)
  | .map entries => do
    let parts ← entries.mapM fun e => do return (e.1, ← part e.2)
    return (.map (parts.map fun p => (p.1, p.2.1)), parts.flatMap fun p => p.2.2)
  | .set members => return (.set members, [])

/-- Whether a part of a collection leads into a cycle. -/
def hasLoopedPart : Document → Bool
  | .list items | .tuple items => items.any isLooped
  | .map entries => entries.any fun e => isLooped e.2
  | _ => false

/-- The document of a value inside the objects around it. The fuel bounds how deep objects lie
inside each other; as none lies inside itself without being named, their number is enough. -/
def unfold (heap : Heap) : (fuel : Nat) → (around : List ObjectId) → Value → Unfolding Unfolded
  | _, _, .scalar d => return (d, [])
  | 0, _, .object _ => return (.null, [])
  | fuel + 1, around, .object id => do
    if around.contains id then return (.within id, [id])
    match (← get).getD id none with
    | some d => return (d, [])
    | none =>
      let (body, named) ← objectDocument (unfold heap fuel (id :: around)) (heap.getD id (.set []))
      let d := if hasLoopedPart body then .cyclic id body else body
      let named := named.filter (· ≠ id)
      if named.isEmpty then modify fun known => known.set! id (some d)
      return (d, named.eraseDups)

/-- The document that a value stands for. -/
def Heap.document (heap : Heap) (v : Value) : Document :=
  let known := Array.replicate heap.size none
  ((unfold heap (heap.size + 1) [] v).run known).1.1

end KubeJava.Yaml
