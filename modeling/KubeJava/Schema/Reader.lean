import KubeJava.Schema.Basic
import KubeJava.Validation

set_option autoImplicit false

/-! # Reading schemas

A schema is read from a mapping. Three fields are known under a second name; if both are present the
first counts and the other is kept with the unknown keywords. A mapping that lies inside itself is
no schema, and neither is one that lies too deep. -/

namespace KubeJava.Schema

/-- The names of each field, the preferred one first. -/
def fieldNames : List (List Text) :=
  [["type"], ["format"], ["description"], ["properties"], ["required"], ["items"],
    ["additionalProperties", "additional_properties"], ["enum"], ["nullable"],
    ["x-kubernetes-preserve-unknown-fields", "preserve_unknown_fields"],
    ["x-kubernetes-int-or-string", "int_or_string"]]

/-! ## Properties -/

/-- Adds a property, replacing the schema of a name that is there already. -/
def putProperty (name : Text) (s : Schema) : List (Text × Schema) → List (Text × Schema)
  | [] => [(name, s)]
  | p :: ps => if p.1 = name then (name, s) :: ps else p :: putProperty name s ps

/-- A property, its schema read by the given reading. -/
def readProperty (read : Document → Checked Schema) (e : Document × Document) :
    Checked (Text × Schema) :=
  Prod.mk <$> (e.1.readText.under (.key "[key]")).under e.1.keySegment
    <*> (read e.2).under e.1.keySegment

def readEntries (read : Document → Checked Schema) : Mapping → Checked (List (Text × Schema))
  | [] => .valid []
  | e :: es => List.cons <$> readProperty read e <*> readEntries read es

/-- The properties of an object: a mapping from names to schemas. -/
def readProperties (read : Document → Checked Schema) (d : Document) :
    Checked (List (Text × Schema)) :=
  match d.exposed with
  | .map m => (readEntries read m).map fun ps =>
    ps.foldl (fun acc p => putProperty p.1 p.2 acc) []
  | _ => .fault .dictType

/-! ## Additional properties -/

def isMapping (d : Document) : Bool :=
  match d.exposed with
  | .map _ => true
  | _ => false

/-- A truth value or a schema. Truth values and mappings are taken as what they are, all else as a
word or number for a truth value; if neither reading succeeds, the faults of both count. -/
def readAdditional (read : Document → Checked Schema) (d : Document) : Checked (Bool ⊕ Schema) :=
  match isMapping d, d.readBool, read d with
  | true, _, .valid s => .valid (.inr s)
  | _, .valid b, _ => .valid (.inl b)
  | _, .faulty _, .valid s => .valid (.inr s)
  | _, .faulty fs, .faulty gs =>
    .faulty (fs.map (Fault.under (.key "bool")) ++ gs.map (Fault.under (.key "SchemaProps")))

/-! ## Schemas -/

/-- The schema that the entries of a mapping describe, those inside it read by the given reading. -/
def readFields (read : Document → Checked Schema) (m : Mapping) : Checked Schema :=
  Schema.mk <$> Mapping.nullable m ["type"] Document.readText
    <*> Mapping.nullable m ["format"] Document.readText
    <*> Mapping.nullable m ["description"] Document.readText
    <*> Mapping.nullable m ["properties"] (readProperties read)
    <*> Mapping.nullable m ["required"] (Document.readList Document.readText)
    <*> Mapping.nullable m ["items"] read
    <*> Mapping.nullable m ["additionalProperties", "additional_properties"] (readAdditional read)
    <*> Mapping.nullable m ["enum"] (Document.readList .valid)
    <*> Mapping.nullable m ["nullable"] Document.readBool
    <*> Mapping.nullable m ["x-kubernetes-preserve-unknown-fields", "preserve_unknown_fields"]
      Document.readBool
    <*> Mapping.nullable m ["x-kubernetes-int-or-string", "int_or_string"] Document.readBool
    <*> Mapping.extrasBesides (Mapping.namesRead m fieldNames) m

/-- The schema that a document describes, with at most `depth` schemas inside one another. The
labels are those of the schemas around it. -/
def readAt : (depth : Nat) → (around : List Nat) → Document → Checked Schema
  | 0, _, _ => .fault .recursionLoop
  | depth + 1, around, d =>
    if d.label?.any around.contains then .fault .recursionLoop
    else
      d.readMapping fun m =>
        Mapping.checkingKeys m (readFields (readAt depth (d.label?.toList ++ around)) m)

/-- How many schemas a schema may hold inside one another, itself included. -/
def maxDepth : Nat := 255

/-- The schema that a document describes. -/
def read (d : Document) : Checked Schema := readAt maxDepth [] d

/-- The schema inside another document; its outermost level counts twice. -/
def readNested (d : Document) : Checked Schema := readAt (maxDepth - 1) [] d

end KubeJava.Schema
