import KubeJava.Generation.Result
import KubeJava.Java.TypeTable
import KubeJava.Schema.Basic

set_option autoImplicit false

/-! # Nodes

A node is a type still to be generated: a Java type by name, a list or map of another node, an enum,
an object with the schemas of its properties, or the resource itself. -/

namespace KubeJava

open Java (Affixes TypeTable)

/-- A closed set of text literals. -/
structure EnumNode where
  name : Text
  values : List Text
  settings : Settings := {}
  package : Option Text := none
  affixes : Affixes := {}
  description : Option Text := none
  topLevel : Bool := true

/-- An object, whose class holds a field for each property. Objects among the properties go into a
package named for this object, so that classes of one name met on different paths stay apart. -/
structure ObjectNode where
  name : Text
  settings : Settings := {}
  package : Option Text := none
  properties : List (Text × Schema) := []
  required : List Text := []
  preserveUnknownFields : Bool := false
  affixes : Affixes := {}
  description : Option Text := none
  topLevel : Bool := true
  /-- The types of primitive schemas; without any, the standard ones. -/
  primitiveTypes : TypeTable := []
  path : List Text := []

/-- The class of the resource, put together from the types of its spec and status. -/
structure ResourceNode where
  package : Option Text
  kind : Text
  group : Text
  version : Text
  specType : Text
  statusType : Text
  flags : Java.ResourceFlags
  namespaced : Bool := false

inductive Node where
  | primitive (typeName : Text)
  | array (element : Node)
  | map (value : Node)
  | enum (e : EnumNode)
  | object (o : ObjectNode)
  | resource (r : ResourceNode)

/-! ## Names -/

namespace EnumNode

/-- The name of the enum, by which its owner refers to it. -/
def typeReference (e : EnumNode) : Except GenerationError Text := do
  Java.applyAffixes e.affixes e.settings e.topLevel (← Java.typeName e.name)

end EnumNode

namespace ObjectNode

/-- The name of the object without affixes. -/
def bareName (o : ObjectNode) : Except GenerationError Text := Java.typeName o.name

def className (o : ObjectNode) : Except GenerationError Text := do
  Java.applyAffixes o.affixes o.settings o.topLevel (← o.bareName)

def typeReference (o : ObjectNode) : Except GenerationError Text := do
  return Java.qualify o.package (← o.className)

/-- The package of the objects among the properties. -/
def childPackage (o : ObjectNode) : Except GenerationError Text := do
  return Java.qualify o.package (← Java.packageSegment (← o.bareName))

/-- The types in force for primitive schemas. -/
def typeTable (o : ObjectNode) : TypeTable :=
  if o.primitiveTypes.isEmpty then Java.standardTypes else o.primitiveTypes

/-- The path of the object in reports: the one it was given, or else its name. -/
def ownPath (o : ObjectNode) : List Text := if o.path.isEmpty then [o.name] else o.path

end ObjectNode

namespace ResourceNode

def typeReference (r : ResourceNode) : Except GenerationError Text := do
  return Java.qualify r.package (← Java.ensureIdentifier r.kind r.kind)

end ResourceNode

namespace Node

/-- The Java type that a field declares when it holds the node. -/
def typeReference : Node → Except GenerationError Text
  | .primitive typeName => .ok typeName
  | .array element => do return Java.listOf (← element.typeReference)
  | .map value => do return Java.mapOf (← value.typeReference)
  | .enum e => e.typeReference
  | .object o => o.typeReference
  | .resource r => r.typeReference

/-- The node inside all lists and maps. -/
def innermost : Node → Node
  | .array element => element.innermost
  | .map value => value.innermost
  | n => n

def isEnum : Node → Bool
  | .enum _ => true
  | _ => false

/-- A measure that bounds the work of resolving a node. -/
def weight : Node → Nat
  | .primitive _ | .enum _ | .resource _ => 1
  | .array element => 1 + element.weight
  | .map value => 1 + value.weight
  | .object o => 2 + Properties.weight o.properties

end Node

end KubeJava
