import KubeJava.Schema.Reader

set_option autoImplicit false

/-! # Resource definitions

A custom resource definition: the group, kind and scope of a resource and the schema of each of its
versions. Keys that have no field here are dropped. -/

namespace KubeJava

structure ResourceNames where
  kind : Text
  plural : Option Text := none
  singular : Option Text := none

/-- The holder of a version's schema. -/
structure SchemaHolder where
  openAPI : Option Schema := none

structure Version where
  name : Text
  served : Bool := true
  storage : Bool := false
  validation : Option SchemaHolder := none

structure Definition where
  apiVersion : Text
  group : Text
  names : ResourceNames
  scope : Text := "Namespaced"
  versions : List Version := []

/-- The kind of document that defines a custom resource. -/
def Definition.documentKind : Text := "CustomResourceDefinition"

/-- The schema of a version, if it has one. -/
def Version.schema? (v : Version) : Option Schema := v.validation.bind (·.openAPI)

/-! ## Reading -/

def ResourceNames.read : Document → Checked ResourceNames :=
  Document.readMapping fun m =>
    ResourceNames.mk <$> Mapping.required m ["kind"] Document.readText
      <*> Mapping.nullable m ["plural"] Document.readText
      <*> Mapping.nullable m ["singular"] Document.readText

def SchemaHolder.read : Document → Checked SchemaHolder :=
  Document.readMapping fun m =>
    SchemaHolder.mk <$> Mapping.nullable m ["openAPIV3Schema", "open_api_v3_schema"]
      Schema.readNested

def Version.read : Document → Checked Version :=
  Document.readMapping fun m =>
    Version.mk <$> Mapping.required m ["name"] Document.readText
      <*> Mapping.optional m ["served"] true Document.readBool
      <*> Mapping.optional m ["storage"] false Document.readBool
      <*> Mapping.nullable m ["schema", "validation"] SchemaHolder.read

namespace Definition

/-- The fields of the `spec` block. -/
def readSpec (apiVersion : Text) : Document → Checked Definition :=
  Document.readMapping fun m =>
    Definition.mk apiVersion <$> Mapping.required m ["group"] Document.readText
      <*> Mapping.required m ["names"] ResourceNames.read
      <*> Mapping.optional m ["scope"] "Namespaced" Document.readText
      <*> Mapping.optional m ["versions"] [] (Document.readList Version.read)

def readKind : Document → Checked Unit
  | .str t =>
    if t.hasSurrogate then .fault .stringUnicode
    else if t = documentKind then .valid ()
    else .fault .literalError
  | _ => .fault .literalError

def read : Document → Checked Definition :=
  Document.readMapping fun m =>
    (fun (apiVersion : Text) (_ : Unit) (d : Definition) => { d with apiVersion })
      <$> Mapping.required m ["apiVersion", "api_version"] Document.readText
      <*> Mapping.required m ["kind"] readKind
      <*> Mapping.required m ["spec"] (readSpec [])

end Definition

end KubeJava
