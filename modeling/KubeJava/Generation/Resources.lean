import KubeJava.Definition
import KubeJava.Generation.Resolve

set_option autoImplicit false

/-! # Types of resource definitions

Each version of a definition gives the types of its spec and status, if its schema has them, and the
class of the resource; the versions follow one another. -/

namespace KubeJava

/-- The types of a definition or a part of it, and what there was to warn about. -/
structure Generation where
  types : Generated := {}
  warnings : List Text := []
  deriving DecidableEq

def Generation.merge (a b : Generation) : Generation :=
  ⟨a.types.merge b.types, a.warnings ++ b.warnings⟩

namespace Generation

@[simp] theorem types_merge (a b : Generation) : (a.merge b).types = a.types.merge b.types := rfl

@[simp] theorem warnings_merge (a b : Generation) :
    (a.merge b).warnings = a.warnings ++ b.warnings := rfl

@[simp] theorem merge_empty (g : Generation) : g.merge {} = g := by simp [merge]

@[simp] theorem empty_merge (g : Generation) : merge {} g = g := by simp [merge]

@[simp] theorem merge_assoc (a b c : Generation) : (a.merge b).merge c = a.merge (b.merge c) := by
  simp [merge]

end Generation

def specSection : Text := "spec"

def statusSection : Text := "status"

/-- The object for a section of a version's schema. Its class is named for the kind and the
section. -/
def sectionNode (settings : Settings) (kind package name : Text) (s : Schema) : ObjectNode :=
  { name
    settings
    package := some package
    properties := s.properties.getD []
    required := s.required.getD []
    preserveUnknownFields := s.preserveUnknownFields.getD false
    affixes := ⟨kind, settings.suffix⟩
    description := s.description
    path := [kind, name] }

/-- The types of a section; a section that the schema lacks has none and is void. -/
def resolveSection (settings : Settings) (kind package name : Text) (s : Option Schema) :
    Logged GenerationError Resolved :=
  match s with
  | none => return ⟨Java.voidType, {}⟩
  | some s => (Node.object (sectionNode settings kind package name s)).resolve

/-- The properties that a version's schema has at its root. -/
def Version.properties (v : Version) : List (Text × Schema) :=
  (v.schema?.bind (·.properties)).getD []

/-- Reports a version that has no schema. -/
def reportMissingSchema (kind : Text) (v : Version) : Logged GenerationError (List Text) := do
  if v.schema?.isSome then return []
  Logged.report (.missingSchema kind v.name)
  return [Event.missingSchemaText kind v.name]

def generateVersion (settings : Settings) (d : Definition) (basePackage : Text) (v : Version) :
    Logged GenerationError Generation := do
  let kind := d.names.kind
  let package := Java.qualify (some basePackage) v.name
  let warnings ← reportMissingSchema kind v
  let spec := v.properties.lookup specSection
  let status := v.properties.lookup statusSection
  let specTypes ← resolveSection settings kind package specSection spec
  let statusTypes ← resolveSection settings kind package statusSection status
  let resource : ResourceNode :=
    { package := some package
      kind
      group := d.group
      version := v.name
      specType := specTypes.reference
      statusType := statusTypes.reference
      flags :=
        { withSpec := spec.isSome
          withStatus := status.isSome
          storage := v.storage
          served := v.served }
      namespaced := d.scope = "Namespaced" }
  let wrapper ← resource.resolve
  return ⟨(specTypes.types.merge statusTypes.types).merge wrapper.types, warnings⟩

/-- The generations of some versions, one after the other. -/
def generateVersions (settings : Settings) (d : Definition) (basePackage : Text) :
    List Version → Logged GenerationError Generation
  | [] => return {}
  | v :: rest => do
    let first ← generateVersion settings d basePackage v
    let others ← generateVersions settings d basePackage rest
    return first.merge others

/-- The types of all versions of a definition. -/
def generateDefinition (settings : Settings) (d : Definition) :
    Logged GenerationError Generation := do
  let basePackage ← Java.packageForGroup d.group
  Logged.report (.generatingDefinition d.names.kind d.group d.versions.length)
  generateVersions settings d basePackage d.versions

/-- The types of several definitions, one after the other. -/
def generateAll (settings : Settings) : List Definition → Logged GenerationError Generation
  | [] => return {}
  | d :: rest => do
    let first ← generateDefinition settings d
    let others ← generateAll settings rest
    return first.merge others

end KubeJava
