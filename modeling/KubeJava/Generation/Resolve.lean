import KubeJava.Generation.Classify
import KubeJava.Generation.Log
import KubeJava.Java.Source

set_option autoImplicit false

/-! # Resolution

The types that a node stands for. An object resolves its properties in order, each with all types
below it, and then contributes its own class, so every type comes after those it refers to. -/

namespace KubeJava

/-- A resolved node: the Java type to refer to it by, and the types generated for it. -/
structure Resolved where
  reference : Text
  types : Generated := {}

/-! ## Enums and resources -/

/-- The constants for literals, each named apart from the names in `used` and from those before. -/
def enumConstants (settings : Settings) :
    (used : List Text) → List Text → Except GenerationError (List Java.EnumConstant)
  | _, [] => .ok []
  | used, value :: rest => do
    let candidate ← Java.enumConstant value settings.enumUppercase
    let identifier := Java.uniqueName candidate used
    let constants ← enumConstants settings (identifier :: used) rest
    return ⟨identifier, value⟩ :: constants

def Java.EnumDeclaration.toRecord (e : Java.EnumDeclaration) : TypeRecord :=
  ⟨e.name, e.package, .ofEnum e, Java.renderEnum e⟩

def Java.ClassDeclaration.toRecord (c : Java.ClassDeclaration) : TypeRecord :=
  ⟨c.name, c.package, .ofClass c, Java.renderClass c⟩

def Java.ResourceDeclaration.toRecord (r : Java.ResourceDeclaration) : TypeRecord :=
  ⟨r.name, r.package, .ofResource r, Java.renderResource r⟩

/-- The enum itself is the only type of an enum node. No constant may have the name of the field
that every enum declares. -/
def EnumNode.resolve (e : EnumNode) : Logged GenerationError Resolved := do
  let name ← e.typeReference
  if e.values.isEmpty then Logged.report (.emptyEnum name)
  let constants ← enumConstants e.settings [Java.enumValueField] e.values
  let declaration : Java.EnumDeclaration :=
    { name, package := e.package, constants, description := e.description }
  return ⟨name, Generated.empty.withNested declaration.toRecord⟩

def ResourceNode.resolve (r : ResourceNode) : Except GenerationError Resolved := do
  let name ← Java.ensureIdentifier r.kind r.kind
  let declaration : Java.ResourceDeclaration :=
    { name
      package := r.package
      group := r.group
      version := r.version
      specType := r.specType
      statusType := r.statusType
      flags := r.flags
      namespaced := r.namespaced }
  return ⟨← r.typeReference, Generated.empty.withTopLevel declaration.toRecord⟩

/-! ## Objects -/

/-- The name of the field that holds all properties without a field. -/
def catchAllField : Text := "additionalProperties"

/-- What has been collected from the properties of an object so far. -/
structure Members where
  names : SiblingNames
  fieldNames : List Text
  types : Generated := {}
  fields : List Java.Field := []
  enums : List Java.EnumDeclaration := []

/-- Before the first property only reserved names are taken. -/
def Members.initial (o : ObjectNode) (className : Text) : Members :=
  { names := SiblingNames.forOwner className
    fieldNames := if o.preserveUnknownFields then [catchAllField] else [] }

/-- The enums that a property brings into the class of its owner. -/
def embeddedEnums (child : Node) (resolved : Resolved) : List Java.EnumDeclaration :=
  if child.innermost.isEnum then
    resolved.types.nested.filterMap fun r => r.declaration.enum?
  else []

/-- Adds a resolved property: its types, its enums and its field. -/
def Members.add (m : Members) (o : ObjectNode) (key : Text) (s : Schema) (child : Node)
    (names : SiblingNames) (resolved : Resolved) : Except GenerationError Members := do
  let name := Java.uniqueName (← Java.fieldName key) m.fieldNames
  let field : Java.Field :=
    { name
      jsonName := some key
      typeReference := resolved.reference
      required := o.required.contains key
      description := s.description }
  return {
    names
    fieldNames := name :: m.fieldNames
    types := m.types.merge resolved.types
    fields := m.fields ++ [field]
    enums := m.enums ++ embeddedEnums child resolved }

def catchAll : Java.Field :=
  { name := catchAllField
    jsonName := none
    typeReference := Java.mapOf Java.objectType
    catchAll := true }

/-- The class of an object with the given members. -/
def ObjectNode.declaration (o : ObjectNode) (className : Text) (m : Members) :
    Java.ClassDeclaration :=
  { name := className
    package := o.package
    fields := m.fields ++ (if o.preserveUnknownFields then [catchAll] else [])
    enums := m.enums
    description := o.description }

/-! ## Nodes -/

mutual

def Node.resolve (n : Node) : Logged GenerationError Resolved :=
  match n with
  | .primitive typeName => return ⟨typeName, {}⟩
  | .array element => do
    let resolved ← element.resolve
    return ⟨Java.listOf resolved.reference, resolved.types⟩
  | .map value => do
    let resolved ← value.resolve
    return ⟨Java.mapOf resolved.reference, resolved.types⟩
  | .enum e => e.resolve
  | .resource r => r.resolve
  | .object o => do
    let reference ← o.typeReference
    Logged.report (.resolvingObject reference)
    let className ← o.className
    let members ← o.resolveProperties o.properties (.initial o className)
    let declaration := o.declaration className members
    return ⟨reference, members.types.withTopLevel declaration.toRecord⟩
termination_by n.weight
decreasing_by
  all_goals simp only [Node.weight]; omega

/-- The members that an object has after some more of its properties. -/
def ObjectNode.resolveProperties (o : ObjectNode) (properties : List (Text × Schema))
    (members : Members) : Logged GenerationError Members :=
  match properties with
  | [] => return members
  | (key, s) :: rest =>
    match _h : o.classify key s members.names with
    | .error e => Logged.fail e
    | .ok (child, names) => do
      let resolved ← child.resolve
      let members ← members.add o key s child names resolved
      o.resolveProperties rest members
termination_by Properties.weight properties
decreasing_by
  · have := ObjectNode.weight_of_classifyAt _h
    simp only [Properties.weight, propertyWeight]
    omega
  · simp only [Properties.weight, propertyWeight]
    omega

end

end KubeJava
