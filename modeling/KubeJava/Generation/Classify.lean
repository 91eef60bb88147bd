import KubeJava.Generation.Node
import KubeJava.Generation.Shape

set_option autoImplicit false

/-! # Classification

The node for a property of an object. New object and enum types get names that no sibling has taken:
the plain name if it is free, and otherwise the plain name with the least number from 2 on that
makes it free. Siblings share their affixes, so decorated names are compared. -/

namespace KubeJava

/-- The names taken among the properties of one object. Child classes live in a package of their own
and enums inside the class, so they are counted apart. -/
structure SiblingNames where
  classes : List Text := []
  enums : List Text := []

/-- At first only the name of the owner is taken, which no enum inside it can have. -/
def SiblingNames.forOwner (className : Text) : SiblingNames := { enums := [className] }

/-- A name for a new type, bare and decorated. -/
structure ReservedName where
  bare : Text
  decorated : Text

namespace ObjectNode

/-- The name that a type with this bare name gets among the properties of the object. -/
def nestedTypeName (o : ObjectNode) (bareName : Text) : Except GenerationError Text :=
  Java.applyAffixes o.affixes o.settings false bareName

/-- The first number from `n` on with a free name, tried at most `fuel` times. -/
def numberedTypeName (o : ObjectNode) (base : Text) (used : List Text) :
    (fuel n : Nat) → Except GenerationError ReservedName
  | 0, n => do
    let bare := base ++ Text.decimal n
    return ⟨bare, ← o.nestedTypeName bare⟩
  | fuel + 1, n => do
    let bare := base ++ Text.decimal n
    let decorated ← o.nestedTypeName bare
    if used.contains decorated then o.numberedTypeName base used fuel (n + 1)
    else return ⟨bare, decorated⟩

/-- The name of the type for a property key among names that are used already. Numbering ends after
as many tries as there are used names, because numbered names differ. -/
def uniqueTypeName (o : ObjectNode) (key : Text) (used : List Text) :
    Except GenerationError ReservedName := do
  let base ← Java.typeName key
  let decorated ← o.nestedTypeName base
  if used.contains decorated then o.numberedTypeName base used used.length 2
  else return ⟨base, decorated⟩

/-! ## Children -/

/-- The object node for a property that has a class of its own. -/
def childObject (o : ObjectNode) (name : Text) (s : Schema) (path : List Text) :
    Except GenerationError ObjectNode := do
  return {
    name
    settings := o.settings
    package := some (← o.childPackage)
    properties := s.properties.getD []
    required := s.required.getD []
    preserveUnknownFields := s.preserveUnknownFields.getD false
    affixes := o.affixes
    description := s.description
    topLevel := false
    primitiveTypes := o.primitiveTypes
    path }

/-- The enum node for a property; enums live in the package of their owner. -/
def childEnum (o : ObjectNode) (name : Text) (values : List Text) (s : Schema) : EnumNode :=
  { name
    values
    settings := o.settings
    package := o.package
    affixes := o.affixes
    description := s.description
    topLevel := false }

/-- The step of a path from an array to its items. -/
def itemsStep : Text := "items"

/-- The step of a path from a map to its values. -/
def valuesStep : Text := "additionalProperties"

/-- The node for the schema of a property, at a path, and the names taken after it. -/
def classifyAt (o : ObjectNode) (key : Text) (s : Schema) (path : List Text)
    (names : SiblingNames) : Except GenerationError (Node × SiblingNames) :=
  match _h : s.shape o.typeTable with
  | .primitive javaType => .ok (.primitive javaType, names)
  | .openMap => .ok (.map (.primitive Java.objectType), names)
  | .array items => do
    let (element, names) ← o.classifyAt key items (path ++ [itemsStep]) names
    return (.array element, names)
  | .map value => do
    let (value, names) ← o.classifyAt key value (path ++ [valuesStep]) names
    return (.map value, names)
  | .object => do
    let name ← o.uniqueTypeName key names.classes
    let child ← o.childObject name.bare s path
    return (.object child, { names with classes := name.decorated :: names.classes })
  | .enum values => do
    let name ← o.uniqueTypeName key names.enums
    match textLiterals values with
    | .error value => throw (.ofEnumValue path value)
    | .ok literals =>
      return (.enum (o.childEnum name.bare literals s),
        { names with enums := name.decorated :: names.enums })
  | .unsupported reason => throw (.unsupportedSchema path reason)
termination_by s.weight
decreasing_by
  · exact Schema.weight_of_shape_array _h
  · exact Schema.weight_of_shape_map _h

/-- The node for a property, and the names taken after it. -/
def classify (o : ObjectNode) (key : Text) (s : Schema) (names : SiblingNames) :
    Except GenerationError (Node × SiblingNames) :=
  o.classifyAt key s (o.ownPath ++ [key]) names

/-! ## Smaller nodes -/

/-- A child object holds the properties of its schema and no others. -/
theorem properties_of_childObject {o child : ObjectNode} {name : Text} {s : Schema}
    {path : List Text} (h : o.childObject name s path = .ok child) :
    child.properties = s.properties.getD [] := by
  simp only [childObject, bind_eq_ok, pure_eq_ok] at h
  obtain ⟨_, _, rfl⟩ := h
  rfl

/-- The node for a schema is no larger than the schema. -/
theorem weight_of_classifyAt {o : ObjectNode} {key : Text} {s : Schema} {path : List Text}
    {names names' : SiblingNames} {child : Node}
    (h : o.classifyAt key s path names = .ok (child, names')) : child.weight ≤ s.weight := by
  fun_induction classifyAt o key s path names generalizing child names' with
  | case1 s path javaType hs =>
    cases h
    have := s.two_le_weight
    simp only [Node.weight]
    omega
  | case2 s path hs =>
    cases h
    exact s.two_le_weight
  | case3 s path items hs ih =>
    have := Schema.weight_of_shape_array hs
    simp only [bind_eq_ok, pure_eq_ok] at h
    obtain ⟨⟨element, names''⟩, he, hr⟩ := h
    cases hr
    have := ih he
    simp only [Node.weight]
    omega
  | case4 s path value hs ih =>
    have := Schema.weight_of_shape_map hs
    simp only [bind_eq_ok, pure_eq_ok] at h
    obtain ⟨⟨value, names''⟩, he, hr⟩ := h
    cases hr
    have := ih he
    simp only [Node.weight]
    omega
  | case5 s path hs =>
    simp only [bind_eq_ok, pure_eq_ok] at h
    obtain ⟨name, _, c, hc, hr⟩ := h
    cases hr
    simp only [Node.weight, properties_of_childObject hc, s.weight_eq]
    cases s.properties <;>
      simp only [propertiesWeight, Properties.weight, Option.getD_none, Option.getD_some] <;> omega
  | case6 s path values hs =>
    simp only [bind_eq_ok] at h
    obtain ⟨name, _, hr⟩ := h
    split at hr
    · cases hr
    · cases hr
      have := s.two_le_weight
      simp only [Node.weight]
      omega
  | case7 s path reason hs => cases h

end ObjectNode

end KubeJava
