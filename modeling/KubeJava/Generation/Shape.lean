import KubeJava.Generation.Error
import KubeJava.Java.TypeTable
import KubeJava.Schema.Basic

set_option autoImplicit false

/-! # Shapes of schemas

The kind of node that a schema stands for, decided by the schema and the table of primitive types
alone. -/

namespace KubeJava

inductive Shape where
  /-- A value of a Java type given by name. -/
  | primitive (javaType : Text)
  | array (items : Schema)
  | map (value : Schema)
  /-- A map whose values are not described. -/
  | openMap
  /-- An object with a class of its own. -/
  | object
  /-- One of the listed literals. -/
  | enum (values : List Document)
  | unsupported (reason : UnsupportedReason)

/-- The shape of a schema that describes an object: without properties of its own it is a map, if it
says what its values are. -/
def Schema.objectShape (s : Schema) : Shape :=
  if (s.properties.getD []).isEmpty then
    match s.additionalProperties with
    | some (.inr value) => .map value
    | some (.inl true) => .openMap
    | _ => .object
  else .object

/-- The shape of a schema that is neither an array nor an object. -/
def Schema.scalarShape (table : Java.TypeTable) (s : Schema) : Shape :=
  match s.type with
  | none =>
    if s.preserveUnknownFields = some true then .primitive Java.anyType
    else .unsupported .noType
  | some type =>
    if type = "string" ∧ s.enum.isSome then .enum (s.enum.getD [])
    else
      match table.lookup type s.format with
      | some javaType => .primitive javaType
      | none => .unsupported (.unknownType type)

def Schema.shape (table : Java.TypeTable) (s : Schema) : Shape :=
  if s.intOrString = some true then .primitive Java.intOrStringType
  else if s.type = some ("array" : Text) then
    match s.items with
    | some items => .array items
    | none => .unsupported .arrayWithoutItems
  else if s.type = some ("object" : Text) ∨ (s.type = none ∧ s.properties.isSome) then s.objectShape
  else s.scalarShape table

/-! ## Smaller schemas -/

theorem Schema.weight_of_shape_array {table : Java.TypeTable} {s items : Schema}
    (h : s.shape table = .array items) : items.weight < s.weight := by
  rw [s.weight_eq]
  unfold Schema.shape at h
  split at h
  · cases h
  · split at h
    · split at h <;> cases h
      rename_i he
      simp only [he, itemsWeight]
      omega
    · split at h
      · unfold Schema.objectShape at h
        repeat' split at h
        all_goals cases h
      · unfold Schema.scalarShape at h
        repeat' split at h
        all_goals cases h

theorem Schema.weight_of_shape_map {table : Java.TypeTable} {s value : Schema}
    (h : s.shape table = .map value) : value.weight < s.weight := by
  rw [s.weight_eq]
  unfold Schema.shape at h
  split at h
  · cases h
  · split at h
    · split at h <;> cases h
    · split at h
      · unfold Schema.objectShape at h
        split at h
        · split at h <;> cases h
          rename_i he
          simp only [he, additionalWeight, additionalArmWeight]
          omega
        · cases h
      · unfold Schema.scalarShape at h
        repeat' split at h
        all_goals cases h

/-! ## Literals -/

/-- The text literals among the values of an enum, where null only marks that the value may be
absent; or the first value that is neither text nor null. -/
def textLiterals : List Document → Except Document (List Text)
  | [] => .ok []
  | .null :: rest => textLiterals rest
  | .str t :: rest => (textLiterals rest).map (t :: ·)
  | d :: _ => .error d

end KubeJava
