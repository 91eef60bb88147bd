import KubeJava.Document.Basic

set_option autoImplicit false

/-! # Schemas

The part of a structural OpenAPI schema that generation reads. Keywords that have no field here are
kept beside it. -/

namespace KubeJava

structure Schema where
  type : Option Text := none
  format : Option Text := none
  description : Option Text := none
  /-- The schemas of the properties, in the order they were written. -/
  properties : Option (List (Text × Schema)) := none
  required : Option (List Text) := none
  items : Option Schema := none
  /-- Whether unnamed properties are allowed, or the schema that they have. -/
  additionalProperties : Option (Bool ⊕ Schema) := none
  enum : Option (List Document) := none
  nullable : Option Bool := none
  preserveUnknownFields : Option Bool := none
  intOrString : Option Bool := none
  extra : List (Text × Document) := []

/-- The schemas of the properties of an object, in order. -/
abbrev Properties := List (Text × Schema)

/-! ## Weight -/

mutual

/-- A measure that is larger for a schema than for all schemas directly inside it together. -/
def Schema.weight : Schema → Nat
  | ⟨_, _, _, properties, _, items, additional, _, _, _, _, _⟩ =>
    2 + propertiesWeight properties + itemsWeight items + additionalWeight additional

def propertiesWeight : Option (List (Text × Schema)) → Nat
  | none => 0
  | some ps => Properties.weight ps

def Properties.weight : List (Text × Schema) → Nat
  | [] => 0
  | p :: ps => propertyWeight p + Properties.weight ps

def propertyWeight : Text × Schema → Nat
  | (_, s) => 1 + s.weight

def itemsWeight : Option Schema → Nat
  | none => 0
  | some s => s.weight

def additionalWeight : Option (Bool ⊕ Schema) → Nat
  | none => 0
  | some a => additionalArmWeight a

def additionalArmWeight : Bool ⊕ Schema → Nat
  | .inl _ => 0
  | .inr s => s.weight

end

theorem Schema.weight_eq (s : Schema) :
    s.weight = 2 + propertiesWeight s.properties + itemsWeight s.items
      + additionalWeight s.additionalProperties := by
  cases s
  simp [Schema.weight]

theorem Schema.two_le_weight (s : Schema) : 2 ≤ s.weight := by
  rw [s.weight_eq]
  omega

end KubeJava
