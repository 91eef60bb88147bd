import KubeJava.Proofs.Numbering

set_option autoImplicit false

/-! # What classification gives

The dispatch on a schema passes through arrays and maps down to one schema that is neither, and the
node for a property is the node of that schema inside as many lists and maps: a Java type that the
table or the classification itself supplies, an enum, or an object, each of the latter with a name
reserved for it. -/

namespace KubeJava

open Java (TypeTable)

/-! ## Types supplied by name -/

/-- The Java types that a schema can have without a type being generated for it. -/
def Java.TypeTable.Supplies (table : TypeTable) (javaType : Text) : Prop :=
  javaType = Java.intOrStringType ∨ javaType = Java.anyType ∨ javaType = Java.objectType ∨
    ∃ type format, table.get? type format = some javaType

theorem Java.TypeTable.supplies_of_lookup {table : TypeTable} {type javaType : Text}
    {format : Option Text} (h : table.lookup type format = some javaType) :
    table.Supplies javaType := by
  rw [TypeTable.lookup, Option.or_eq_some_iff, Option.bind_eq_some_iff] at h
  rcases h with ⟨f, -, h⟩ | ⟨-, h⟩
  · exact .inr (.inr (.inr ⟨type, some f, h⟩))
  · exact .inr (.inr (.inr ⟨type, none, h⟩))

theorem Schema.supplies_of_shape_primitive {table : TypeTable} {s : Schema} {javaType : Text}
    (h : s.shape table = .primitive javaType) : table.Supplies javaType := by
  unfold Schema.shape at h
  split at h
  · cases h
    exact .inl rfl
  · split at h
    · split at h <;> cases h
    · split at h
      · unfold Schema.objectShape at h
        repeat' split at h
        all_goals cases h
      · unfold Schema.scalarShape at h
        split at h
        · split at h <;> cases h
          exact .inr (.inl rfl)
        · split at h
          · cases h
          · split at h <;> cases h
            next hl => exact Java.TypeTable.supplies_of_lookup hl

/-! ## Dispatch -/

/-- The dispatch on the first schema goes on to the second, by the given steps of a path. -/
inductive Schema.LeadsTo (table : TypeTable) : Schema → List Text → Schema → Prop where
  | here (s : Schema) : LeadsTo table s [] s
  | items {s items t : Schema} {steps : List Text} : s.shape table = .array items →
      LeadsTo table items steps t → LeadsTo table s (ObjectNode.itemsStep :: steps) t
  | value {s value t : Schema} {steps : List Text} : s.shape table = .map value →
      LeadsTo table value steps t → LeadsTo table s (ObjectNode.valuesStep :: steps) t

/-- From the property `key` with the first schema, the second schema is visited as part of the
property `k`: through items and values, and through the properties of objects. -/
inductive Schema.Visits (table : TypeTable) : Text → Schema → Text → Schema → Prop where
  | here (key : Text) (s : Schema) : Visits table key s key s
  | items {key k : Text} {s items t : Schema} : s.shape table = .array items →
      Visits table key items k t → Visits table key s k t
  | value {key k : Text} {s value t : Schema} : s.shape table = .map value →
      Visits table key value k t → Visits table key s k t
  | property {key name k : Text} {s p t : Schema} : s.shape table = .object →
      (name, p) ∈ s.properties.getD [] → Visits table name p k t → Visits table key s k t

/-- The schemas that the dispatch reaches from the properties of an object. -/
def ObjectNode.Visits (o : ObjectNode) (k : Text) (t : Schema) : Prop :=
  ∃ p ∈ o.properties, Schema.Visits o.typeTable p.1 p.2 k t

theorem Schema.LeadsTo.visits {table : TypeTable} {s t : Schema} {steps : List Text} (key : Text)
    (h : s.LeadsTo table steps t) : Schema.Visits table key s key t := by
  induction h with
  | here s => exact .here key s
  | items hs _ ih => exact .items hs ih
  | value hs _ ih => exact .value hs ih

theorem Schema.Visits.trans {table : TypeTable} {key k l : Text} {s t u : Schema}
    (h : Schema.Visits table key s k t) (h' : Schema.Visits table k t l u) :
    Schema.Visits table key s l u := by
  induction h with
  | here => exact h'
  | items hs _ ih => exact .items hs (ih h')
  | value hs _ ih => exact .value hs (ih h')
  | property hs hp _ ih => exact .property hs hp (ih h')

namespace ObjectNode

variable {o : ObjectNode} {key : Text} {s t : Schema} {path : List Text}
  {names names' : SiblingNames} {child : Node}

/-! ## The innermost node -/

/-- What the node for a schema that is neither an array nor a map can be, and which names are taken
after it. -/
inductive Classified (o : ObjectNode) (key : Text) (t : Schema) (path : List Text)
    (names : SiblingNames) : Node → SiblingNames → Prop where
  | primitive {javaType : Text} :
      t.shape o.typeTable = .primitive javaType ∨ t.shape o.typeTable = .openMap →
      o.typeTable.Supplies javaType → Classified o key t path names (.primitive javaType) names
  | enum {values : List Document} {literals : List Text} {name : ReservedName} :
      t.shape o.typeTable = .enum values → o.uniqueTypeName key names.enums = .ok name →
      textLiterals values = .ok literals →
      Classified o key t path names (.enum (o.childEnum name.bare literals t))
        { names with enums := name.decorated :: names.enums }
  | object {name : ReservedName} {c : ObjectNode} :
      t.shape o.typeTable = .object → o.uniqueTypeName key names.classes = .ok name →
      o.childObject name.bare t path = .ok c →
      Classified o key t path names (.object c)
        { names with classes := name.decorated :: names.classes }

theorem classified_of_classifyAt (h : o.classifyAt key s path names = .ok (child, names')) :
    ∃ steps t, s.LeadsTo o.typeTable steps t ∧
      o.Classified key t (path ++ steps) names child.innermost names' := by
  fun_induction classifyAt o key s path names generalizing child names' with
  | case1 s path javaType hs =>
    cases h
    exact ⟨[], s, .here s, .primitive (.inl hs) (Schema.supplies_of_shape_primitive hs)⟩
  | case2 s path hs =>
    cases h
    exact ⟨[], s, .here s, .primitive (.inr hs) (.inr (.inr (.inl rfl)))⟩
  | case3 s path items hs ih =>
    simp only [bind_eq_ok, pure_eq_ok] at h
    obtain ⟨⟨element, taken⟩, he, hr⟩ := h
    cases hr
    obtain ⟨steps, t, hlead, hcl⟩ := ih he
    exact ⟨itemsStep :: steps, t, .items hs hlead, by simpa [Node.innermost] using hcl⟩
  | case4 s path value hs ih =>
    simp only [bind_eq_ok, pure_eq_ok] at h
    obtain ⟨⟨element, taken⟩, he, hr⟩ := h
    cases hr
    obtain ⟨steps, t, hlead, hcl⟩ := ih he
    exact ⟨valuesStep :: steps, t, .value hs hlead, by simpa [Node.innermost] using hcl⟩
  | case5 s path hs =>
    simp only [bind_eq_ok, pure_eq_ok] at h
    obtain ⟨name, hname, c, hc, hr⟩ := h
    cases hr
    exact ⟨[], s, .here s, .object hs hname (by simpa using hc)⟩
  | case6 s path values hs =>
    simp only [bind_eq_ok] at h
    obtain ⟨name, hname, hr⟩ := h
    split at hr
    · cases hr
    · next literals hl =>
      cases hr
      exact ⟨[], s, .here s, .enum hs hname hl⟩
  | case7 s path reason hs => cases h

/-- The object node for a schema, once its package is known. -/
def childIn (o : ObjectNode) (package name : Text) (s : Schema) (path : List Text) : ObjectNode :=
  { name
    settings := o.settings
    package := some package
    properties := s.properties.getD []
    required := s.required.getD []
    preserveUnknownFields := s.preserveUnknownFields.getD false
    affixes := o.affixes
    description := s.description
    topLevel := false
    primitiveTypes := o.primitiveTypes
    path }

@[simp] theorem childObject_eq_ok {name : Text} {c : ObjectNode} : o.childObject name s path = .ok c ↔
    ∃ package, o.childPackage = .ok package ∧ o.childIn package name s path = c := by
  simp only [childObject, bind_eq_ok, pure_eq_ok]
  exact Iff.rfl

end ObjectNode

/-! ## The innermost node is no larger -/

theorem Node.weight_innermost_le (n : Node) : n.innermost.weight ≤ n.weight := by
  induction n with
  | array element ih =>
    simp only [Node.innermost, Node.weight]
    omega
  | map value ih =>
    simp only [Node.innermost, Node.weight]
    omega
  | _ => simp [Node.innermost]

theorem weight_lt_of_mem_properties {ps : Properties} {key : Text} {s : Schema}
    (h : (key, s) ∈ ps) : s.weight < Properties.weight ps := by
  induction ps with
  | nil => cases h
  | cons p rest ih =>
    rcases List.mem_cons.1 h with rfl | h
    · simp only [Properties.weight, propertyWeight]
      omega
    · have := ih h
      simp only [Properties.weight]
      omega

end KubeJava
