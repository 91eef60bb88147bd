import KubeJava.Proofs.FreeNames
import KubeJava.Proofs.Resolution

set_option autoImplicit false

/-! # Fields of a class

The class of an object has one field for each property, in order, and after them the one that holds
all other properties if the object keeps those. Names of fields are told apart by a number, and a
numbered name is not checked again: it is an identifier because no keyword but the lone underscore
has an underscore, and because a key with a line feed after it, which passes as an identifier, is
never numbered as long as no other property has the same key. -/

namespace KubeJava

namespace ObjectNode

variable {o : ObjectNode} {ps : Properties} {names : SiblingNames} {used : List Text}
  {members : List Member} {r : Resolved}

/-- The name of a field is given out for the name that is derived from the key. -/
theorem Collects.exists_fieldName_eq (h : o.Collects ps names used members) :
    ∀ m ∈ members, ∃ candidate taken, Java.fieldName m.key = .ok candidate ∧
      m.fieldName = Java.uniqueName candidate taken := by
  induction h with
  | nil => simp
  | cons _ _ hfield _ ih => exact List.forall_mem_cons.2 ⟨⟨_, _, hfield, rfl⟩, ih⟩

/-- The names of fields are given out in turn for the names that the keys lead to. -/
theorem Collects.exists_map_fieldName (h : o.Collects ps names used members) :
    ∃ candidates, List.Forall₂ (fun p candidate => Java.fieldName p.1 = .ok candidate)
        ps candidates ∧
      members.map (·.fieldName) = Java.uniqueNames used candidates := by
  induction h with
  | nil => exact ⟨[], .nil, rfl⟩
  | @cons key s rest names names' used child core candidate members _ _ hfield _ ih =>
    obtain ⟨candidates, hall, heq⟩ := ih
    refine ⟨candidate :: candidates, .cons hfield hall, ?_⟩
    rw [List.map_cons, heq, Java.uniqueNames]

/-- No two fields have one name, and none has a name that was taken before. -/
theorem Collects.nodup_fieldNames (h : o.Collects ps names used members) :
    (members.map (·.fieldName)).Nodup ∧ ∀ m ∈ members, m.fieldName ∉ used := by
  obtain ⟨candidates, -, heq⟩ := h.exists_map_fieldName
  obtain ⟨hnodup, hfree⟩ := Java.nodup_uniqueNames used candidates
  rw [← heq] at hnodup hfree
  exact ⟨hnodup, fun m hm => hfree _ (List.mem_map_of_mem hm)⟩

/-- The names of fields are identifiers if no two properties have one key; a name with a line feed
that is taken before must not be a key either. -/
theorem Collects.isIdentifier_fieldName (h : o.Collects ps names used members)
    (hkeys : (ps.map Prod.fst).Nodup)
    (hused : ∀ t ∈ used, ('\n' : CodePoint) ∈ t → t ∉ ps.map Prod.fst) :
    ∀ m ∈ members, Java.isIdentifier m.fieldName = true := by
  induction h with
  | nil => simp
  | @cons key s rest names names' used child core candidate members _ _ hfield _ ih =>
    obtain ⟨hid, hchars⟩ := Java.isIdentifier_of_fieldName hfield
    rw [List.map_cons, List.nodup_cons] at hkeys
    obtain ⟨hkey, hkeys⟩ := hkeys
    have hold : ∀ t ∈ used, ('\n' : CodePoint) ∈ t → t ≠ key ∧ t ∉ rest.map Prod.fst :=
      fun t ht hfeed => by simpa using hused t ht hfeed
    -- A candidate with a line feed is the key itself.
    have hfeed : ('\n' : CodePoint) ∈ candidate → candidate = key := fun hmem =>
      hchars.resolve_right fun hall => Java.lineFeed_not_mem_of_constantChars hall hmem
    rw [List.forall_mem_cons]
    rcases Java.uniqueName_cases candidate used with ⟨-, heq⟩ | ⟨hmem, n, heq, -⟩
    · rw [heq] at ih ⊢
      refine ⟨hid, ih hkeys (List.forall_mem_cons.2 ⟨fun h => ?_, fun t ht h => (hold t ht h).2⟩)⟩
      rwa [hfeed h]
    · have hnone : ('\n' : CodePoint) ∉ candidate := fun h => (hold _ hmem h).1 (hfeed h)
      rw [heq] at ih ⊢
      refine ⟨Java.isIdentifier_numbered hid hnone n,
        ih hkeys (List.forall_mem_cons.2 ⟨fun h => ?_, fun t ht h => (hold t ht h).2⟩)⟩
      have hform := Java.hasIdentifierForm_numbered hid hnone n
      exact absurd h (Java.not_mem_of_hasIdentifierForm hform (by decide))

/-! ## Fields for properties -/

/-- The field holds the property, whose schema is classified as the child. -/
structure Holds (o : ObjectNode) (key : Text) (s : Schema) (child : Node) (f : Java.Field) :
    Prop where
  jsonName : f.jsonName = some key
  required : f.required = true ↔ key ∈ o.required
  description : f.description = s.description
  typeReference : ∃ types, child.resolve.outcome = .ok ⟨f.typeReference, types⟩
  catchAll : f.catchAll = false

/-- One field for each property, in order. Each property is classified under the names of types that
those before it leave. -/
inductive FieldsFor (o : ObjectNode) : Properties → SiblingNames → List Java.Field → Prop where
  | nil (names : SiblingNames) : FieldsFor o [] names []
  | cons {key : Text} {s : Schema} {rest : Properties} {names names' : SiblingNames}
      {child : Node} {f : Java.Field} {fields : List Java.Field} :
      o.classify key s names = .ok (child, names') → o.Holds key s child f →
      FieldsFor o rest names' fields → FieldsFor o ((key, s) :: rest) names (f :: fields)

theorem Collects.fieldsFor (h : o.Collects ps names used members) :
    o.FieldsFor ps names (members.map (·.field o)) := by
  induction h with
  | nil names used => exact .nil names
  | cons hc hcore _ _ ih =>
    refine .cons hc ⟨rfl, ?_, rfl, ⟨_, Node.resolve_eq_ok.2 ⟨_, hcore, rfl⟩⟩, rfl⟩ ih
    simp [Member.field]

/-! ## The class -/

/-- The names of all fields, the one for other properties last. -/
@[simp] theorem fieldNames_classOf (o : ObjectNode) (className : Text) (members : List Member) :
    (o.classOf className members).fieldNames =
      members.map (·.fieldName) ++ o.reservedFieldNames := by
  rw [classOf, Java.ClassDeclaration.fieldNames, List.map_append, List.map_map, reservedFieldNames]
  congr 1
  split <;> rfl

theorem nodup_fieldNames_classOf
    (h : o.Collects ps names o.reservedFieldNames members) (className : Text) :
    (o.classOf className members).fieldNames.Nodup := by
  obtain ⟨hnodup, hfree⟩ := h.nodup_fieldNames
  rw [fieldNames_classOf, List.nodup_append]
  refine ⟨hnodup, by rw [reservedFieldNames]; split <;> simp, fun name hname t ht heq => ?_⟩
  obtain ⟨m, hm, rfl⟩ := List.mem_map.1 hname
  exact hfree m hm (heq ▸ ht)

theorem isIdentifier_of_mem_fieldNames_classOf (hkeys : (ps.map Prod.fst).Nodup)
    (h : o.Collects ps names o.reservedFieldNames members) (className : Text) :
    ∀ name ∈ (o.classOf className members).fieldNames, Java.isIdentifier name = true := by
  have hreserved : ∀ t ∈ o.reservedFieldNames, t = catchAllField := by
    rw [reservedFieldNames]
    split <;> simp
  rw [fieldNames_classOf, List.forall_mem_append, List.forall_mem_map]
  refine ⟨h.isIdentifier_fieldName hkeys fun t ht hfeed => ?_, fun t ht => ?_⟩
  · rw [hreserved t ht] at hfeed
    exact absurd hfeed (by decide)
  · rw [hreserved t ht]
    decide

end ObjectNode

/-- Looked up by its name each field is found, if no two have one name. -/
theorem Java.ClassDeclaration.getField?_name {c : Java.ClassDeclaration}
    (h : c.fieldNames.Nodup) : ∀ f ∈ c.fields, c.getField? f.name = some f := by
  intro f hf
  obtain ⟨before, after, hsplit⟩ := List.append_of_mem hf
  rw [getField?, List.find?_eq_some_iff_append]
  refine ⟨by simp, before, after, hsplit, fun g hg => ?_⟩
  rw [fieldNames, hsplit, List.map_append, List.nodup_append] at h
  have hne := h.2.2 g.name (List.mem_map_of_mem hg) f.name (by simp)
  simpa using hne

namespace ObjectNode

variable {o : ObjectNode} {r : Resolved}

/-- The class that an object resolves to ends its types and represents its properties: one field
for each, in order, then the one for all other properties if those are kept. The names of the fields
are distinct identifiers, and each field is found by its name. The properties come from a mapping, so
no two have one key. -/
theorem fields_of_resolve (hkeys : (o.properties.map Prod.fst).Nodup)
    (h : (Node.object o).resolve.outcome = .ok r) :
    ∃ (className : Text) (c : Java.ClassDeclaration) (fields : List Java.Field),
      o.className = .ok className ∧ r.types.topLevel.getLast? = some c.toRecord ∧
        c.fields = fields ++ (if o.preserveUnknownFields then [catchAll] else []) ∧
        o.FieldsFor o.properties (.forOwner className) fields ∧
        c.fieldNames.Nodup ∧ (∀ name ∈ c.fieldNames, Java.isIdentifier name = true) ∧
        ∀ f ∈ c.fields, c.getField? f.name = some f := by
  obtain ⟨className, members, hname, hmembers, rfl⟩ := resolve_eq_ok.1 h
  have hnodup := nodup_fieldNames_classOf hmembers className
  exact ⟨className, o.classOf className members, members.map (·.field o), hname,
    by simp [assembled], rfl, hmembers.fieldsFor, hnodup,
    isIdentifier_of_mem_fieldNames_classOf hkeys hmembers className,
    Java.ClassDeclaration.getField?_name hnodup⟩

/-- Keys that are keywords, start with digits, give one name together or have the name of the field
for all other properties. -/
theorem fields_of_resolve_clashes :
    let text : Schema := { type := some "string" }
    let o : ObjectNode :=
      { name := "spec"
        preserveUnknownFields := true
        required := ["1st"]
        properties := [("class", text), ("1st", text), ("foo-bar", text), ("fooBar", text),
          ("fooBar_2", text), ("additionalProperties", text)] }
    (o.properties.map Prod.fst).Nodup ∧ ∃ r, (Node.object o).resolve.outcome = .ok r ∧
      ∃ (className : Text) (c : Java.ClassDeclaration) (fields : List Java.Field),
        o.className = .ok className ∧ r.types.topLevel.getLast? = some c.toRecord ∧
          c.fields = fields ++ (if o.preserveUnknownFields then [catchAll] else []) ∧
          o.FieldsFor o.properties (.forOwner className) fields ∧
          c.fieldNames.Nodup ∧ (∀ name ∈ c.fieldNames, Java.isIdentifier name = true) ∧
          ∀ f ∈ c.fields, c.getField? f.name = some f := by
  intro text o
  have hkeys : (o.properties.map Prod.fst).Nodup := by decide
  obtain ⟨r, hr, -⟩ : ∃ r, (Node.object o).resolve.outcome = .ok r ∧ true = true :=
    exists_eq_ok (f := fun _ => true) (by decide +kernel)
  exact ⟨hkeys, r, hr, fields_of_resolve hkeys hr⟩

end ObjectNode

end KubeJava
