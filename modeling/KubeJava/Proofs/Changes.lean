import KubeJava.Proofs.Resolution
import Mathlib.Data.List.Forall2

set_option autoImplicit false

/-! # Changes that classification cannot see

A change of the schemas, settings and packages of a node that keeps whatever dispatch and naming
look at leaves the course of a resolution as it is: both runs fail with the same error, or both give
the same types but for the packages, and the types of fields follow the packages of the classes that
they refer to. -/

namespace KubeJava

open Java (TypeTable EnumDeclaration ClassDeclaration Field)

/-! ## Outcomes of two runs -/

/-- Both runs fail with one error, or both succeed, with related results. -/
inductive SameOutcome {ε α β : Type} (R : α → β → Prop) : Except ε α → Except ε β → Prop where
  | error (e : ε) : SameOutcome R (.error e) (.error e)
  | ok {a : α} {b : β} : R a b → SameOutcome R (.ok a) (.ok b)

namespace SameOutcome

variable {ε α β γ δ : Type} {R : α → β → Prop} {S : γ → δ → Prop}

theorem bind {x : Except ε α} {y : Except ε β} {f : α → Except ε γ} {g : β → Except ε δ}
    (h : SameOutcome R x y) (hfg : ∀ a b, x = .ok a → R a b → SameOutcome S (f a) (g b)) :
    SameOutcome S (x >>= f) (y >>= g) := by
  cases h with
  | error e => exact .error e
  | ok hab => exact hfg _ _ rfl hab

theorem map {x : Except ε α} {y : Except ε β} {f : α → γ} {g : β → δ} (h : SameOutcome R x y)
    (hfg : ∀ a b, R a b → S (f a) (g b)) : SameOutcome S (x.map f) (y.map g) := by
  cases h with
  | error e => exact .error e
  | ok hab => exact .ok (hfg _ _ hab)

theorem refl (x : Except ε α) : SameOutcome (· = ·) x x := by
  cases x with
  | error e => exact .error e
  | ok a => exact .ok rfl

theorem map_right (x : Except ε α) (f : α → β) : SameOutcome (fun a b => b = f a) x (x.map f) := by
  cases x with
  | error e => exact .error e
  | ok a => exact .ok rfl

theorem mono {R' : α → β → Prop} {x : Except ε α} {y : Except ε β} (h : SameOutcome R x y)
    (himp : ∀ a b, x = .ok a → y = .ok b → R a b → R' a b) : SameOutcome R' x y := by
  cases h with
  | error e => exact .error e
  | ok hab => exact .ok (himp _ _ rfl rfl hab)

/-- The second run succeeds when the first does. -/
theorem exists_of_ok {x : Except ε α} {y : Except ε β} {a : α} (h : SameOutcome R x y)
    (hx : x = .ok a) : ∃ b, y = .ok b ∧ R a b := by
  subst hx
  cases h with
  | ok hab => exact ⟨_, rfl, hab⟩

/-- Results of which the same is seen are the same for whoever sees no more of them. -/
theorem map_eq_map {x : Except ε α} {y : Except ε β} {f : α → γ} {g : β → γ}
    (h : SameOutcome R x y) (hfg : ∀ a b, R a b → f a = g b) : x.map f = y.map g := by
  cases h with
  | error e => rfl
  | ok hab => exact congrArg Except.ok (hfg _ _ hab)

end SameOutcome

/-! ## The steps of classification and resolution -/

/-- What classification does with a schema of each shape. -/
theorem ObjectNode.classifyAt_eq (o : ObjectNode) (key : Text) (s : Schema) (path : List Text)
    (names : SiblingNames) : o.classifyAt key s path names =
      match s.shape o.typeTable with
      | .primitive javaType => .ok (.primitive javaType, names)
      | .openMap => .ok (.map (.primitive Java.objectType), names)
      | .array items => do
        let (element, names) ← o.classifyAt key items (path ++ [itemsStep]) names
        return (.array element, names)
      | .map value => do
        let (value, names) ← o.classifyAt key value (path ++ [valuesStep]) names
        return (.map value, names)
      | .object => do
        let name ← o.uniqueTypeName key names.classes
        let child ← o.childObject name.bare s path
        return (.object child, { names with classes := name.decorated :: names.classes })
      | .enum values => do
        let name ← o.uniqueTypeName key names.enums
        match textLiterals values with
        | .error value => throw (.ofEnumValue path value)
        | .ok literals =>
          return (.enum (o.childEnum name.bare literals s),
            { names with enums := name.decorated :: names.enums })
      | .unsupported reason => throw (.unsupportedSchema path reason) := by
  rw [ObjectNode.classifyAt]
  split
  case h_6 values h => cases hliterals : textLiterals values <;> simp only [h, hliterals]
  all_goals next h => simp only [h]

/-- The class of an object has a name, then its properties resolve, and the class comes last. -/
theorem ObjectNode.outcome_resolve (o : ObjectNode) : (Node.object o).resolve.outcome = do
    let className ← o.className
    let m ← (o.resolveProperties o.properties (.initial o className)).outcome
    return ⟨Java.qualify o.package className,
      m.types.withTopLevel (o.declaration className m).toRecord⟩ := by
  cases hname : o.className <;> simp [Node.resolve, typeReference, hname]

/-! ## Changes -/

/-- The shape with its schemas changed. -/
def Shape.withSchemas (f : Schema → Schema) : Shape → Shape
  | .array items => .array (f items)
  | .map value => .map (f value)
  | s => s

/-- A change of what a node is made of, and of the qualified names of classes in its packages. -/
structure NodeChange where
  schema : Schema → Schema := id
  settings : Settings → Settings := id
  package : Option Text → Option Text := id
  qualified : Text → Text := id

namespace NodeChange

variable (c : NodeChange)

def properties (ps : Properties) : Properties := ps.map fun p => (p.1, c.schema p.2)

def enum (e : EnumNode) : EnumNode :=
  { e with settings := c.settings e.settings, package := c.package e.package }

def object (o : ObjectNode) : ObjectNode :=
  { o with
    settings := c.settings o.settings
    package := c.package o.package
    properties := c.properties o.properties }

def node : Node → Node
  | .primitive javaType => .primitive javaType
  | .array element => .array (node element)
  | .map value => .map (node value)
  | .enum e => .enum (c.enum e)
  | .object o => .object (c.object o)
  | .resource r => .resource r

/-- The change keeps the dispatch on schemas, whatever else of them is used, and the policies, and
packages change as the names in them do. -/
structure Unseen (c : NodeChange) : Prop where
  shape : ∀ table s, (c.schema s).shape table = (s.shape table).withSchemas c.schema
  schemaProperties : ∀ s, (c.schema s).properties = s.properties.map c.properties
  required : ∀ s, (c.schema s).required = s.required
  preserveUnknownFields : ∀ s, (c.schema s).preserveUnknownFields = s.preserveUnknownFields
  description : ∀ s, (c.schema s).description = s.description
  enumUppercase : ∀ s, (c.settings s).enumUppercase = s.enumUppercase
  prefixPolicy : ∀ s, (c.settings s).prefixPolicy = s.prefixPolicy
  suffixPolicy : ∀ s, (c.settings s).suffixPolicy = s.suffixPolicy
  package : ∀ p name, name ≠ [] →
    c.package (some (Java.qualify p name)) = some (c.qualified (Java.qualify p name))
  qualified : ∀ p name, Java.qualify (c.package p) name = c.qualified (Java.qualify p name)

namespace Unseen

variable {c : NodeChange} (hc : c.Unseen) {o : ObjectNode}

include hc

/-! ## Names under a change -/

@[simp] theorem decorate (a : Java.Affixes) (s : Settings) (topLevel : Bool) (bare : Text) :
    Java.decorate a (c.settings s) topLevel bare = Java.decorate a s topLevel bare := by
  rw [Java.decorate, Java.decorate, hc.prefixPolicy, hc.suffixPolicy]

@[simp] theorem nestedTypeName (o : ObjectNode) (bare : Text) :
    (c.object o).nestedTypeName bare = o.nestedTypeName bare := by
  simp [ObjectNode.nestedTypeName, Java.applyAffixes, object, hc]

@[simp] theorem numberedTypeName (o : ObjectNode) (base : Text) (used : List Text) (fuel n : Nat) :
    (c.object o).numberedTypeName base used fuel n = o.numberedTypeName base used fuel n := by
  induction fuel generalizing n with
  | zero => simp [ObjectNode.numberedTypeName, hc]
  | succ fuel ih => simp [ObjectNode.numberedTypeName, hc, ih]

@[simp] theorem uniqueTypeName (o : ObjectNode) (key : Text) (used : List Text) :
    (c.object o).uniqueTypeName key used = o.uniqueTypeName key used := by
  simp [ObjectNode.uniqueTypeName, hc]

@[simp] theorem className (o : ObjectNode) : (c.object o).className = o.className := by
  simp [ObjectNode.className, ObjectNode.bareName, Java.applyAffixes, object, hc]

@[simp] theorem childObject (o : ObjectNode) (name : Text) (s : Schema) (path : List Text) :
    (c.object o).childObject name (c.schema s) path =
      (o.childObject name s path).map c.object := by
  simp only [ObjectNode.childObject, ObjectNode.childPackage, ObjectNode.bareName]
  cases hbare : Java.typeName o.name with
  | error e => simp only [object, hbare]; rfl
  | ok bare =>
    have hsegment := Java.packageSegment_of_isBareName (Java.isBareName_of_typeName hbare)
    have hpackage := hc.package o.package (Java.escapeKeyword bare.lower)
      (Java.ne_nil_of_isIdentifier (Java.isIdentifier_escapeKeyword
        (Java.hasIdentifierForm_lower (Java.isBareName_of_typeName hbare))))
    simp only [object, hbare, hsegment, ok_bind, pure, Except.pure, Except.map, hpackage,
      hc.qualified, hc.schemaProperties, hc.required, hc.preserveUnknownFields, hc.description]
    cases s.properties <;> rfl

@[simp] theorem childEnum (o : ObjectNode) (name : Text) (literals : List Text) (s : Schema) :
    (c.object o).childEnum name literals (c.schema s) = c.enum (o.childEnum name literals s) := by
  simp only [ObjectNode.childEnum, hc.description]
  rfl

/-! ## Classification under a change -/

@[simp] theorem classifyAt (o : ObjectNode) (key : Text) (s : Schema) (path : List Text)
    (names : SiblingNames) : (c.object o).classifyAt key (c.schema s) path names =
      (o.classifyAt key s path names).map (Prod.map c.node id) := by
  have htable : (c.object o).typeTable = o.typeTable := rfl
  fun_induction ObjectNode.classifyAt o key s path names with
  | case1 s path javaType hs =>
    rw [ObjectNode.classifyAt_eq, htable, hc.shape, hs]
    rfl
  | case2 s path hs =>
    rw [ObjectNode.classifyAt_eq, htable, hc.shape, hs]
    rfl
  | case3 s path items hs ih =>
    rw [ObjectNode.classifyAt_eq, htable, hc.shape, hs]
    simp only [Shape.withSchemas, ih]
    cases o.classifyAt key items (path ++ [ObjectNode.itemsStep]) names <;> rfl
  | case4 s path value hs ih =>
    rw [ObjectNode.classifyAt_eq, htable, hc.shape, hs]
    simp only [Shape.withSchemas, ih]
    cases o.classifyAt key value (path ++ [ObjectNode.valuesStep]) names <;> rfl
  | case5 s path hs =>
    rw [ObjectNode.classifyAt_eq, htable, hc.shape, hs]
    simp only [Shape.withSchemas, hc, uniqueTypeName, childObject]
    cases o.uniqueTypeName key names.classes with
    | error e => rfl
    | ok name =>
      simp only [ok_bind]
      cases o.childObject name.bare s path <;> rfl
  | case6 s path values hs =>
    rw [ObjectNode.classifyAt_eq, htable, hc.shape, hs]
    simp only [Shape.withSchemas, hc, uniqueTypeName, childEnum]
    cases o.uniqueTypeName key names.enums with
    | error e => rfl
    | ok name =>
      simp only [ok_bind]
      cases textLiterals values <;> rfl
  | case7 s path reason hs =>
    rw [ObjectNode.classifyAt_eq, htable, hc.shape, hs]
    rfl

@[simp] theorem classify (o : ObjectNode) (key : Text) (s : Schema) (names : SiblingNames) :
    (c.object o).classify key (c.schema s) names =
      (o.classify key s names).map (Prod.map c.node id) :=
  hc.classifyAt o key s _ names

end Unseen

@[simp] theorem innermost_node (n : Node) : (c.node n).innermost = c.node n.innermost := by
  induction n with
  | array element ih => exact ih
  | map value ih => exact ih
  | _ => rfl

@[simp] theorem wrap_node (n : Node) (t : Text) : (c.node n).wrap t = n.wrap t := by
  induction n with
  | array element ih => simp only [node, Node.wrap, ih]
  | map value ih => simp only [node, Node.wrap, ih]
  | _ => rfl

@[simp] theorem isEnum_node (n : Node) : (c.node n).isEnum = n.isEnum := by
  cases n <;> rfl

end NodeChange

/-! ## Types in other packages -/

section Moves

variable (c : NodeChange)

/-- The enum in its changed package. -/
def Java.EnumDeclaration.moved (e : EnumDeclaration) : EnumDeclaration :=
  { e with package := c.package e.package }

/-- The second type is the first one under a change of packages: types supplied by name and enums
keep their names, and a class among the given ones is referred to by its changed name. -/
inductive Java.TypeMoves (table : TypeTable) (enums : List EnumDeclaration)
    (types : List TypeRecord) : Text → Text → Prop where
  | supplied {t : Text} : table.Supplies t → TypeMoves table enums types t t
  | enum {e : EnumDeclaration} : e ∈ enums → TypeMoves table enums types e.name e.name
  | generated {r : TypeRecord} : r ∈ types →
      TypeMoves table enums types r.qualifiedName (c.qualified r.qualifiedName)
  | list {t t' : Text} : TypeMoves table enums types t t' →
      TypeMoves table enums types (Java.listOf t) (Java.listOf t')
  | map {t t' : Text} : TypeMoves table enums types t t' →
      TypeMoves table enums types (Java.mapOf t) (Java.mapOf t')

/-- The second field is the first one under a change of packages. -/
def Java.Field.Moves (table : TypeTable) (enums : List EnumDeclaration) (types : List TypeRecord)
    (f f' : Field) : Prop :=
  ∃ t, Java.TypeMoves c table enums types f.typeReference t ∧ f' = { f with typeReference := t }

/-- The second class is the first one under a change of packages. -/
structure Java.ClassDeclaration.Moves (table : TypeTable) (types : List TypeRecord)
    (k k' : ClassDeclaration) : Prop where
  name : k'.name = k.name
  package : k'.package = c.package k.package
  fields : List.Forall₂ (Java.Field.Moves c table k.enums types) k.fields k'.fields
  enums : k'.enums = k.enums.map (·.moved c)
  description : k'.description = k.description

/-- The second record is the first one, an enum or a class, under a change of packages. -/
inductive TypeRecord.Moves (table : TypeTable) (types : List TypeRecord) :
    TypeRecord → TypeRecord → Prop where
  | enum (e : EnumDeclaration) : Moves table types e.toRecord (e.moved c).toRecord
  | ofClass {k k' : ClassDeclaration} : k.Moves c table types k' →
      Moves table types k.toRecord k'.toRecord

/-- The second types are the first ones, in order, under a change of packages. -/
structure Generated.Moves (table : TypeTable) (g g' : Generated) : Prop where
  topLevel : List.Forall₂ (TypeRecord.Moves c table g.topLevel) g.topLevel g'.topLevel
  nested : List.Forall₂ (TypeRecord.Moves c table g.topLevel) g.nested g'.nested

variable {c} {table : TypeTable}

theorem Java.TypeMoves.mono {enums enums' : List EnumDeclaration} {types types' : List TypeRecord}
    {t t' : Text} (h : Java.TypeMoves c table enums types t t') (he : enums ⊆ enums')
    (ht : types ⊆ types') : Java.TypeMoves c table enums' types' t t' := by
  induction h with
  | supplied h => exact .supplied h
  | enum h => exact .enum (he h)
  | generated h => exact .generated (ht h)
  | list _ ih => exact .list ih
  | map _ ih => exact .map ih

theorem Java.TypeMoves.wrap {enums : List EnumDeclaration} {types : List TypeRecord} {t t' : Text}
    (h : Java.TypeMoves c table enums types t t') (n : Node) :
    Java.TypeMoves c table enums types (n.wrap t) (n.wrap t') := by
  induction n with
  | array element ih => exact .list ih
  | map value ih => exact .map ih
  | _ => exact h

theorem Java.Field.Moves.mono {enums enums' : List EnumDeclaration}
    {types types' : List TypeRecord} {f f' : Field} (he : enums ⊆ enums') (ht : types ⊆ types')
    (h : f.Moves c table enums types f') : f.Moves c table enums' types' f' := by
  obtain ⟨t, hmoves, heq⟩ := h
  exact ⟨t, hmoves.mono he ht, heq⟩

theorem TypeRecord.Moves.mono {types types' : List TypeRecord} {r r' : TypeRecord}
    (ht : types ⊆ types') (h : r.Moves c table types r') : r.Moves c table types' r' := by
  cases h with
  | enum e => exact .enum e
  | ofClass hk =>
    exact .ofClass
      { hk with fields := hk.fields.imp fun _ _ => Java.Field.Moves.mono (List.Subset.refl _) ht }

theorem Generated.Moves.merge {g g' h h' : Generated} (hg : g.Moves c table g')
    (hh : h.Moves c table h') : (g.merge h).Moves c table (g'.merge h') := by
  have hleft : g.topLevel ⊆ (g.merge h).topLevel := List.subset_append_left _ _
  have hright : h.topLevel ⊆ (g.merge h).topLevel := List.subset_append_right _ _
  constructor
  · exact List.rel_append (hg.topLevel.imp fun _ _ => TypeRecord.Moves.mono hleft)
      (hh.topLevel.imp fun _ _ => TypeRecord.Moves.mono hright)
  · exact List.rel_append (hg.nested.imp fun _ _ => TypeRecord.Moves.mono hleft)
      (hh.nested.imp fun _ _ => TypeRecord.Moves.mono hright)

@[simp] theorem Java.EnumDeclaration.enum?_toRecord (e : EnumDeclaration) :
    e.toRecord.declaration.enum? = some e := rfl

@[simp] theorem Java.ClassDeclaration.enum?_toRecord (k : ClassDeclaration) :
    k.toRecord.declaration.enum? = none := rfl

/-- The enums among records change as these do. -/
theorem filterMap_enum?_of_moves {types rs rs' : List TypeRecord}
    (h : List.Forall₂ (TypeRecord.Moves c table types) rs rs') :
    (rs'.filterMap fun r => r.declaration.enum?) =
      (rs.filterMap fun r => r.declaration.enum?).map (·.moved c) := by
  induction h with
  | nil => rfl
  | cons hr _ ih =>
    cases hr with
    | enum e => simp [ih]
    | ofClass hk => simp [List.filterMap_cons, ih]

/-- The second result is the first one under a change of packages, where the reference may be to one
of the given enums. -/
structure Resolved.Moves (c : NodeChange) (table : TypeTable)
    (enums : List EnumDeclaration) (r r' : Resolved) : Prop where
  reference : Java.TypeMoves c table enums r.types.topLevel r.reference r'.reference
  types : r.types.Moves c table r'.types

/-- The second state is the first one under a change of packages. -/
structure Members.Moves (c : NodeChange) (table : TypeTable) (m m' : Members) :
    Prop where
  names : m'.names = m.names
  fieldNames : m'.fieldNames = m.fieldNames
  types : m.types.Moves c table m'.types
  fields : List.Forall₂ (Java.Field.Moves c table m.enums m.types.topLevel) m.fields m'.fields
  enums : m'.enums = m.enums.map (·.moved c)

end Moves

/-! ## Resolution under a change -/

namespace NodeChange

variable {c : NodeChange}

@[simp] theorem embeddedEnums_innermost (n : Node) (r : Resolved) :
    embeddedEnums n.innermost r = embeddedEnums n r := by
  have hinner : n.innermost.innermost = n.innermost := by
    induction n with
    | array element ih => exact ih
    | map value ih => exact ih
    | _ => rfl
  rw [embeddedEnums, embeddedEnums, hinner]

theorem embeddedEnums_node {table : TypeTable} {child : Node} {r r' : Resolved}
    (h : r.types.Moves c table r'.types) :
    embeddedEnums (c.node child) r' = (embeddedEnums child r).map (·.moved c) := by
  simp only [embeddedEnums, innermost_node, isEnum_node, filterMap_enum?_of_moves h.nested]
  split <;> simp

/-- The classes of an object and of the changed one, with members that move. -/
theorem moves_declaration {o : ObjectNode} {className : Text} {m m' : Members}
    (hm : m.Moves c o.typeTable m') :
    (o.declaration className m).Moves c o.typeTable m.types.topLevel
      ((c.object o).declaration className m') := by
  refine ⟨rfl, rfl, List.rel_append hm.fields ?_, hm.enums, rfl⟩
  change List.Forall₂ _ (if o.preserveUnknownFields then [catchAll] else [])
    (if o.preserveUnknownFields then [catchAll] else [])
  split
  · exact .cons ⟨_, .map (.supplied (.inr (.inr (.inl rfl)))), rfl⟩ .nil
  · exact .nil

namespace Unseen

variable (hc : c.Unseen) {o : ObjectNode} {table : TypeTable}

include hc

@[simp] theorem enumConstants (s : Settings) (used literals : List Text) :
    KubeJava.enumConstants (c.settings s) used literals =
      KubeJava.enumConstants s used literals := by
  induction literals generalizing used with
  | nil => rfl
  | cons value rest ih => simp only [KubeJava.enumConstants, hc.enumUppercase, ih]

theorem resolve_enum (e : EnumNode) :
    SameOutcome (fun r r' => r.Moves c table (embeddedEnums (.enum e) r) r')
      (Node.enum e).resolve.outcome (Node.enum (c.enum e)).resolve.outcome := by
  have hname : (c.enum e).typeReference = e.typeReference := by
    simp [EnumNode.typeReference, Java.applyAffixes, enum, hc]
  have hconstants := hc.enumConstants e.settings [Java.enumValueField] e.values
  rw [Node.resolve, Node.resolve, EnumNode.outcome_resolve, EnumNode.outcome_resolve, hname]
  refine (SameOutcome.refl _).bind fun name _ _ hn => ?_
  subst hn
  have hsame : SameOutcome (· = ·)
      (KubeJava.enumConstants e.settings [Java.enumValueField] e.values)
      (KubeJava.enumConstants (c.settings e.settings) [Java.enumValueField] e.values) :=
    hconstants ▸ .refl _
  refine hsame.bind fun constants _ _ hk => ?_
  subst hk
  refine .ok ⟨.enum (e := e.declaration name constants) ?_, .nil, ?_⟩
  · exact List.mem_singleton_self _
  · exact .cons (.enum (e.declaration name constants)) .nil

/-- The nodes for a property resolve alike if the objects among them do. -/
theorem resolve_child {key : Text} {s : Schema} {names names' : SiblingNames} {child : Node}
    (hchild : o.classify key s names = .ok (child, names'))
    (ih : ∀ d, child.innermost = .object d →
      SameOutcome (fun r r' => r.Moves c d.typeTable [] r')
        (Node.object d).resolve.outcome (Node.object (c.object d)).resolve.outcome) :
    SameOutcome (fun r r' => r.Moves c o.typeTable (embeddedEnums child r) r')
      child.resolve.outcome (c.node child).resolve.outcome := by
  obtain ⟨steps, t, -, hcl⟩ := ObjectNode.classified_of_classifyAt hchild
  -- The innermost nodes resolve alike, and the lists and maps around both are the same.
  have hinner : SameOutcome
      (fun r r' => r.Moves c o.typeTable (embeddedEnums child.innermost r) r')
      child.innermost.resolve.outcome (c.node child.innermost).resolve.outcome := by
    generalize child.innermost = inner at hcl ih
    cases hcl with
    | primitive _ supplied =>
      simp only [node, Node.resolve, Logged.outcome_pure]
      exact .ok ⟨.supplied supplied, .nil, .nil⟩
    | enum => exact hc.resolve_enum _
    | object _ _ hobject =>
      obtain ⟨package, -, rfl⟩ := ObjectNode.childObject_eq_ok.1 hobject
      exact ih _ rfl
  rw [child.outcome_resolve, (c.node child).outcome_resolve, innermost_node]
  refine hinner.map fun r r' h => ⟨?_, h.types⟩
  have henums : embeddedEnums child ⟨child.wrap r.reference, r.types⟩ =
      embeddedEnums child.innermost r := (embeddedEnums_innermost child r).symm
  rw [wrap_node, henums]
  exact h.reference.wrap child

/-- A property is added alike. -/
theorem add {m m' : Members} {key : Text} {s : Schema} {child : Node} {names : SiblingNames}
    {r r' : Resolved} (hm : m.Moves c table m')
    (hr : r.Moves c table (embeddedEnums child r) r') :
    SameOutcome (Members.Moves c table) (m.add o key s child names r)
      (m'.add (c.object o) key (c.schema s) (c.node child) names r') := by
  simp only [Members.add, hm.fieldNames, hc.description]
  refine (SameOutcome.refl (Java.fieldName key)).bind fun candidate _ _ hcandidate => ?_
  subst hcandidate
  have htop : m.types.topLevel ⊆ (m.types.merge r.types).topLevel := List.subset_append_left _ _
  have htop' : r.types.topLevel ⊆ (m.types.merge r.types).topLevel :=
    List.subset_append_right _ _
  refine .ok ⟨rfl, rfl, hm.types.merge hr.types, ?_, ?_⟩
  · refine List.rel_append (hm.fields.imp fun _ _ =>
      Java.Field.Moves.mono (List.subset_append_left _ _) htop) (.cons ⟨r'.reference, ?_, rfl⟩ .nil)
    exact hr.reference.mono (List.subset_append_right _ _) htop'
  · rw [embeddedEnums_node hr.types, hm.enums, List.map_append]

/-- Properties resolve alike if the objects among them do. -/
theorem resolveProperties {ps : Properties} {m m' : Members}
    (hm : m.Moves c o.typeTable m')
    (ih : ∀ key s names child names' d, (key, s) ∈ ps →
      o.classify key s names = .ok (child, names') → child.innermost = .object d →
      SameOutcome (fun r r' => r.Moves c d.typeTable [] r')
        (Node.object d).resolve.outcome (Node.object (c.object d)).resolve.outcome) :
    SameOutcome (Members.Moves c o.typeTable) (o.resolveProperties ps m).outcome
      ((c.object o).resolveProperties (c.properties ps) m').outcome := by
  induction ps generalizing m m' with
  | nil =>
    simpa [properties] using SameOutcome.ok hm
  | cons p rest ihrest =>
    obtain ⟨key, s⟩ := p
    rw [properties, List.map_cons, ObjectNode.outcome_resolveProperties_cons,
      ObjectNode.outcome_resolveProperties_cons, hc.classify, hm.names]
    refine (SameOutcome.map_right _ _).bind fun ⟨child, names⟩ _ hchild heq => ?_
    subst heq
    have hresolve := hc.resolve_child hchild fun d hinner =>
      ih key s m.names child names d List.mem_cons_self hchild hinner
    refine hresolve.bind fun r r' _ hr => ?_
    refine (hc.add hm hr).bind fun m₁ m₁' _ hm₁ => ?_
    exact ihrest hm₁ fun key s names child names' d hp => ih key s names child names' d
      (List.mem_cons_of_mem _ hp)

/-- The results of an object and of the changed one, with members that move. -/
theorem withTopLevel {className : Text} {m m' : Members}
    (hm : m.Moves c o.typeTable m') :
    Resolved.Moves c o.typeTable []
      ⟨Java.qualify o.package className,
        m.types.withTopLevel (o.declaration className m).toRecord⟩
      ⟨Java.qualify (c.package o.package) className,
        m'.types.withTopLevel ((c.object o).declaration className m').toRecord⟩ := by
  have hsub : m.types.topLevel ⊆
      (m.types.withTopLevel (o.declaration className m).toRecord).topLevel :=
    List.subset_append_left _ _
  rw [hc.qualified]
  refine ⟨.generated (r := (o.declaration className m).toRecord) ?_, ?_, ?_⟩
  · exact List.mem_append_right _ List.mem_cons_self
  · exact List.rel_append (hm.types.topLevel.imp fun _ _ => TypeRecord.Moves.mono hsub)
      (.cons (.mono hsub (.ofClass (moves_declaration hm))) .nil)
  · exact hm.types.nested.imp fun _ _ => TypeRecord.Moves.mono hsub

/-- An object and the changed one resolve alike. -/
theorem resolve (o : ObjectNode) : SameOutcome (fun r r' => r.Moves c o.typeTable [] r')
    (Node.object o).resolve.outcome (Node.object (c.object o)).resolve.outcome := by
  -- Objects among the properties are smaller.
  induction hw : (Node.object o).weight using Nat.strongRecOn generalizing o with
  | ind w ih =>
    rw [ObjectNode.outcome_resolve, ObjectNode.outcome_resolve, hc.className]
    refine (SameOutcome.refl o.className).bind fun className _ _ hname => ?_
    subst hname
    refine (hc.resolveProperties (m := .initial o className) ⟨rfl, rfl, ⟨.nil, .nil⟩, .nil, rfl⟩
      fun key s names child names' d hp hchild hinner => ?_).bind fun m m' _ hm => ?_
    · exact ih _ (hw ▸ ObjectNode.weight_lt_of_classify hp hchild hinner) d rfl
    · exact .ok (hc.withTopLevel hm)

end Unseen

end NodeChange

end KubeJava
