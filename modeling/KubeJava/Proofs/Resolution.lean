import KubeJava.Generation.Resolve
import KubeJava.Proofs.Classification

set_option autoImplicit false

/-! # What resolution gives

A node resolves as its innermost node does, with its lists and maps around the reference. An object
resolves exactly if its properties can be collected one after the other, and its result is then
assembled from theirs. Facts about whole trees follow by the induction at the end, in which the
objects among the properties are the smaller cases. -/

namespace KubeJava

/-! ## Lists and maps -/

/-- A Java type inside the lists and maps of a node. -/
def Node.wrap : Node → Text → Text
  | .array element, t => Java.listOf (element.wrap t)
  | .map value, t => Java.mapOf (value.wrap t)
  | _, t => t

/-- A value that evaluation finds is an outcome. -/
theorem exists_eq_ok {ε α β : Type} {x : Except ε α} {f : α → β} {b : β}
    (h : x.toOption.map f = some b) : ∃ a, x = .ok a ∧ f a = b := by
  cases x with
  | error e => cases h
  | ok a => exact ⟨a, rfl, Option.some.inj h⟩

@[simp] theorem outcome_liftM {ε α : Type} (x : Except ε α) : (liftM x : Logged ε α).outcome = x := rfl

/-- Lists and maps change nothing but the reference. -/
theorem Node.outcome_resolve (n : Node) : n.resolve.outcome =
    n.innermost.resolve.outcome.map fun r => ⟨n.wrap r.reference, r.types⟩ := by
  -- Nodes that are neither lists nor maps are their own innermost nodes.
  have keep : ∀ x : Except GenerationError Resolved,
      x = x.map fun r => ⟨r.reference, r.types⟩ := fun x => by cases x <;> rfl
  induction n with
  | array element ih =>
    rw [Node.resolve, Logged.outcome_bind, ih, Node.innermost]
    cases element.innermost.resolve.outcome <;> rfl
  | map value ih =>
    rw [Node.resolve, Logged.outcome_bind, ih, Node.innermost]
    cases value.innermost.resolve.outcome <;> rfl
  | _ => exact keep _

theorem Node.resolve_eq_ok {n : Node} {r : Resolved} : n.resolve.outcome = .ok r ↔
    ∃ core, n.innermost.resolve.outcome = .ok core ∧ r = ⟨n.wrap core.reference, core.types⟩ := by
  rw [Node.outcome_resolve]
  cases n.innermost.resolve.outcome with
  | error e => simp [Except.map]
  | ok core => simp [Except.map, eq_comm]

@[simp] theorem Node.resolve_primitive_eq_ok {javaType : Text} {r : Resolved} :
    (Node.primitive javaType).resolve.outcome = .ok r ↔ r = ⟨javaType, {}⟩ := by
  simp [Node.resolve, eq_comm]

/-! ## Enums -/

/-- The enum with its name and constants. -/
def EnumNode.declaration (e : EnumNode) (name : Text) (constants : List Java.EnumConstant) :
    Java.EnumDeclaration :=
  { name, package := e.package, constants, description := e.description }

theorem EnumNode.outcome_resolve (e : EnumNode) : e.resolve.outcome = do
    let name ← e.typeReference
    let constants ← enumConstants e.settings [Java.enumValueField] e.values
    return ⟨name, ⟨[], [(e.declaration name constants).toRecord]⟩⟩ := by
  rw [EnumNode.resolve, Logged.outcome_bind, outcome_liftM]
  congr 1
  funext name
  -- Whether the empty enum is reported or not, what follows is the same.
  split
  all_goals simp [declaration, Generated.empty, Generated.withNested]

theorem EnumNode.resolve_eq_ok {e : EnumNode} {r : Resolved} : e.resolve.outcome = .ok r ↔
    ∃ name constants, e.typeReference = .ok name ∧
      enumConstants e.settings [Java.enumValueField] e.values = .ok constants ∧
      r = ⟨name, ⟨[], [(e.declaration name constants).toRecord]⟩⟩ := by
  simp only [EnumNode.outcome_resolve, bind_eq_ok, pure_eq_ok]
  constructor
  · rintro ⟨name, hname, constants, hconstants, rfl⟩
    exact ⟨name, constants, hname, hconstants, rfl⟩
  · rintro ⟨name, constants, hname, hconstants, rfl⟩
    exact ⟨name, hname, constants, hconstants, rfl⟩

/-! ## Objects -/

/-- A property of an object, classified and resolved. -/
structure Member where
  key : Text
  schema : Schema
  child : Node
  /-- What the innermost node of the child gives. -/
  core : Resolved
  fieldName : Text

namespace Member

def resolved (m : Member) : Resolved := ⟨m.child.wrap m.core.reference, m.core.types⟩

/-- The field for the property in the class of its owner. -/
def field (o : ObjectNode) (m : Member) : Java.Field :=
  { name := m.fieldName
    jsonName := some m.key
    typeReference := m.resolved.reference
    required := o.required.contains m.key
    description := m.schema.description }

def enums (m : Member) : List Java.EnumDeclaration := embeddedEnums m.child m.resolved

end Member

namespace ObjectNode

variable {o : ObjectNode} {ps : Properties} {names : SiblingNames} {used : List Text}
  {members : List Member}

/-- The members for some properties, one after the other, when `names` and `used` are taken. -/
inductive Collects (o : ObjectNode) :
    Properties → SiblingNames → List Text → List Member → Prop where
  | nil (names : SiblingNames) (used : List Text) : Collects o [] names used []
  | cons {key : Text} {s : Schema} {rest : Properties} {names names' : SiblingNames}
      {used : List Text} {child : Node} {core : Resolved} {candidate : Text}
      {members : List Member} :
      o.classify key s names = .ok (child, names') →
      child.innermost.resolve.outcome = .ok core →
      Java.fieldName key = .ok candidate →
      Collects o rest names' (Java.uniqueName candidate used :: used) members →
      Collects o ((key, s) :: rest) names used
        (⟨key, s, child, core, Java.uniqueName candidate used⟩ :: members)

/-- The field names that are taken before the first property. -/
def reservedFieldNames (o : ObjectNode) : List Text :=
  if o.preserveUnknownFields then [catchAllField] else []

/-- The class with the fields and enums of the members. -/
def classOf (o : ObjectNode) (className : Text) (members : List Member) : Java.ClassDeclaration :=
  { name := className
    package := o.package
    fields := members.map (·.field o) ++ (if o.preserveUnknownFields then [catchAll] else [])
    enums := members.flatMap (·.enums)
    description := o.description }

/-- The types of all members, and after them the class of the object. -/
def assembled (o : ObjectNode) (className : Text) (members : List Member) : Resolved :=
  ⟨Java.qualify o.package className,
    ⟨members.flatMap (·.core.types.topLevel) ++ [(o.classOf className members).toRecord],
      members.flatMap (·.core.types.nested)⟩⟩

/-- The second state is the first one with some members added. -/
structure Extends (o : ObjectNode) (m : Members) (members : List Member) (m' : Members) :
    Prop where
  topLevel : m'.types.topLevel = m.types.topLevel ++ members.flatMap (·.core.types.topLevel)
  nested : m'.types.nested = m.types.nested ++ members.flatMap (·.core.types.nested)
  fields : m'.fields = m.fields ++ members.map (·.field o)
  enums : m'.enums = m.enums ++ members.flatMap (·.enums)

theorem Extends.refl (m : Members) : o.Extends m [] m :=
  ⟨by simp, by simp, by simp, by simp⟩

/-- One more member in front, when the state after it is known. -/
theorem Extends.cons {m m₁ m₂ : Members} {member : Member} (h₁ : o.Extends m [member] m₁)
    (h₂ : o.Extends m₁ members m₂) : o.Extends m (member :: members) m₂ := by
  constructor
  · rw [h₂.topLevel, h₁.topLevel]; simp
  · rw [h₂.nested, h₁.nested]; simp
  · rw [h₂.fields, h₁.fields]; simp
  · rw [h₂.enums, h₁.enums]; simp

/-- One property adds one member, if its key has a field name. -/
theorem add_eq_ok {m m' : Members} {key : Text} {s : Schema} {child : Node} {core : Resolved} :
    m.add o key s child names ⟨child.wrap core.reference, core.types⟩ = .ok m' ↔
      ∃ candidate, Java.fieldName key = .ok candidate ∧
        o.Extends m [⟨key, s, child, core, Java.uniqueName candidate m.fieldNames⟩] m' ∧
        m'.names = names ∧
        m'.fieldNames = Java.uniqueName candidate m.fieldNames :: m.fieldNames := by
  simp only [Members.add, bind_eq_ok, pure_eq_ok]
  refine exists_congr fun candidate => and_congr_right fun _ => ⟨?_, ?_⟩
  · rintro rfl
    exact ⟨⟨by simp, by simp, rfl, by simp [Member.enums, Member.resolved]⟩, rfl, rfl⟩
  · rintro ⟨⟨htop, hnested, hfields, henums⟩, hnames, hused⟩
    obtain ⟨names', used', ⟨top, nested⟩, fields, enums⟩ := m'
    simp_all [Generated.merge, Member.enums, Member.resolved, Member.field]

@[simp] theorem outcome_resolveProperties_cons {key : Text} {s : Schema} {rest : Properties}
    {m : Members} :
    (o.resolveProperties ((key, s) :: rest) m).outcome = (do
      let (child, names) ← o.classify key s m.names
      let resolved ← child.resolve.outcome
      let m' ← m.add o key s child names resolved
      (o.resolveProperties rest m').outcome) := by
  rw [resolveProperties]
  split
  · next e he =>
    simp [he]
  · next child names hc =>
    simp [hc]

@[simp] theorem outcome_resolveProperties_nil (m : Members) :
    (o.resolveProperties [] m).outcome = .ok m := by
  simp [resolveProperties]

/-- Properties resolve exactly if they can be collected, and then their members are added. -/
theorem collects_of_resolveProperties {m m' : Members}
    (h : (o.resolveProperties ps m).outcome = .ok m') :
    ∃ members, o.Collects ps m.names m.fieldNames members ∧ o.Extends m members m' := by
  induction ps generalizing m with
  | nil =>
    rw [outcome_resolveProperties_nil, Except.ok.injEq] at h
    exact ⟨[], .nil _ _, h ▸ .refl m⟩
  | cons p rest ih =>
    obtain ⟨key, s⟩ := p
    simp only [outcome_resolveProperties_cons, bind_eq_ok] at h
    obtain ⟨⟨child, names⟩, hc, r, hr, m₁, hadd, h⟩ := h
    obtain ⟨core, hcore, rfl⟩ := Node.resolve_eq_ok.1 hr
    obtain ⟨candidate, hfield, hext, hnames, hused⟩ := add_eq_ok.1 hadd
    obtain ⟨members, hmembers, hext'⟩ := ih h
    rw [hnames, hused] at hmembers
    exact ⟨_, .cons hc hcore hfield hmembers, hext.cons hext'⟩

theorem resolveProperties_of_collects {m : Members}
    (h : o.Collects ps m.names m.fieldNames members) :
    ∃ m', (o.resolveProperties ps m).outcome = .ok m' ∧ o.Extends m members m' := by
  -- The induction is on the collected members, for any state with these names taken.
  generalize hn : m.names = names at h
  generalize hu : m.fieldNames = used at h
  induction h generalizing m with
  | nil => exact ⟨m, outcome_resolveProperties_nil m, .refl m⟩
  | @cons key s rest names names' used child core candidate members hc hcore hfield _ ih =>
    subst hn hu
    obtain ⟨m₁, hadd⟩ : ∃ m₁, m.add o key s child names'
        ⟨child.wrap core.reference, core.types⟩ = .ok m₁ := by
      simp only [Members.add, hfield]
      exact ⟨_, rfl⟩
    obtain ⟨candidate', hfield', hext, hnames, hused⟩ := add_eq_ok.1 hadd
    obtain rfl : candidate = candidate' := Except.ok.inj (hfield.symm.trans hfield')
    obtain ⟨m', hrest, hext'⟩ := ih hnames hused
    refine ⟨m', ?_, hext.cons hext'⟩
    simp only [outcome_resolveProperties_cons, bind_eq_ok]
    exact ⟨_, hc, _, Node.resolve_eq_ok.2 ⟨core, hcore, rfl⟩, m₁, hadd, hrest⟩

theorem declaration_eq_classOf {className : Text} {m : Members}
    (h : o.Extends (.initial o className) members m) :
    o.declaration className m = o.classOf className members := by
  rw [declaration, classOf, h.fields, h.enums]
  simp [Members.initial]

/-- An object resolves exactly if its class has a name and its properties can be collected. -/
theorem resolve_eq_ok {r : Resolved} : (Node.object o).resolve.outcome = .ok r ↔
    ∃ className members, o.className = .ok className ∧
      o.Collects o.properties (.forOwner className) o.reservedFieldNames members ∧
      r = o.assembled className members := by
  have hassembled : ∀ {className members m}, o.Extends (.initial o className) members m →
      (⟨Java.qualify o.package className,
        m.types.withTopLevel (o.declaration className m).toRecord⟩ : Resolved) =
        o.assembled className members := by
    intro className members m h
    rw [assembled, declaration_eq_classOf h, Generated.withTopLevel, h.topLevel, h.nested]
    simp [Members.initial]
  simp only [Node.resolve, Logged.outcome_bind, outcome_liftM, Logged.outcome_report,
    typeReference, bind_eq_ok, pure_eq_ok, Logged.outcome_pure, Except.ok.injEq]
  constructor
  · rintro ⟨_, ⟨className, hname, rfl⟩, -, -, className', hname', m, hm, rfl⟩
    obtain rfl : className = className' := Except.ok.inj (hname.symm.trans hname')
    obtain ⟨members, hmembers, hext⟩ := collects_of_resolveProperties hm
    exact ⟨className, members, hname, hmembers, hassembled hext⟩
  · rintro ⟨className, members, hname, hmembers, rfl⟩
    obtain ⟨m, hm, hext⟩ := resolveProperties_of_collects (m := .initial o className) hmembers
    exact ⟨_, ⟨className, hname, rfl⟩, (), trivial, className, hname, m, hm, hassembled hext⟩

/-- Where a member comes from. -/
theorem Collects.of_mem (h : o.Collects ps names used members) {m : Member} (hm : m ∈ members) :
    (m.key, m.schema) ∈ ps ∧
      (∃ names names', o.classify m.key m.schema names = .ok (m.child, names')) ∧
      m.child.innermost.resolve.outcome = .ok m.core ∧
      ∃ candidate, Java.fieldName m.key = .ok candidate := by
  induction h with
  | nil => cases hm
  | cons hc hcore hfield _ ih =>
    rcases List.mem_cons.1 hm with rfl | hm
    · exact ⟨List.mem_cons_self, ⟨_, _, hc⟩, hcore, _, hfield⟩
    · obtain ⟨hp, hrest⟩ := ih hm
      exact ⟨List.mem_cons_of_mem _ hp, hrest⟩

/-- Each property has its member. -/
theorem Collects.exists_mem (h : o.Collects ps names used members) {key : Text} {s : Schema}
    (hp : (key, s) ∈ ps) : ∃ m ∈ members, m.key = key ∧ m.schema = s := by
  induction h with
  | nil => cases hp
  | cons _ _ _ _ ih =>
    rcases List.mem_cons.1 hp with heq | hp
    · cases heq
      exact ⟨_, List.mem_cons_self, rfl, rfl⟩
    · obtain ⟨m, hm, hkey, hs⟩ := ih hp
      exact ⟨m, List.mem_cons_of_mem _ hm, hkey, hs⟩

/-! ## The kinds of members -/

/-- A member of an object holds a Java type that is supplied by name, an enum that the class of the
object embeds, or an object with types of its own. -/
inductive HasMember (o : ObjectNode) (m : Member) : Prop where
  | primitive {javaType : Text} (inner : m.child.innermost = .primitive javaType)
      (supplied : o.typeTable.Supplies javaType) (core : m.core = ⟨javaType, {}⟩)
      (enums : m.enums = []) : HasMember o m
  | enum {bare : Text} {literals : List Text} {t : Schema} {constants : List Java.EnumConstant}
      {e : Java.EnumDeclaration} (inner : m.child.innermost = .enum (o.childEnum bare literals t))
      (isBareName : Java.isBareName bare = true)
      (named : enumConstants o.settings [Java.enumValueField] literals = .ok constants)
      (declaration : e = (o.childEnum bare literals t).declaration (o.decorated bare) constants)
      (core : m.core = ⟨e.name, ⟨[], [e.toRecord]⟩⟩) (enums : m.enums = [e]) : HasMember o m
  | object {package bare : Text} {t : Schema} {path : List Text}
      (inner : m.child.innermost = .object (o.childIn package bare t path))
      (isBareName : Java.isBareName bare = true) (placed : o.childPackage = .ok package)
      (core : (Node.object (o.childIn package bare t path)).resolve.outcome = .ok m.core)
      (enums : m.enums = []) : HasMember o m

theorem typeReference_childEnum_eq_ok {bare : Text} {literals : List Text} {t : Schema} {n : Text}
    (hbare : Java.isBareName bare = true) : (o.childEnum bare literals t).typeReference = .ok n ↔
      Java.isIdentifier (o.decorated bare) = true ∧ n = o.decorated bare := by
  simp only [EnumNode.typeReference, childEnum, Java.typeName_of_isBareName hbare, bind_eq_ok,
    Except.ok.injEq, exists_eq_left', Java.applyAffixes_eq_ok]
  exact Iff.rfl

theorem Collects.hasMember (h : o.Collects ps names used members) {m : Member}
    (hm : m ∈ members) : o.HasMember m := by
  obtain ⟨-, ⟨names, names', hc⟩, hcore, -⟩ := h.of_mem hm
  obtain ⟨steps, t, -, hcl⟩ := classified_of_classifyAt hc
  have henums : m.enums = if m.child.innermost.isEnum then
      m.core.types.nested.filterMap fun r => r.declaration.enum? else [] := rfl
  generalize hinner : m.child.innermost = inner at hcl hcore henums
  cases hcl with
  | primitive _ supplied =>
    exact .primitive hinner supplied (Node.resolve_primitive_eq_ok.1 hcore) henums
  | @enum values literals name hshape hname hliterals =>
    obtain ⟨base, -, hreserved⟩ := reserves_of_uniqueTypeName hname
    rw [Node.resolve] at hcore
    obtain ⟨n, constants, hn, hconstants, hcore⟩ := EnumNode.resolve_eq_ok.1 hcore
    obtain ⟨-, rfl⟩ := (typeReference_childEnum_eq_ok hreserved.isBareName).1 hn
    rw [hcore] at henums
    exact .enum hinner hreserved.isBareName hconstants rfl hcore henums
  | @object name c hshape hname hchild =>
    obtain ⟨base, -, hreserved⟩ := reserves_of_uniqueTypeName hname
    obtain ⟨package, hpackage, rfl⟩ := childObject_eq_ok.1 hchild
    exact .object hinner hreserved.isBareName hpackage hcore henums

/-! ## Induction over trees of objects -/

/-- An object among the properties is smaller than its owner. -/
theorem weight_lt_of_classify {names' : SiblingNames} {key : Text} {s : Schema} {child : Node}
    {c : ObjectNode} (hp : (key, s) ∈ o.properties)
    (hc : o.classify key s names = .ok (child, names')) (hinner : child.innermost = .object c) :
    (Node.object c).weight < (Node.object o).weight := by
  have hs := weight_lt_of_mem_properties hp
  have hchild := weight_of_classifyAt hc
  have hle := child.weight_innermost_le
  rw [hinner] at hle
  simp only [Node.weight] at hle ⊢
  omega

/-- What holds of an object whenever it holds of the objects among its properties holds of every
object that resolves. -/
theorem resolved_induction {P : ObjectNode → Resolved → Prop}
    (step : ∀ (o : ObjectNode) (className : Text) (members : List Member),
      o.className = .ok className →
      o.Collects o.properties (.forOwner className) o.reservedFieldNames members →
      (∀ m ∈ members, ∀ c, m.child.innermost = .object c → P c m.core) →
      P o (o.assembled className members))
    {r : Resolved} (h : (Node.object o).resolve.outcome = .ok r) : P o r := by
  induction hw : (Node.object o).weight using Nat.strongRecOn generalizing o r with
  | ind w ih =>
    obtain ⟨className, members, hname, hmembers, rfl⟩ := resolve_eq_ok.1 h
    refine step o className members hname hmembers fun m hm c hinner => ?_
    obtain ⟨hp, ⟨names, names', hc⟩, hcore, -⟩ := hmembers.of_mem hm
    rw [hinner] at hcore
    exact ih _ (hw ▸ weight_lt_of_classify hp hc hinner) hcore rfl

end ObjectNode

end KubeJava
