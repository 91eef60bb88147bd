import KubeJava.Proofs.Constants

set_option autoImplicit false

/-! # What settings change

Settings decide how the names of types are decorated and how the names of constants are cased, and
nothing else: two resolutions of one object under different settings give the same packages, fields
and literals in the same order. Numbering is the point where decoration could leak: the names that
siblings have taken are compared in their decorated form. As bare names stay apart when they are
decorated alike, the bare names reserved are the same under all settings, and packages and fields
are made of bare names and keys. -/

namespace KubeJava

/-! ## Declarations without names -/

namespace Java

/-- The field but for its type. -/
def Field.untyped (f : Field) : Field := { f with typeReference := [] }

/-- The enum but for its name and the identifiers of its constants. -/
def EnumDeclaration.unnamed (e : EnumDeclaration) : EnumDeclaration :=
  { e with
    name := []
    constants := e.constants.map fun c => { c with identifier := [] } }

/-- The class but for its name, the types of its fields, and the names in its enums. -/
def ClassDeclaration.unnamed (c : ClassDeclaration) : ClassDeclaration :=
  { c with
    name := []
    fields := c.fields.map (·.untyped)
    enums := c.enums.map (·.unnamed) }

def Declaration.unnamed : Declaration → Declaration
  | .ofEnum e => .ofEnum e.unnamed
  | .ofClass c => .ofClass c.unnamed
  | .ofResource r => .ofResource { r with name := [], specType := [], statusType := [] }

end Java

/-- What is left of a record when names and types are forgotten: its package and its declaration
without them. -/
def TypeRecord.unnamed (r : TypeRecord) : TypeRecord :=
  { name := [], package := r.package, declaration := r.declaration.unnamed, source := [] }

def Generated.unnamed (g : Generated) : Generated :=
  ⟨g.topLevel.map (·.unnamed), g.nested.map (·.unnamed)⟩

@[simp] theorem Java.EnumDeclaration.unnamed_toRecord (e : Java.EnumDeclaration) :
    e.toRecord.unnamed = ⟨[], e.unnamed.package, .ofEnum e.unnamed, []⟩ := rfl

@[simp] theorem Java.ClassDeclaration.unnamed_toRecord (c : Java.ClassDeclaration) :
    c.toRecord.unnamed = ⟨[], c.unnamed.package, .ofClass c.unnamed, []⟩ := rfl

/-- Which enums are among some records can be told without their names. -/
theorem map_unnamed_enums (rs : List TypeRecord) :
    (rs.filterMap fun r => r.declaration.enum?).map (·.unnamed) =
      (rs.map (·.unnamed)).filterMap fun r => r.declaration.enum? := by
  rw [List.map_filterMap, List.filterMap_map]
  congr 1
  funext r
  cases h : r.declaration <;>
    simp [h, TypeRecord.unnamed, Java.Declaration.unnamed, Java.Declaration.enum?]

/-! ## One dispatch -/

/-- The dispatch on the schema ends here. -/
def Schema.EndsDispatch (table : Java.TypeTable) (s : Schema) : Prop :=
  ∀ v, s.shape table ≠ .array v ∧ s.shape table ≠ .map v

/-- The dispatch on a schema ends in one place. -/
theorem Schema.LeadsTo.unique {table : Java.TypeTable} {s t t' : Schema}
    {steps steps' : List Text} (h : s.LeadsTo table steps t) (h' : s.LeadsTo table steps' t')
    (ht : t.EndsDispatch table) (ht' : t'.EndsDispatch table) : steps = steps' ∧ t = t' := by
  induction h generalizing steps' with
  | here s =>
    cases h' with
    | here => exact ⟨rfl, rfl⟩
    | items hs => exact absurd hs (ht _).1
    | value hs => exact absurd hs (ht _).2
  | items hs _ ih =>
    cases h' with
    | here => exact absurd hs (ht' _).1
    | items hs' h' =>
      cases hs.symm.trans hs'
      obtain ⟨rfl, rfl⟩ := ih h' ht
      exact ⟨rfl, rfl⟩
    | value hs' => cases hs.symm.trans hs'
  | value hs _ ih =>
    cases h' with
    | here => exact absurd hs (ht' _).2
    | items hs' => cases hs.symm.trans hs'
    | value hs' h' =>
      cases hs.symm.trans hs'
      obtain ⟨rfl, rfl⟩ := ih h' ht
      exact ⟨rfl, rfl⟩

namespace ObjectNode

variable {o : ObjectNode} {s : Settings} {key : Text} {schema : Schema} {path : List Text}

theorem Classified.endsDispatch {t : Schema} {names names' : SiblingNames} {inner : Node}
    (h : o.Classified key t path names inner names') : t.EndsDispatch o.typeTable := by
  cases h with
  | primitive hs => exact fun v => by rcases hs with hs | hs <;> simp [hs]
  | enum hs | object hs => exact fun v => by simp [hs]

/-! ## One numbering -/

@[simp] theorem decorated_mem_map {bare : Text} {bares : List Text} :
    o.decorated bare ∈ bares.map o.decorated ↔ bare ∈ bares := by
  rw [List.mem_map]
  exact ⟨fun ⟨b, hb, heq⟩ => decorated_injective heq ▸ hb, fun h => ⟨bare, h, rfl⟩⟩

/-- Which bare name is reserved depends on the bare names taken only, not on their decoration. -/
theorem Reserves.bare_eq {o o' : ObjectNode} {base : Text} {bares : List Text}
    {name name' : ReservedName} (h : o.Reserves base (bares.map o.decorated) name)
    (h' : o'.Reserves base (bares.map o'.decorated) name') : name.bare = name'.bare := by
  have hfree : name.bare ∉ bares := fun hmem =>
    h.not_mem (h.decorated_eq ▸ decorated_mem_map.2 hmem)
  have hfree' : name'.bare ∉ bares := fun hmem =>
    h'.not_mem (h'.decorated_eq ▸ decorated_mem_map.2 hmem)
  have hleast := h.least
  have hleast' := h'.least
  simp only [decorated_mem_map] at hleast hleast'
  rcases hleast with ⟨hbase, hbare⟩ | ⟨hbase, k, hk, hbare, hbelow⟩
  · rcases hleast' with ⟨-, hbare'⟩ | ⟨hbase', -⟩
    · rw [hbare, hbare']
    · exact absurd hbase' hbase
  · rcases hleast' with ⟨hbase', -⟩ | ⟨-, k', hk', hbare', hbelow'⟩
    · exact absurd hbase hbase'
    · -- Of two different least numbers the smaller one would be taken.
      rcases Nat.lt_trichotomy k k' with hlt | rfl | hlt
      · exact absurd (hbelow' k hk hlt) (hbare ▸ hfree)
      · rw [hbare, hbare']
      · exact absurd (hbelow k' hk' hlt) (hbare' ▸ hfree')

/-! ## One object under two settings -/

/-- The object under other settings. -/
def withSettings (o : ObjectNode) (s : Settings) : ObjectNode := { o with settings := s }

/-- The same bare names are taken by classes under the settings of both objects. -/
def SameClasses (o o' : ObjectNode) (names names' : SiblingNames) : Prop :=
  ∃ bares : List Text,
    names.classes = bares.map o.decorated ∧ names'.classes = bares.map o'.decorated

/-- What two nodes for one property have in common under both settings: they are types supplied by
name, enums of the same literals, or one object but for its settings. -/
inductive SameInner (s : Settings) : Node → Node → Prop where
  | primitive {javaType javaType' : Text} : SameInner s (.primitive javaType) (.primitive javaType')
  | enum {e e' : EnumNode} : e.values = e'.values → e.package = e'.package →
      e.description = e'.description → SameInner s (.enum e) (.enum e')
  | object (c : ObjectNode) : SameInner s (.object c) (.object (c.withSettings s))

theorem Classified.sameInner {t : Schema} {names names' taken taken' : SiblingNames}
    {inner inner' : Node} (hnames : SameClasses o (o.withSettings s) names names')
    (h : o.Classified key t path names inner taken)
    (h' : (o.withSettings s).Classified key t path names' inner' taken') :
    SameInner s inner inner' ∧ SameClasses o (o.withSettings s) taken taken' := by
  -- The shape of the schema tells both kinds, and it is the same under both settings.
  cases h with
  | primitive hs =>
    cases h' with
    | primitive => exact ⟨.primitive, hnames⟩
    | enum hs' | object hs' => rcases hs with hs | hs <;> cases hs.symm.trans hs'
  | enum hs _ hliterals =>
    cases h' with
    | primitive hs' => rcases hs' with hs' | hs' <;> cases hs.symm.trans hs'
    | enum hs' _ hliterals' =>
      cases hs.symm.trans hs'
      cases hliterals.symm.trans hliterals'
      exact ⟨.enum rfl rfl rfl, hnames⟩
    | object hs' => cases hs.symm.trans hs'
  | @object name _ hs hname hchild =>
    cases h' with
    | primitive hs' => rcases hs' with hs' | hs' <;> cases hs.symm.trans hs'
    | enum hs' => cases hs.symm.trans hs'
    | @object name' _ hs' hname' hchild' =>
      obtain ⟨bares, hclasses, hclasses'⟩ := hnames
      obtain ⟨base, hbase, hres⟩ := reserves_of_uniqueTypeName hname
      obtain ⟨base', hbase', hres'⟩ := reserves_of_uniqueTypeName hname'
      obtain rfl : base = base' := Except.ok.inj (hbase.symm.trans hbase')
      rw [hclasses] at hres
      rw [hclasses'] at hres'
      have hbare : name.bare = name'.bare := hres.bare_eq hres'
      obtain ⟨package, hpackage, rfl⟩ := childObject_eq_ok.1 hchild
      obtain ⟨package', hpackage', rfl⟩ := childObject_eq_ok.1 hchild'
      obtain rfl : package = package' := Except.ok.inj (hpackage.symm.trans hpackage')
      refine ⟨?_, name.bare :: bares, ?_, ?_⟩
      · rw [← hbare]
        exact .object _
      · rw [List.map_cons, ← hclasses, hres.decorated_eq]
      · rw [List.map_cons, ← hclasses', hres'.decorated_eq, hbare]

end ObjectNode

/-! ## Members -/

/-- What is left of a member without names: its field, its types and its enums. -/
def Member.outline (o : ObjectNode) (m : Member) :
    Java.Field × Generated × List Java.EnumDeclaration :=
  ((m.field o).untyped, m.core.types.unnamed, m.enums.map (·.unnamed))

namespace ObjectNode

variable {o : ObjectNode} {s : Settings} {members members' : List Member} {r r' : Resolved}

/-- Enums of the same literals are the same but for their names. -/
theorem unnamed_declaration_eq {e e' : EnumNode} (name name' : Text)
    {constants constants' : List Java.EnumConstant} {used used' : List Text}
    (hvalues : e.values = e'.values) (hpackage : e.package = e'.package)
    (hdescription : e.description = e'.description)
    (h : enumConstants e.settings used e.values = .ok constants)
    (h' : enumConstants e'.settings used' e'.values = .ok constants') :
    (e.declaration name constants).unnamed = (e'.declaration name' constants').unnamed := by
  have hmap : ∀ cs : List Java.EnumConstant,
      cs.map (fun c => { c with identifier := [] }) =
        (cs.map (·.value)).map (Java.EnumConstant.mk []) := fun cs => by simp
  simp only [EnumNode.declaration, Java.EnumDeclaration.unnamed, hmap,
    map_value_of_enumConstants h, map_value_of_enumConstants h', hvalues, hpackage, hdescription]

/-- Nodes that have so much in common give the same types but for the names. -/
theorem SameInner.unnamed_eq {inner inner' : Node} (hsame : SameInner s inner inner')
    {core core' : Resolved} (h : inner.resolve.outcome = .ok core)
    (h' : inner'.resolve.outcome = .ok core')
    (ih : ∀ c, inner = .object c → (Node.object (c.withSettings s)).resolve.outcome = .ok core' →
      core.types.unnamed = core'.types.unnamed) :
    core.types.unnamed = core'.types.unnamed ∧ inner.isEnum = inner'.isEnum := by
  cases hsame with
  | primitive =>
    rw [Node.resolve_primitive_eq_ok] at h h'
    subst h h'
    exact ⟨rfl, rfl⟩
  | @enum e e' hvalues hpackage hdescription =>
    rw [Node.resolve] at h h'
    obtain ⟨name, constants, -, hconstants, rfl⟩ := EnumNode.resolve_eq_ok.1 h
    obtain ⟨name', constants', -, hconstants', rfl⟩ := EnumNode.resolve_eq_ok.1 h'
    have heq := unnamed_declaration_eq name name' hvalues hpackage hdescription hconstants
      hconstants'
    refine ⟨?_, rfl⟩
    simp only [Generated.unnamed, List.map_cons, List.map_nil,
      Java.EnumDeclaration.unnamed_toRecord, heq]
  | object c => exact ⟨ih c rfl h', rfl⟩

/-- The members of an object under both settings are the same but for the names. -/
theorem Collects.outline_eq {ps : Properties} {names names' : SiblingNames} {used : List Text}
    (h : o.Collects ps names used members)
    (h' : (o.withSettings s).Collects ps names' used members')
    (hnames : SameClasses o (o.withSettings s) names names')
    (ih : ∀ m ∈ members, ∀ c, m.child.innermost = .object c → ∀ r',
      (Node.object (c.withSettings s)).resolve.outcome = .ok r' →
        m.core.types.unnamed = r'.types.unnamed) :
    members.map (·.outline o) = members'.map (·.outline (o.withSettings s)) := by
  induction h generalizing names' members' with
  | nil =>
    cases h'
    rfl
  | @cons key t rest names taken used child core candidate members hc hcore hfield _ ihrest =>
    cases h' with
    | @cons _ _ _ _ taken' _ child' core' candidate' members' hc' hcore' hfield' hrest' =>
    rw [List.forall_mem_cons] at ih
    obtain rfl : candidate = candidate' := Except.ok.inj (hfield.symm.trans hfield')
    obtain ⟨steps, end₁, hlead, hcl⟩ := classified_of_classifyAt hc
    obtain ⟨steps', end₂, hlead', hcl'⟩ := classified_of_classifyAt hc'
    obtain ⟨rfl, rfl⟩ := hlead.unique hlead' hcl.endsDispatch hcl'.endsDispatch
    obtain ⟨hsame, htaken⟩ := hcl.sameInner hnames hcl'
    obtain ⟨htypes, henum⟩ := hsame.unnamed_eq hcore hcore' fun c hinner hr => ih.1 c hinner _ hr
    rw [List.map_cons, List.map_cons, ihrest hrest' htaken ih.2]
    congr 1
    -- The field has the same name and data, and the enums are the same ones among the types.
    refine Prod.ext rfl (Prod.ext htypes ?_)
    have hnested : core.types.nested.map (·.unnamed) = core'.types.nested.map (·.unnamed) :=
      congrArg Generated.nested htypes
    simp only [Member.outline, Member.enums, embeddedEnums, Member.resolved, henum]
    split
    · rw [map_unnamed_enums, map_unnamed_enums, hnested]
    · rfl

/-- The class of an object without names, put together from what is left of its members. -/
theorem unnamed_assembled (o : ObjectNode) (className : Text) (members : List Member) :
    (o.assembled className members).types.unnamed =
      ⟨(members.map (·.outline o)).flatMap (·.2.1.topLevel) ++
        [⟨[], o.package, .ofClass
          { name := []
            package := o.package
            fields := (members.map (·.outline o)).map (·.1) ++
              (if o.preserveUnknownFields then [catchAll.untyped] else [])
            enums := (members.map (·.outline o)).flatMap (·.2.2)
            description := o.description }, []⟩],
        (members.map (·.outline o)).flatMap (·.2.1.nested)⟩ := by
  have hcatch : (if o.preserveUnknownFields then [catchAll] else []).map (·.untyped) =
      if o.preserveUnknownFields then [catchAll.untyped] else [] := by
    split <;> rfl
  simp only [assembled, Generated.unnamed, List.map_append, List.map_flatMap, List.map_cons,
    List.map_nil, Java.ClassDeclaration.unnamed_toRecord, Java.ClassDeclaration.unnamed, classOf,
    List.flatMap_map, List.map_map, hcatch]
  rfl

/-- Under two settings under both of which an object resolves, its types are the same but for the
names of types, the types of fields and the identifiers of constants: the same number of them, in
the same packages, with the same fields and literals in the same order. -/
theorem unnamed_eq_of_resolve (h : (Node.object o).resolve.outcome = .ok r)
    (h' : (Node.object (o.withSettings s)).resolve.outcome = .ok r') :
    r.types.unnamed = r'.types.unnamed := by
  refine resolved_induction (P := fun o r => ∀ r',
    (Node.object (o.withSettings s)).resolve.outcome = .ok r' →
      r.types.unnamed = r'.types.unnamed) ?_ h r' h'
  intro o className members hname hmembers ih r' h'
  obtain ⟨className', members', hname', hmembers', rfl⟩ := resolve_eq_ok.1 h'
  have houtline := hmembers.outline_eq hmembers' ⟨[], rfl, rfl⟩ ih
  rw [unnamed_assembled, unnamed_assembled, houtline]
  rfl

/-- An enum that has to give way to the class around it under one policy only, beside two objects
whose keys ask for one name. -/
theorem unnamed_eq_of_resolve_policies :
    let mode : Schema := { type := some "string", enum := some [.str "on", .str "off"] }
    let entry : Schema := { type := some "object", properties := some [("mode", mode)] }
    let o : ObjectNode :=
      { name := "mode"
        settings := { prefixPolicy := .never }
        affixes := ⟨"K", []⟩
        properties := [("mode", mode), ("fooBar", entry), ("foo-bar", entry)] }
    let s : Settings := { enumUppercase := false }
    ∃ r r', (Node.object o).resolve.outcome = .ok r ∧
      (Node.object (o.withSettings s)).resolve.outcome = .ok r' ∧
      (r.types.topLevel ++ r.types.nested).map TypeRecord.qualifiedName =
        [("mode.FooBar" : Text), ("mode.FooBar2" : Text), ("Mode" : Text), ("Mode2" : Text),
          ("mode.Mode" : Text), ("mode.Mode" : Text)] ∧
      (r'.types.topLevel ++ r'.types.nested).map TypeRecord.qualifiedName =
        [("mode.FooBar" : Text), ("mode.FooBar2" : Text), ("KMode" : Text), ("Mode" : Text),
          ("mode.Mode" : Text), ("mode.Mode" : Text)] ∧
      r.types.unnamed = r'.types.unnamed := by
  intro mode entry o s
  obtain ⟨r, hr, hnames⟩ : ∃ r, (Node.object o).resolve.outcome = .ok r ∧
      (r.types.topLevel ++ r.types.nested).map TypeRecord.qualifiedName =
        [("mode.FooBar" : Text), ("mode.FooBar2" : Text), ("Mode" : Text), ("Mode2" : Text),
          ("mode.Mode" : Text), ("mode.Mode" : Text)] :=
    exists_eq_ok (by decide +kernel)
  obtain ⟨r', hr', hnames'⟩ : ∃ r, (Node.object (o.withSettings s)).resolve.outcome = .ok r ∧
      (r.types.topLevel ++ r.types.nested).map TypeRecord.qualifiedName =
        [("mode.FooBar" : Text), ("mode.FooBar2" : Text), ("KMode" : Text), ("Mode" : Text),
          ("mode.Mode" : Text), ("mode.Mode" : Text)] :=
    exists_eq_ok (by decide +kernel)
  exact ⟨r, r', hr, hr', hnames, hnames', unnamed_eq_of_resolve hr hr'⟩

end ObjectNode

end KubeJava
