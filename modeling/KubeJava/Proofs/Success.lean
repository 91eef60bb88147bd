import KubeJava.Proofs.Constants
import KubeJava.Proofs.Unsupported

set_option autoImplicit false

/-! # When resolution succeeds

An object resolves exactly if its name and each schema that the dispatch reaches from its properties
are acceptable. With well-formed affixes no other check can fail: whatever is derived from an
acceptable name, the numbered and decorated forms included, is an identifier. -/

namespace KubeJava

open Java (TypeTable)

/-! ## Acceptable schemas -/

/-- What leaves a schema without a Java type, unless it is marked as an integer or a text. -/
inductive Schema.Unfit (table : TypeTable) (s : Schema) : Prop where
  | arrayWithoutItems : s.type = some ("array" : Text) → s.items = none → Unfit table s
  | noType : s.type = none → s.properties = none → s.preserveUnknownFields ≠ some true →
      Unfit table s
  | nonStringEnumValue {values : List Document} {v : Document} : s.type = some ("string" : Text) →
      s.enum = some values → v ∈ values → v ≠ .null → (∀ t, v ≠ .str t) → Unfit table s
  | unknownType {type : Text} : s.type = some type → type ≠ "array" → type ≠ "object" →
      ¬(type = "string" ∧ s.enum.isSome) → table.lookup type s.format = none → Unfit table s

def Schema.Unsupported (table : TypeTable) (s : Schema) : Prop :=
  s.intOrString ≠ some true ∧ s.Unfit table

/-- Whether the type of a schema is generated: an object or an enum. -/
def Shape.isGenerated : Shape → Bool
  | .object | .enum _ => true
  | _ => false

/-- A schema visited as part of the property `key` is supported, and the names that it asks for can
be derived: a type name if its type is generated, the name of the field, and the constants. -/
structure Schema.Acceptable (table : TypeTable) (key : Text) (s : Schema) : Prop where
  supported : ¬s.Unsupported table
  typeName : (s.shape table).isGenerated = true → Java.leadsWithLetter key = true
  fieldName : Java.isIdentifier key = true ∨ ∃ c ∈ key, Java.isWordChar c = true
  constants : ∀ values, s.shape table = .enum values → .str [] ∉ values

/-- What is wrong with an unfit schema is one of the reasons to tell. -/
theorem Schema.unfit_iff {table : TypeTable} {s : Schema} :
    s.Unfit table ↔ ∃ reason, s.UnfitFor table reason := by
  constructor
  · intro h
    cases h with
    | arrayWithoutItems htype hitems => exact ⟨_, .arrayWithoutItems htype hitems⟩
    | noType htype hprops hpreserve => exact ⟨_, .noType htype hprops hpreserve⟩
    | @nonStringEnumValue values v htype henum hv hnull htext =>
      -- Some value is no text, so there is a first one.
      have hne : ¬∃ literals, textLiterals values = .ok literals := fun hok =>
        (exists_textLiterals_iff.1 hok v hv).elim hnull fun ⟨t, ht⟩ => htext t ht
      cases hliterals : textLiterals values with
      | ok literals => exact absurd ⟨literals, hliterals⟩ hne
      | error u =>
        obtain ⟨before, after, rfl, hbefore, hu⟩ := textLiterals_eq_error_iff.1 hliterals
        exact ⟨_, .nonStringEnumValue htype henum hbefore hu⟩
    | unknownType htype harray hobject henum hlookup =>
      exact ⟨_, .unknownType htype harray hobject henum hlookup⟩
  · rintro ⟨reason, h⟩
    cases h with
    | arrayWithoutItems htype hitems => exact .arrayWithoutItems htype hitems
    | noType htype hprops hpreserve => exact .noType htype hprops hpreserve
    | nonStringEnumValue htype henum hbefore hv =>
      rw [Document.IsTextOrNull, not_or, not_exists] at hv
      exact .nonStringEnumValue htype henum (List.mem_append_right _ List.mem_cons_self) hv.1 hv.2
    | unknownType htype harray hobject henum hlookup =>
      exact .unknownType htype harray hobject henum hlookup

theorem Schema.unsupported_iff_exists {table : TypeTable} {s : Schema} :
    s.Unsupported table ↔ ∃ reason, s.UnsupportedFor table reason := by
  rw [Unsupported, Schema.unfit_iff]
  exact ⟨fun ⟨hint, reason, h⟩ => ⟨reason, hint, h⟩, fun ⟨reason, hint, h⟩ => ⟨hint, reason, h⟩⟩

/-- A schema is unsupported if it has no shape or if some value of its enum is no text. -/
theorem Schema.unsupported_iff {table : TypeTable} {s : Schema} : s.Unsupported table ↔
    (∃ reason, s.shape table = .unsupported reason) ∨
      ∃ values, s.shape table = .enum values ∧ ∃ v ∈ values, v ≠ .null ∧ ∀ t, v ≠ .str t := by
  rw [Schema.unsupported_iff_exists]
  constructor
  · rintro ⟨reason, h⟩
    rcases Schema.unsupportedFor_iff.1 h with hs | ⟨values, v, hs, hliterals, rfl⟩
    · exact .inl ⟨reason, hs⟩
    · obtain ⟨before, after, rfl, -, hv⟩ := textLiterals_eq_error_iff.1 hliterals
      rw [Document.IsTextOrNull, not_or, not_exists] at hv
      exact .inr ⟨_, hs, v, List.mem_append_right _ List.mem_cons_self, hv⟩
  · rintro (⟨reason, hs⟩ | ⟨values, hs, v, hv, hnull, htext⟩)
    · exact ⟨reason, Schema.unsupportedFor_iff.2 (.inl hs)⟩
    · obtain ⟨hint, htype, henum⟩ := Schema.shape_eq_enum_iff.1 hs
      obtain ⟨reason, h⟩ := Schema.unfit_iff.1 (.nonStringEnumValue htype henum hv hnull htext)
      exact ⟨reason, hint, h⟩

/-- A schema that needs no type of its own is acceptable wherever its field has a name. -/
theorem Schema.acceptable_of_not_generated {table : TypeTable} {key : Text} {s : Schema}
    (hgenerated : (s.shape table).isGenerated = false)
    (hshape : ∀ reason, s.shape table ≠ .unsupported reason)
    (hfield : Java.isIdentifier key = true ∨ ∃ c ∈ key, Java.isWordChar c = true) :
    s.Acceptable table key := by
  refine ⟨fun h => ?_, fun h => ?_, hfield, fun values h => ?_⟩
  · rcases Schema.unsupported_iff.1 h with ⟨reason, hs⟩ | ⟨values, hs, -⟩
    · exact hshape reason hs
    · rw [hs] at hgenerated
      cases hgenerated
  · rw [hgenerated] at h
    cases h
  · rw [h] at hgenerated
    cases hgenerated

/-! ## Literals -/

/-- The enum shape is supported exactly if all values give literals. -/
theorem Schema.supported_iff_of_shape_enum {table : TypeTable} {s : Schema}
    {values : List Document} (hs : s.shape table = .enum values) :
    ¬s.Unsupported table ↔ ∃ literals, textLiterals values = .ok literals := by
  rw [exists_textLiterals_iff, Schema.unsupported_iff]
  simp only [hs, reduceCtorEq, exists_false, false_or, Shape.enum.injEq, exists_eq_left',
    not_exists, not_and, Classical.not_forall, Classical.not_not]
  exact forall₂_congr fun v _ => ⟨fun h => Classical.or_iff_not_imp_left.2 h, fun h hnull =>
    h.resolve_left hnull⟩

theorem mem_textLiterals_iff {values : List Document} {literals : List Text} {t : Text}
    (h : textLiterals values = .ok literals) : t ∈ literals ↔ .str t ∈ values := by
  fun_induction textLiterals values generalizing literals with
  | case1 => cases h; simp
  | case2 rest ih => simpa using ih h
  | case3 u rest ih =>
    cases hrest : textLiterals rest with
    | error v => rw [hrest] at h; cases h
    | ok us =>
      rw [hrest] at h
      cases h
      simp [ih hrest]
  | case4 => cases h

/-! ## What is visited -/

/-- What is visited from a schema lies on the way to the schema where the dispatch on it ends, or
comes from the properties of this one. -/
theorem Schema.Visits.of_leadsTo {table : TypeTable} {key k : Text} {s t u : Schema}
    {steps : List Text} (hlead : s.LeadsTo table steps t) (h : Schema.Visits table key s k u) :
    (k = key ∧ ∃ v, u.shape table = .array v ∨ u.shape table = .map v) ∨
      Schema.Visits table key t k u := by
  induction hlead with
  | here => exact .inr h
  | @items s items t steps hs _ ih =>
    cases h with
    | here => exact .inl ⟨rfl, items, .inl hs⟩
    | items hs' h =>
      cases hs.symm.trans hs'
      exact ih h
    | value hs' => cases hs.symm.trans hs'
    | property hs' => cases hs.symm.trans hs'
  | @value s value t steps hs _ ih =>
    cases h with
    | here => exact .inl ⟨rfl, value, .inr hs⟩
    | items hs' => cases hs.symm.trans hs'
    | value hs' h =>
      cases hs.symm.trans hs'
      exact ih h
    | property hs' => cases hs.symm.trans hs'

namespace ObjectNode

variable {o : ObjectNode} {members : List Member} {names : SiblingNames} {used : List Text}
  {ps : Properties} {m : Member} {r : Resolved}

/-- All that is visited from an object is acceptable, its own name included. -/
structure Resolvable (o : ObjectNode) : Prop where
  name : Java.leadsWithLetter o.name = true
  visited : ∀ key s, o.Visits key s → s.Acceptable o.typeTable key

theorem leadsWithLetter_of_uniqueTypeName {key : Text} {name : ReservedName}
    (h : o.uniqueTypeName key used = .ok name) : Java.leadsWithLetter key = true := by
  obtain ⟨base, hbase, -⟩ := reserves_of_uniqueTypeName h
  exact (Java.typeName_eq_ok.1 hbase).1

/-- The schema of an innermost node is acceptable if the node resolves. -/
theorem Classified.acceptable {key : Text} {t : Schema} {path : List Text}
    {names names' : SiblingNames} {inner : Node}
    (hcl : o.Classified key t path names inner names') (hcore : inner.resolve.outcome = .ok r)
    (hfield : Java.isIdentifier key = true ∨ ∃ c ∈ key, Java.isWordChar c = true) :
    t.Acceptable o.typeTable key := by
  cases hcl with
  | primitive hshape =>
    rcases hshape with hs | hs
    · exact Schema.acceptable_of_not_generated (by rw [hs]; rfl) (by simp [hs]) hfield
    · exact Schema.acceptable_of_not_generated (by rw [hs]; rfl) (by simp [hs]) hfield
  | @enum values literals name hs hname hliterals =>
    rw [Node.resolve] at hcore
    obtain ⟨-, constants, -, hconstants, -⟩ := EnumNode.resolve_eq_ok.1 hcore
    have hnil := exists_enumConstants_iff.1 ⟨constants, hconstants⟩
    refine ⟨(Schema.supported_iff_of_shape_enum hs).2 ⟨literals, hliterals⟩,
      fun _ => leadsWithLetter_of_uniqueTypeName hname, hfield, fun values' hs' hempty => hnil ?_⟩
    cases hs.symm.trans hs'
    exact (mem_textLiterals_iff hliterals).2 hempty
  | object hs hname =>
    refine ⟨fun h => ?_, fun _ => leadsWithLetter_of_uniqueTypeName hname, hfield, by simp [hs]⟩
    rcases Schema.unsupported_iff.1 h with ⟨reason, hs'⟩ | ⟨values, hs', -⟩
    · cases hs.symm.trans hs'
    · cases hs.symm.trans hs'

/-- From the schema of an innermost node nothing else is visited but the properties of an object. -/
theorem Classified.visits_cases {key k : Text} {t u : Schema} {path : List Text}
    {names names' : SiblingNames} {inner : Node}
    (hcl : o.Classified key t path names inner names')
    (hv : Schema.Visits o.typeTable key t k u) :
    (k = key ∧ u = t) ∨
      ∃ c, inner = .object c ∧ c.typeTable = o.typeTable ∧ c.Visits k u := by
  cases hv with
  | here => exact .inl ⟨rfl, rfl⟩
  | items hs | value hs =>
    cases hcl with
    | primitive hshape => rcases hshape with hs' | hs' <;> cases hs.symm.trans hs'
    | enum hs' | object hs' => cases hs.symm.trans hs'
  | property hs hp hv =>
    cases hcl with
    | primitive hshape => rcases hshape with hs' | hs' <;> cases hs.symm.trans hs'
    | enum hs' => cases hs.symm.trans hs'
    | object _ _ hchild =>
      obtain ⟨package, -, rfl⟩ := childObject_eq_ok.1 hchild
      exact .inr ⟨_, rfl, rfl, _, hp, hv⟩

/-- Whatever is visited from a member that has been collected is acceptable. -/
theorem acceptable_of_mem (h : o.Collects ps names used members) (hm : m ∈ members)
    (ih : ∀ c, m.child.innermost = .object c → c.Resolvable) {k : Text} {u : Schema}
    (hv : Schema.Visits o.typeTable m.key m.schema k u) : u.Acceptable o.typeTable k := by
  obtain ⟨-, ⟨names, names', hc⟩, hcore, hfield⟩ := h.of_mem hm
  have hfield := Java.exists_fieldName_iff.1 hfield
  obtain ⟨steps, t, hlead, hcl⟩ := classified_of_classifyAt hc
  rcases hv.of_leadsTo hlead with ⟨rfl, v, hs | hs⟩ | hv
  · exact Schema.acceptable_of_not_generated (by rw [hs]; rfl) (by simp [hs]) hfield
  · exact Schema.acceptable_of_not_generated (by rw [hs]; rfl) (by simp [hs]) hfield
  · rcases hcl.visits_cases hv with ⟨rfl, rfl⟩ | ⟨c, hinner, htable, hv⟩
    · exact hcl.acceptable hcore hfield
    · exact htable ▸ (ih c hinner).visited k u hv

theorem resolvable_of_resolve (h : (Node.object o).resolve.outcome = .ok r) : o.Resolvable := by
  refine resolved_induction (P := fun o _ => o.Resolvable) ?_ h
  intro o className members hname hmembers ih
  refine ⟨?_, ?_⟩
  · obtain ⟨bare, hbare, -⟩ := bind_eq_ok.1 hname
    exact (Java.typeName_eq_ok.1 hbare).1
  · rintro k u ⟨⟨key, s⟩, hp, hv⟩
    obtain ⟨m, hm, rfl, rfl⟩ := hmembers.exists_mem hp
    exact acceptable_of_mem hmembers hm (ih m hm) hv

/-! ## Resolvable objects resolve -/

theorem bareName_of_leadsWithLetter (h : Java.leadsWithLetter o.name = true) :
    o.bareName = .ok (Java.pascalCase o.name) :=
  Java.typeName_eq_ok.2 ⟨h, rfl⟩

theorem exists_className (ha : o.affixes.WellFormed) (h : Java.leadsWithLetter o.name = true) :
    ∃ className, o.className = .ok className := by
  have hbare := bareName_of_leadsWithLetter h
  rw [className, hbare]
  exact ⟨_, Java.applyAffixes_eq_ok.2
    ⟨Java.isIdentifier_decorate ha _ _ (Java.isBareName_of_typeName hbare), rfl⟩⟩

theorem exists_childPackage (h : Java.leadsWithLetter o.name = true) :
    ∃ package, o.childPackage = .ok package := by
  have hbare := bareName_of_leadsWithLetter h
  rw [childPackage, hbare]
  have hsegment := Java.packageSegment_of_isBareName (Java.isBareName_of_typeName hbare)
  exact ⟨_, bind_eq_ok.2 ⟨_, rfl, bind_eq_ok.2 ⟨_, hsegment, rfl⟩⟩⟩

theorem exists_classifyAt (ha : o.affixes.WellFormed) (hname : Java.leadsWithLetter o.name = true)
    {key : Text} {s : Schema} {path : List Text} {names : SiblingNames}
    (h : ∀ steps t, s.LeadsTo o.typeTable steps t → t.Acceptable o.typeTable key) :
    ∃ child names', o.classifyAt key s path names = .ok (child, names') := by
  fun_induction classifyAt o key s path names with
  | case1 | case2 => exact ⟨_, _, rfl⟩
  | case3 s path items hs ih =>
    obtain ⟨child, names', hchild⟩ := ih fun steps t hlead => h _ t (.items hs hlead)
    exact ⟨_, _, bind_eq_ok.2 ⟨_, hchild, rfl⟩⟩
  | case4 s path value hs ih =>
    obtain ⟨child, names', hchild⟩ := ih fun steps t hlead => h _ t (.value hs hlead)
    exact ⟨_, _, bind_eq_ok.2 ⟨_, hchild, rfl⟩⟩
  | case5 s path hs =>
    have hkey := (h [] s (.here s)).typeName (by rw [hs]; rfl)
    obtain ⟨name, hunique⟩ := exists_uniqueTypeName ha hkey names.classes
    obtain ⟨package, hpackage⟩ := exists_childPackage hname
    have hchild : o.childObject name.bare s path = .ok (o.childIn package name.bare s path) :=
      childObject_eq_ok.2 ⟨package, hpackage, rfl⟩
    exact ⟨_, _, bind_eq_ok.2 ⟨name, hunique, bind_eq_ok.2 ⟨_, hchild, rfl⟩⟩⟩
  | case6 s path values hs =>
    have hs' := h [] s (.here s)
    obtain ⟨name, hunique⟩ := exists_uniqueTypeName ha (hs'.typeName (by rw [hs]; rfl)) names.enums
    obtain ⟨literals, hliterals⟩ := (Schema.supported_iff_of_shape_enum hs).1 hs'.supported
    exact ⟨_, _, bind_eq_ok.2 ⟨name, hunique, by rw [hliterals]; rfl⟩⟩
  | case7 s path reason hs =>
    exact absurd (Schema.unsupported_iff.2 (.inl ⟨reason, hs⟩)) (h [] s (.here s)).supported

/-- Properties can be collected if each of them can be classified and resolved under any names. -/
theorem exists_collects
    (hclassify : ∀ p ∈ ps, ∀ names, ∃ child names', o.classify p.1 p.2 names = .ok (child, names'))
    (hresolve : ∀ p ∈ ps, ∀ names child names', o.classify p.1 p.2 names = .ok (child, names') →
      ∃ core, child.innermost.resolve.outcome = .ok core)
    (hfield : ∀ p ∈ ps, ∃ candidate, Java.fieldName p.1 = .ok candidate)
    (names : SiblingNames) (used : List Text) : ∃ members, o.Collects ps names used members := by
  induction ps generalizing names used with
  | nil => exact ⟨[], .nil names used⟩
  | cons p rest ih =>
    obtain ⟨key, s⟩ := p
    rw [List.forall_mem_cons] at hclassify hresolve hfield
    obtain ⟨child, names', hc⟩ := hclassify.1 names
    obtain ⟨core, hcore⟩ := hresolve.1 names child names' hc
    obtain ⟨candidate, hcandidate⟩ := hfield.1
    obtain ⟨members, hmembers⟩ := ih hclassify.2 hresolve.2 hfield.2 names'
      (Java.uniqueName candidate used :: used)
    exact ⟨_, .cons hc hcore hcandidate hmembers⟩

theorem exists_resolve_enum {e : EnumNode} {name : Text} (hname : e.typeReference = .ok name)
    (hvalues : [] ∉ e.values) : ∃ core, (Node.enum e).resolve.outcome = .ok core := by
  obtain ⟨constants, hconstants⟩ := exists_enumConstants_iff.2 hvalues
  rw [Node.resolve]
  exact ⟨_, EnumNode.resolve_eq_ok.2 ⟨name, constants, hname, hconstants, rfl⟩⟩

/-- What is visited from an object among the properties is visited from its owner. -/
theorem visits_of_childIn {key k package bare : Text} {s t u : Schema} {steps path : List Text}
    (hp : (key, s) ∈ o.properties) (hlead : s.LeadsTo o.typeTable steps t)
    (hshape : t.shape o.typeTable = .object)
    (h : (o.childIn package bare t path).Visits k u) : o.Visits k u := by
  obtain ⟨p, hpt, hv⟩ := h
  exact ⟨(key, s), hp, (hlead.visits key).trans (.property hshape hpt hv)⟩

/-- Objects among the properties of a resolvable object are resolvable. -/
theorem Resolvable.childIn (h : o.Resolvable) {key package bare : Text} {s t : Schema}
    {steps path : List Text} (hp : (key, s) ∈ o.properties)
    (hlead : s.LeadsTo o.typeTable steps t) (hshape : t.shape o.typeTable = .object)
    (hbare : Java.isBareName bare = true) : (o.childIn package bare t path).Resolvable := by
  refine ⟨Java.leadsWithLetter_of_isBareName hbare, fun k u hv => ?_⟩
  exact h.visited k u (visits_of_childIn hp hlead hshape hv)

theorem Resolvable.acceptable (h : o.Resolvable) {p : Text × Schema} (hp : p ∈ o.properties)
    {steps : List Text} {t : Schema} (hlead : p.2.LeadsTo o.typeTable steps t) :
    t.Acceptable o.typeTable p.1 :=
  h.visited p.1 t ⟨p, hp, hlead.visits p.1⟩

/-- What a property of a resolvable object is classified as resolves, if objects do. -/
theorem Resolvable.exists_resolve_innermost (h : o.Resolvable) {p : Text × Schema}
    {names names' : SiblingNames} {child : Node} (hp : p ∈ o.properties)
    (hc : o.classify p.1 p.2 names = .ok (child, names'))
    (ih : ∀ c, child.innermost = .object c → c.affixes = o.affixes → c.Resolvable →
      ∃ r, (Node.object c).resolve.outcome = .ok r) :
    ∃ core, child.innermost.resolve.outcome = .ok core := by
  obtain ⟨steps, t, hlead, hcl⟩ := classified_of_classifyAt hc
  generalize child.innermost = inner at hcl ih
  cases hcl with
  | primitive => exact ⟨_, Node.resolve_primitive_eq_ok.2 rfl⟩
  | @enum values literals name hs hunique hliterals =>
    obtain ⟨base, -, hres⟩ := reserves_of_uniqueTypeName hunique
    have hname : (o.childEnum name.bare literals t).typeReference = .ok (o.decorated name.bare) :=
      (typeReference_childEnum_eq_ok hres.isBareName).2
        ⟨hres.decorated_eq ▸ hres.isIdentifier, rfl⟩
    exact exists_resolve_enum hname fun hempty =>
      (h.acceptable hp hlead).constants values hs ((mem_textLiterals_iff hliterals).1 hempty)
  | @object name c hs hunique hchild =>
    obtain ⟨base, -, hres⟩ := reserves_of_uniqueTypeName hunique
    obtain ⟨package, -, rfl⟩ := childObject_eq_ok.1 hchild
    exact ih _ rfl rfl (h.childIn hp hlead hs hres.isBareName)

/-- A resolvable object with well-formed affixes resolves. -/
theorem exists_resolve (ha : o.affixes.WellFormed) (h : o.Resolvable) :
    ∃ r, (Node.object o).resolve.outcome = .ok r := by
  -- Objects among the properties have the same affixes and are smaller.
  induction hw : (Node.object o).weight using Nat.strongRecOn generalizing o with
  | ind w ih =>
    obtain ⟨className, hname⟩ := exists_className ha h.name
    have hclassify : ∀ p ∈ o.properties, ∀ names,
        ∃ child names', o.classify p.1 p.2 names = .ok (child, names') := fun p hp names =>
      exists_classifyAt ha h.name fun _ _ => h.acceptable hp
    have hfield : ∀ p ∈ o.properties, ∃ candidate, Java.fieldName p.1 = .ok candidate :=
      fun p hp => Java.exists_fieldName_iff.2 (h.acceptable hp (.here p.2)).fieldName
    obtain ⟨members, hmembers⟩ := exists_collects hclassify
      (fun p hp names child names' hc => h.exists_resolve_innermost hp hc fun c hinner hc' hres =>
        ih _ (hw ▸ weight_lt_of_classify hp hc hinner) (hc' ▸ ha) hres rfl)
      hfield (.forOwner className) o.reservedFieldNames
    exact ⟨_, resolve_eq_ok.2 ⟨className, members, hname, hmembers, rfl⟩⟩

/-- With well-formed affixes an object resolves exactly if its name leads with a letter and all
schemas visited from it are acceptable. -/
theorem exists_resolve_iff (ha : o.affixes.WellFormed) :
    (∃ r, (Node.object o).resolve.outcome = .ok r) ↔
      Java.leadsWithLetter o.name = true ∧
        ∀ key s, o.Visits key s → s.Acceptable o.typeTable key :=
  ⟨fun ⟨_, hr⟩ => ⟨(resolvable_of_resolve hr).name, (resolvable_of_resolve hr).visited⟩,
    fun h => exists_resolve ha ⟨h.1, h.2⟩⟩

/-- An object whose keys lead with digits and symbols where no type is named for them. -/
theorem exists_resolve_iff_digits :
    let entry : Schema :=
      { type := some "object"
        properties := some [("$ref", { intOrString := some true, type := some "string" })] }
    let o : ObjectNode :=
      { name := "-spec"
        affixes := ⟨"$K8s", "_2"⟩
        properties := [
          ("1st", { type := some "integer" }),
          ("all", { type := some "array", items := some entry }),
          ("mode", { type := some "string", enum := some [.str "*", .null] })] }
    o.affixes.WellFormed ∧ (∃ r, (Node.object o).resolve.outcome = .ok r) ∧
      Java.leadsWithLetter o.name = true ∧
        ∀ key s, o.Visits key s → s.Acceptable o.typeTable key := by
  intro entry o
  have ha : o.affixes.WellFormed := ⟨.inr (by decide), .inr (by decide)⟩
  obtain ⟨r, hr, -⟩ : ∃ r, (Node.object o).resolve.outcome = .ok r ∧ true = true :=
    exists_eq_ok (f := fun _ => true) (by decide +kernel)
  exact ⟨ha, ⟨r, hr⟩, (exists_resolve_iff ha).1 ⟨r, hr⟩⟩

end ObjectNode

end KubeJava
