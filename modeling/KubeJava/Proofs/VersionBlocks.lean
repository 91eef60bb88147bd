import KubeJava.Proofs.Versions

set_option autoImplicit false

/-! # What each version contributes

The versions of a definition generate independently of one another. What a definition gives is what
its versions give on their own, one after the other, and it fails as the first of them that fails.
Each version contributes one block of top-level types: the types of its spec, those of its status,
and the class of the resource, which refers to the last type of either. -/

namespace KubeJava

variable {settings : Settings} {d : Definition} {v : Version} {g : Generation} {base : Text}

/-! ## One version after the other -/

@[simp] theorem outcome_generateVersions_cons {rest : List Version} :
    (generateVersions settings d base (v :: rest)).outcome = (do
      let first ← (generateVersion settings d base v).outcome
      let others ← (generateVersions settings d base rest).outcome
      return first.merge others) := by
  simp [generateVersions]

theorem outcome_generateVersions_singleton :
    (generateVersions settings d base [v]).outcome = (generateVersion settings d base v).outcome := by
  rw [outcome_generateVersions_cons, generateVersions]
  cases (generateVersion settings d base v).outcome <;> simp

theorem generateVersions_append_eq_ok {vs ws : List Version} :
    (generateVersions settings d base (vs ++ ws)).outcome = .ok g ↔
      ∃ g₁ g₂, (generateVersions settings d base vs).outcome = .ok g₁ ∧
        (generateVersions settings d base ws).outcome = .ok g₂ ∧ g = g₁.merge g₂ := by
  induction vs generalizing g with
  | nil =>
    have hnil : (generateVersions settings d base []).outcome = .ok {} := rfl
    simp only [List.nil_append, hnil, Except.ok.injEq]
    constructor
    · intro h
      exact ⟨{}, g, rfl, h, g.empty_merge.symm⟩
    · rintro ⟨_, g₂, rfl, h, rfl⟩
      simpa using h
  | cons v rest ih =>
    simp only [List.cons_append, outcome_generateVersions_cons, bind_eq_ok, pure_eq_ok, ih]
    constructor
    · rintro ⟨first, hfirst, _, ⟨g₁, g₂, h₁, h₂, rfl⟩, rfl⟩
      exact ⟨first.merge g₁, g₂, ⟨first, hfirst, g₁, h₁, rfl⟩, h₂,
        (Generation.merge_assoc first g₁ g₂).symm⟩
    · rintro ⟨_, g₂, ⟨first, hfirst, g₁, h₁, rfl⟩, h₂, rfl⟩
      exact ⟨first, hfirst, _, ⟨g₁, g₂, h₁, h₂, rfl⟩, (Generation.merge_assoc first g₁ g₂).symm⟩

/-- Versions fail as the first of them that fails. -/
theorem generateVersions_eq_error_iff {vs : List Version} {e : GenerationError} :
    (generateVersions settings d base vs).outcome = .error e ↔
      ∃ before v after, vs = before ++ v :: after ∧
        (∀ u ∈ before, ∃ g, (generateVersion settings d base u).outcome = .ok g) ∧
        (generateVersion settings d base v).outcome = .error e := by
  induction vs with
  | nil =>
    refine iff_of_false ?_ ?_
    · intro h
      cases h
    · rintro ⟨before, v, after, heq, -⟩
      simp at heq
  | cons u rest ih =>
    rw [outcome_generateVersions_cons, bind_eq_error]
    constructor
    · rintro (h | ⟨first, hfirst, h⟩)
      · exact ⟨[], u, rest, rfl, by simp, h⟩
      · -- What follows a version that generates fails on its own.
        rcases bind_eq_error.1 h with h | ⟨others, -, h⟩
        · obtain ⟨before, v, after, rfl, hbefore, hv⟩ := ih.1 h
          refine ⟨u :: before, v, after, rfl, ?_, hv⟩
          exact List.forall_mem_cons.2 ⟨⟨first, hfirst⟩, hbefore⟩
        · cases h
    · rintro ⟨before, v, after, heq, hbefore, hv⟩
      cases before with
      | nil =>
        obtain ⟨rfl, rfl⟩ := List.cons.inj heq
        exact .inl hv
      | cons w before =>
        obtain ⟨rfl, rfl⟩ := List.cons.inj heq
        obtain ⟨⟨first, hfirst⟩, hrest⟩ := List.forall_mem_cons.1 hbefore
        refine .inr ⟨first, hfirst, bind_eq_error.2 (.inl ?_)⟩
        exact ih.2 ⟨before, v, after, rfl, hrest, hv⟩

/-! ## Definitions with other versions -/

/-- The definition with the given versions in the place of its own. -/
def Definition.withVersions (d : Definition) (vs : List Version) : Definition :=
  { d with versions := vs }

/-- A version generates as it does beside any other versions. -/
@[simp] theorem generateVersions_withVersions {vs ws : List Version} :
    generateVersions settings (d.withVersions vs) base ws = generateVersions settings d base ws := by
  induction ws with
  | nil => rfl
  | cons v rest ih =>
    rw [generateVersions, generateVersions, ih]
    rfl

@[simp] theorem outcome_generateDefinition : (generateDefinition settings d).outcome = (do
    let base ← Java.packageForGroup d.group
    (generateVersions settings d base d.versions).outcome) := by
  simp [generateDefinition]

theorem outcome_generateDefinition_withVersions {vs : List Version} :
    (generateDefinition settings (d.withVersions vs)).outcome = (do
      let base ← Java.packageForGroup d.group
      (generateVersions settings d base vs).outcome) := by
  rw [outcome_generateDefinition]
  simp only [generateVersions_withVersions]
  rfl

/-- In the package of its group, a version on its own generates what it does among others. -/
theorem outcome_generateDefinition_singleton (hbase : Java.packageForGroup d.group = .ok base) :
    (generateDefinition settings (d.withVersions [v])).outcome =
      (generateVersion settings d base v).outcome := by
  rw [outcome_generateDefinition_withVersions, hbase]
  exact outcome_generateVersions_singleton

/-! ## Blocks -/

/-- The block of a section, the type that the resource refers to it by, and whether the resource
has it: all three go by whether the schema of the version has a property of that name. -/
structure Version.SectionBlock (settings : Settings) (kind package : Text) (v : Version)
    (name : Text) (block : List TypeRecord) (reference : Text) (flag : Bool) : Prop where
  absent : v.properties.lookup name = none → block = []
  present : ∀ s, v.properties.lookup name = some s → ∃ r last,
    (Node.object (sectionNode settings kind package name s)).resolve.outcome = .ok r ∧
      block = r.types.topLevel ∧ block.getLast? = some last ∧ reference = last.qualifiedName
  void_iff : reference = Java.voidType ↔ v.properties.lookup name = none
  flag_eq : flag = (v.properties.lookup name).isSome

/-- The top-level types of a version are those of its sections and after them the class of the
resource, which refers to the sections. -/
structure Version.Contributes (settings : Settings) (d : Definition) (package : Text)
    (v : Version) (g : Generation) (spec status : List TypeRecord)
    (resource : Java.ResourceDeclaration) : Prop where
  topLevel : g.types.topLevel = spec ++ status ++ [resource.toRecord]
  name_eq : resource.name = d.names.kind
  package_eq : resource.package = some package
  spec : v.SectionBlock settings d.names.kind package specSection spec resource.specType
    resource.flags.withSpec
  status : v.SectionBlock settings d.names.kind package statusSection status resource.statusType
    resource.flags.withStatus

/-- The warnings of a version: one if it has no schema. -/
def Version.warnings (kind : Text) (v : Version) : List Text :=
  if v.schema?.isNone then [Event.missingSchemaText kind v.name] else []

@[simp] theorem outcome_reportMissingSchema {kind : Text} :
    (reportMissingSchema kind v).outcome = .ok (v.warnings kind) := by
  rw [reportMissingSchema, Version.warnings]
  cases v.schema? <;> rfl

theorem Java.mem_qualify {package : Option Text} {name : Text} {c : CodePoint} (h : c ∈ name) :
    c ∈ qualify package name := by
  rcases package with _ | _ | ⟨c, rest⟩ <;> simp [h]

/-- The class of a section whose bare name has a capital S is not taken for the void type. -/
theorem sectionBlock_of_resolveSection {kind package name : Text} {r : Resolved}
    (hname : ('S' : CodePoint) ∈ Java.pascalCase name)
    (h : (resolveSection settings kind package name (v.properties.lookup name)).outcome = .ok r) :
    v.SectionBlock settings kind package name r.types.topLevel r.reference
      (v.properties.lookup name).isSome := by
  cases hs : v.properties.lookup name with
  | none =>
    rw [hs, resolveSection, Logged.outcome_pure, Except.ok.injEq] at h
    subst h
    exact ⟨fun _ => rfl, fun s heq => by simp [hs] at heq, iff_of_true rfl hs, by rw [hs]⟩
  | some s =>
    rw [hs] at h
    have hr : (Node.object (sectionNode settings kind package name s)).resolve.outcome = .ok r := h
    obtain ⟨className, members, hclass, -, rfl⟩ := ObjectNode.resolve_eq_ok.1 hr
    refine ⟨fun heq => by simp [hs] at heq, fun t ht => ?_, ?_, by rw [hs]⟩
    · obtain rfl : s = t := Option.some.inj (hs.symm.trans ht)
      exact ⟨_, _, hr, rfl, List.getLast?_concat, rfl⟩
    · refine iff_of_false ?_ (by simp [hs])
      -- The decorated name keeps the bare one inside, and the void type has no capital S.
      obtain ⟨bare, hbare, hdecorated⟩ := bind_eq_ok.1 hclass
      obtain ⟨-, rfl⟩ := Java.applyAffixes_eq_ok.1 hdecorated
      obtain ⟨-, rfl⟩ := Java.typeName_eq_ok.1 hbare
      obtain ⟨before, after, -, -, heq⟩ := Java.decorate_eq
        (sectionNode settings kind package name s).affixes settings true
      intro hvoid
      have hmem : ('S' : CodePoint) ∈ Java.voidType := by
        rw [← hvoid]
        show ('S' : CodePoint) ∈ Java.qualify (some package)
          (Java.decorate _ settings true (Java.pascalCase name))
        rw [heq]
        apply Java.mem_qualify
        exact List.mem_append_left _ (List.mem_append_right _ hname)
      exact absurd hmem (by decide)

/-- What a version contributes. -/
theorem contributes_of_generateVersion
    (h : (generateVersion settings d base v).outcome = .ok g) :
    g.warnings = v.warnings d.names.kind ∧ ∃ spec status resource,
      v.Contributes settings d (Java.qualify (some base) v.name) g spec status resource := by
  simp only [generateVersion, Logged.outcome_bind, Logged.outcome_pure, outcome_liftM,
    outcome_reportMissingSchema, bind_eq_ok, Except.ok.injEq] at h
  obtain ⟨_, rfl, spec, hspec, status, hstatus, wrapper, hwrapper, rfl⟩ := h
  obtain ⟨-, rfl⟩ := ResourceNode.resolve_eq_ok.1 hwrapper
  refine ⟨rfl, spec.types.topLevel, status.types.topLevel, _, rfl, rfl, rfl, ?_, ?_⟩
  · exact sectionBlock_of_resolveSection (by decide) hspec
  · exact sectionBlock_of_resolveSection (by decide) hstatus

/-- One warning for each version without a schema, in order. -/
theorem warnings_of_generateVersions {vs : List Version}
    (h : (generateVersions settings d base vs).outcome = .ok g) :
    g.warnings = (vs.filter fun v => v.schema?.isNone).map fun v =>
      Event.missingSchemaText d.names.kind v.name := by
  induction vs generalizing g with
  | nil =>
    obtain rfl := Except.ok.inj h
    rfl
  | cons v rest ih =>
    rw [outcome_generateVersions_cons] at h
    simp only [bind_eq_ok, pure_eq_ok] at h
    obtain ⟨first, hfirst, others, hothers, rfl⟩ := h
    rw [Generation.warnings_merge, (contributes_of_generateVersion hfirst).1, ih hothers,
      Version.warnings]
    by_cases hschema : v.schema?.isNone = true <;> simp [hschema]

/-! ## Definitions -/

/-- A definition generates in order. It succeeds exactly if both parts of its versions do, whichever
way they are split, with what the first gives before what the second gives; it fails as the first
version that fails on its own; and each version contributes its warning and its block. -/
theorem generateDefinition_in_order (settings : Settings) (d : Definition) :
    (∀ vs ws, d.versions = vs ++ ws → ∀ g, (generateDefinition settings d).outcome = .ok g ↔
      ∃ g₁ g₂, (generateDefinition settings (d.withVersions vs)).outcome = .ok g₁ ∧
        (generateDefinition settings (d.withVersions ws)).outcome = .ok g₂ ∧ g = g₁.merge g₂) ∧
    (∀ base e, Java.packageForGroup d.group = .ok base →
      ((generateDefinition settings d).outcome = .error e ↔
        ∃ before v after, d.versions = before ++ v :: after ∧
          (∀ u ∈ before, ∃ g, (generateDefinition settings (d.withVersions [u])).outcome = .ok g) ∧
          (generateDefinition settings (d.withVersions [v])).outcome = .error e)) ∧
    ∀ g, (generateDefinition settings d).outcome = .ok g →
      g.warnings = (d.versions.filter fun v => v.schema?.isNone).map (fun v =>
        Event.missingSchemaText d.names.kind v.name) ∧
      ∃ parts, Generation.MadeOf (fun v => generateDefinition settings (d.withVersions [v]))
          d.versions g parts ∧
        ∀ p ∈ parts, ∃ package spec status resource, d.packageOf p.1 = .ok package ∧
          p.1.Contributes settings d package p.2 spec status resource := by
  refine ⟨?_, ?_, ?_⟩
  · intro vs ws hversions g
    rw [outcome_generateDefinition, outcome_generateDefinition_withVersions,
      outcome_generateDefinition_withVersions, hversions]
    -- A group without package fails for the whole and for the parts alike.
    cases Java.packageForGroup d.group with
    | error e =>
      refine iff_of_false ?_ ?_
      · intro h
        cases h
      · rintro ⟨g₁, g₂, h, -⟩
        cases h
    | ok base => exact generateVersions_append_eq_ok
  · intro base e hbase
    rw [outcome_generateDefinition, hbase]
    simp only [outcome_generateDefinition_singleton hbase]
    exact generateVersions_eq_error_iff
  · intro g h
    obtain ⟨base, parts, hbase, hparts⟩ := exists_parts_of_generateDefinition h
    have hversions : (generateVersions settings d base d.versions).outcome = .ok g := by
      rw [outcome_generateDefinition, hbase] at h
      exact h
    refine ⟨warnings_of_generateVersions hversions, parts, ?_, ?_⟩
    · refine ⟨hparts.items_eq, fun p hp => ?_, hparts.topLevel, hparts.nested⟩
      rw [outcome_generateDefinition_singleton hbase]
      exact hparts.each p hp
    · intro p hp
      obtain ⟨-, spec, status, resource, hblock⟩ :=
        contributes_of_generateVersion (hparts.each p hp)
      refine ⟨Java.qualify (some base) p.1.name, spec, status, resource, ?_, hblock⟩
      rw [Definition.packageOf, hbase]
      rfl

end KubeJava
