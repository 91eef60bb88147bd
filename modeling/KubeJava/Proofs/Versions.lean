import KubeJava.Generation.Resources
import KubeJava.Proofs.Resolution

set_option autoImplicit false

/-! # What definitions give

A definition generates if its group has a package and each of its versions generates, and its types
are those of the versions in order. A version has an object for each section of its schema; its
types are those of the sections, and after them the class of the resource. -/

namespace KubeJava

variable {settings : Settings} {d : Definition} {v : Version} {g : Generation}

/-! ## One after the other -/

/-- The generation is made of the parts: one for each item, and the types of all parts in order. -/
structure Generation.MadeOf {α : Type} (one : α → Logged GenerationError Generation)
    (items : List α) (g : Generation) (parts : List (α × Generation)) : Prop where
  items_eq : parts.map Prod.fst = items
  each : ∀ p ∈ parts, (one p.1).outcome = .ok p.2
  topLevel : g.types.topLevel = parts.flatMap fun p => p.2.types.topLevel
  nested : g.types.nested = parts.flatMap fun p => p.2.types.nested

/-- Whatever takes items one after the other and merges what they give is made of parts. -/
theorem Generation.exists_madeOf {α : Type} (one : α → Logged GenerationError Generation)
    (all : List α → Logged GenerationError Generation) (hnil : all [] = pure {})
    (hcons : ∀ a rest, all (a :: rest) = do
      let first ← one a
      let others ← all rest
      return first.merge others)
    {items : List α} (h : (all items).outcome = .ok g) :
    ∃ parts, Generation.MadeOf one items g parts := by
  induction items generalizing g with
  | nil =>
    rw [hnil, Logged.outcome_pure, Except.ok.injEq] at h
    subst h
    exact ⟨[], rfl, by simp, rfl, rfl⟩
  | cons a rest ih =>
    simp only [hcons, Logged.outcome_bind, Logged.outcome_pure, bind_eq_ok, Except.ok.injEq] at h
    obtain ⟨first, hfirst, others, hothers, rfl⟩ := h
    obtain ⟨parts, hparts⟩ := ih hothers
    refine ⟨(a, first) :: parts, ?_, ?_, ?_, ?_⟩
    · simp [hparts.items_eq]
    · exact List.forall_mem_cons.2 ⟨hfirst, hparts.each⟩
    · simp [hparts.topLevel]
    · simp [hparts.nested]

/-! ## Resources -/

/-- The class of the resource. -/
def ResourceNode.declaration (r : ResourceNode) : Java.ResourceDeclaration :=
  { name := r.kind
    package := r.package
    group := r.group
    version := r.version
    specType := r.specType
    statusType := r.statusType
    flags := r.flags
    namespaced := r.namespaced }

theorem ResourceNode.resolve_eq_ok {r : ResourceNode} {res : Resolved} : r.resolve = .ok res ↔
    Java.isIdentifier r.kind = true ∧
      res = ⟨Java.qualify r.package r.kind, ⟨[r.declaration.toRecord], []⟩⟩ := by
  simp only [ResourceNode.resolve, ResourceNode.typeReference, bind_eq_ok, pure_eq_ok,
    Java.ensureIdentifier_eq_ok]
  constructor
  · rintro ⟨_, ⟨hkind, rfl⟩, _, ⟨_, ⟨-, rfl⟩, rfl⟩, rfl⟩
    exact ⟨hkind, rfl⟩
  · rintro ⟨hkind, rfl⟩
    exact ⟨_, ⟨hkind, rfl⟩, _, ⟨_, ⟨hkind, rfl⟩, rfl⟩, rfl⟩

/-! ## Versions -/

/-- The package of a version. -/
def Definition.packageOf (d : Definition) (v : Version) : Except GenerationError Text := do
  return Java.qualify (some (← Java.packageForGroup d.group)) v.name

/-- The objects for the sections that the schema of a version has. -/
def Version.sections (v : Version) (settings : Settings) (kind package : Text) :
    List ObjectNode :=
  [specSection, statusSection].flatMap fun name =>
    ((v.properties.lookup name).map (sectionNode settings kind package name)).toList

@[simp] theorem mem_sections_iff {kind package : Text} {o : ObjectNode} :
    o ∈ v.sections settings kind package ↔ ∃ name s, (name = specSection ∨ name = statusSection) ∧
      v.properties.lookup name = some s ∧ o = sectionNode settings kind package name s := by
  simp only [Version.sections, List.mem_flatMap, List.mem_cons, List.not_mem_nil, or_false,
    Option.mem_toList, Option.map_eq_some_iff]
  constructor
  · rintro ⟨name, hname, s, hs, rfl⟩
    exact ⟨name, s, hname, hs, rfl⟩
  · rintro ⟨name, s, hname, hs, rfl⟩
    exact ⟨name, hname, s, hs, rfl⟩

/-- A version of the definition has the object for one of its sections. -/
def Definition.HasSection (settings : Settings) (d : Definition) (v : Version) (o : ObjectNode) :
    Prop :=
  v ∈ d.versions ∧ ∃ package, d.packageOf v = .ok package ∧
    o ∈ v.sections settings d.names.kind package

/-- The generation of a version in a package is made of its resolved sections and the class of the
resource. -/
structure Version.MadeOf (settings : Settings) (d : Definition) (package : Text) (v : Version)
    (g : Generation) (sections : List (ObjectNode × Resolved))
    (resource : Java.ResourceDeclaration) : Prop where
  sections_eq : sections.map Prod.fst = v.sections settings d.names.kind package
  each : ∀ p ∈ sections, (Node.object p.1).resolve.outcome = .ok p.2
  isIdentifier : Java.isIdentifier d.names.kind = true
  name_eq : resource.name = d.names.kind
  package_eq : resource.package = some package
  topLevel : g.types.topLevel =
    sections.flatMap (fun p => p.2.types.topLevel) ++ [resource.toRecord]
  nested : g.types.nested = sections.flatMap fun p => p.2.types.nested

theorem Version.MadeOf.exists_eq_sectionNode {package : Text}
    {sections : List (ObjectNode × Resolved)} {resource : Java.ResourceDeclaration}
    (h : Version.MadeOf settings d package v g sections resource) {p : ObjectNode × Resolved}
    (hp : p ∈ sections) : ∃ name s, p.1 = sectionNode settings d.names.kind package name s := by
  have hmem : p.1 ∈ v.sections settings d.names.kind package := by
    rw [← h.sections_eq]
    exact List.mem_map_of_mem hp
  obtain ⟨name, s, -, -, heq⟩ := mem_sections_iff.1 hmem
  exact ⟨name, s, heq⟩

/-- A section resolves as its object does, and a section that is absent has no types. -/
theorem exists_resolved_section {kind package name : Text} {s : Option Schema} {r : Resolved}
    (h : (resolveSection settings kind package name s).outcome = .ok r) :
    ∃ sections : List (ObjectNode × Resolved),
      sections.map Prod.fst = (s.map (sectionNode settings kind package name)).toList ∧
      (∀ p ∈ sections, (Node.object p.1).resolve.outcome = .ok p.2) ∧
      r.types = ⟨sections.flatMap fun p => p.2.types.topLevel,
        sections.flatMap fun p => p.2.types.nested⟩ := by
  cases s with
  | none =>
    rw [resolveSection, Logged.outcome_pure, Except.ok.injEq] at h
    subst h
    exact ⟨[], rfl, by simp, rfl⟩
  | some s =>
    refine ⟨[(sectionNode settings kind package name s, r)], rfl, ?_, by simp⟩
    rw [List.forall_mem_singleton]
    exact h

/-- The sections and the resource of a version put together. -/
theorem Version.exists_madeOf {package : Text} {resource : ResourceNode} {warnings : List Text}
    {spec status wrapper : Resolved}
    (hspec : (resolveSection settings d.names.kind package specSection
      (v.properties.lookup specSection)).outcome = .ok spec)
    (hstatus : (resolveSection settings d.names.kind package statusSection
      (v.properties.lookup statusSection)).outcome = .ok status)
    (hwrapper : resource.resolve = .ok wrapper) (hkind : resource.kind = d.names.kind)
    (hpackage : resource.package = some package) :
    ∃ sections, Version.MadeOf settings d package v
      ⟨(spec.types.merge status.types).merge wrapper.types, warnings⟩ sections
      resource.declaration := by
  obtain ⟨specs, hspecs, hspecEach, hspecTypes⟩ := exists_resolved_section hspec
  obtain ⟨statuses, hstatuses, hstatusEach, hstatusTypes⟩ := exists_resolved_section hstatus
  obtain ⟨hid, rfl⟩ := ResourceNode.resolve_eq_ok.1 hwrapper
  refine ⟨specs ++ statuses, ?_, ?_, hkind ▸ hid, hkind, hpackage, ?_, ?_⟩
  · simp [hspecs, hstatuses, Version.sections]
  · exact List.forall_mem_append.2 ⟨hspecEach, hstatusEach⟩
  · simp [hspecTypes, hstatusTypes]
  · simp [hspecTypes, hstatusTypes]

theorem exists_parts_of_generateVersion {base : Text}
    (h : (generateVersion settings d base v).outcome = .ok g) :
    ∃ sections resource,
      Version.MadeOf settings d (Java.qualify (some base) v.name) v g sections resource := by
  simp only [generateVersion, Logged.outcome_bind, Logged.outcome_pure, outcome_liftM, bind_eq_ok,
    Except.ok.injEq] at h
  obtain ⟨warnings, -, spec, hspec, status, hstatus, wrapper, hwrapper, rfl⟩ := h
  obtain ⟨sections, hsections⟩ := Version.exists_madeOf hspec hstatus hwrapper rfl rfl
  exact ⟨sections, _, hsections⟩

/-! ## Definitions -/

/-- What a definition gives, version by version. -/
theorem exists_parts_of_generateDefinition
    (h : (generateDefinition settings d).outcome = .ok g) :
    ∃ base parts, Java.packageForGroup d.group = .ok base ∧
      Generation.MadeOf (generateVersion settings d base) d.versions g parts := by
  simp only [generateDefinition, Logged.outcome_bind, outcome_liftM, Logged.outcome_report,
    bind_eq_ok] at h
  obtain ⟨base, hbase, -, -, hversions⟩ := h
  obtain ⟨parts, hparts⟩ := Generation.exists_madeOf (generateVersion settings d base)
    (generateVersions settings d base) rfl (fun _ _ => rfl) hversions
  exact ⟨base, parts, hbase, hparts⟩

theorem exists_parts_of_generateAll {ds : List Definition}
    (h : (generateAll settings ds).outcome = .ok g) :
    ∃ parts, Generation.MadeOf (generateDefinition settings) ds g parts :=
  Generation.exists_madeOf _ (generateAll settings) rfl (fun _ _ => rfl) h

end KubeJava
