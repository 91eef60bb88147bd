import KubeJava.Proofs.Packages

set_option autoImplicit false

/-! # Names of the classes of a definition

Within a version the sections are placed like the objects among the properties of one object: their
classes share the affixes and the package of the version, and their bare names differ. So the
classes of a version have the names of the paths in all of its sections, and the class of the
resource has the name of the kind beside them. -/

namespace KubeJava

open Java (Affixes)

/-! ## Names in packages -/

namespace Java

variable {a : Affixes} {s : Settings} {p q m n : Text}

theorem dotParts_qualify (hn : ('.' : CodePoint) ∉ n) :
    (qualify (some p) n).dotParts = (if p = [] then [] else p.dotParts) ++ [n] := by
  by_cases h : p = [] <;> simp [h, hn]

theorem dotParts_injective (h : p.dotParts = q.dotParts) : p = q := by
  rw [← Text.intercalate_partsAt ('.' : CodePoint) p, ←
    Text.intercalate_partsAt ('.' : CodePoint) q]
  exact congrArg _ h

/-- Names without dots are told apart from the packages that they are in. -/
theorem qualify_eq_qualify_iff (hm : ('.' : CodePoint) ∉ m) (hn : ('.' : CodePoint) ∉ n) :
    qualify (some p) m = qualify (some q) n ↔ p = q ∧ m = n := by
  constructor
  · intro h
    have hparts := congrArg Text.dotParts h
    rw [dotParts_qualify hm, dotParts_qualify hn] at hparts
    obtain ⟨hpackage, hname⟩ := List.append_inj' hparts rfl
    refine ⟨?_, List.singleton_inj.1 hname⟩
    by_cases hp : p = [] <;> by_cases hq : q = []
    · rw [hp, hq]
    · simp [hp, hq] at hpackage
    · simp [hp, hq] at hpackage
    · rw [if_neg hp, if_neg hq] at hpackage
      exact dotParts_injective hpackage
  · rintro ⟨rfl, rfl⟩
    rfl

/-- The class at a path has the decorated name of the last object, in the package that the names of
the objects around it spell. -/
theorem qualify_pathName {package : Option Text} {topLevel : Bool} {around : List Text}
    {last : Text} (h : IsClassPath a s topLevel (around ++ [last])) :
    qualify package (pathName a s topLevel (around ++ [last])) =
      qualify (packageBelow package (around.map fun bare => escapeKeyword bare.lower))
        (decorate a s (topLevel && around.isEmpty) last) := by
  induction around generalizing package topLevel with
  | nil => simp [pathName, packageBelow]
  | cons bare rest ih =>
    have hne : rest ++ [last] ≠ [] := by simp
    rw [List.cons_append, ObjectNode.isClassPath_cons hne] at h
    obtain ⟨hbare, hrest⟩ := h
    rw [List.cons_append, ObjectNode.pathName_cons hne, List.map_cons, packageBelow_cons,
      ← qualify_qualify (segment_ne_nil hbare), ih hrest]
    simp

/-- The name of the last object at a path is an identifier in all but form: it has no dot. -/
theorem IsClassPath.dot_not_mem {topLevel : Bool} {around : List Text} {last : Text}
    (h : IsClassPath a s topLevel (around ++ [last])) :
    ('.' : CodePoint) ∉ decorate a s (topLevel && around.isEmpty) last := by
  induction around generalizing topLevel with
  | nil => simpa using h.2
  | cons bare rest ih =>
    rw [List.cons_append, ObjectNode.isClassPath_cons (by simp)] at h
    simpa using ih h.2

/-- Packages for different segments in one package have no class in common. -/
theorem segment_eq_of_qualify_eq {package : Option Text} {v w : Text} (hv : v ≠ []) (hw : w ≠ [])
    (hvdot : ('.' : CodePoint) ∉ v) (hwdot : ('.' : CodePoint) ∉ w)
    (h : qualify (some (qualify package v)) m = qualify (some (qualify package w)) n) : v = w := by
  rw [qualify_qualify hv, qualify_qualify hw] at h
  exact (append_cons_inj_of_not_mem hvdot hwdot (qualify_injective h)).1

end Java

/-! ## Sections -/

variable {settings : Settings} {d : Definition} {v : Version} {g : Generation} {package : Text}

/-- The qualified names of the top-level classes. -/
def Generation.classNames (g : Generation) : List Text :=
  g.types.topLevel.map TypeRecord.qualifiedName

/-- The affixes of all types of a definition. -/
def Definition.affixes (settings : Settings) (d : Definition) : Affixes :=
  ⟨d.names.kind, settings.suffix⟩

/-- The qualified name of the class at a path through a section. -/
def Definition.nameAt (settings : Settings) (d : Definition) (package : Text)
    (path : List Text) : Text :=
  Java.qualify (some package) (Java.pathName (d.affixes settings) settings true path)

/-- The bare names of two objects differ in more than the case of letters. -/
def ObjectNode.Apart (o o' : ObjectNode) : Prop :=
  ∀ bare bare', o.bareName = .ok bare → o'.bareName = .ok bare' → bare.lower ≠ bare'.lower

@[simp] theorem bareName_sectionNode {kind name : Text} {s : Schema} :
    (sectionNode settings kind package name s).bareName = Java.typeName name :=
  rfl

theorem pairwise_apart_sections {kind : Text} :
    (v.sections settings kind package).Pairwise ObjectNode.Apart := by
  have hapart : ∀ s t, (sectionNode settings kind package specSection s).Apart
      (sectionNode settings kind package statusSection t) := by
    intro s t bare bare' hbare hbare'
    rw [bareName_sectionNode, Java.typeName_eq_ok] at hbare hbare'
    rw [hbare.2, hbare'.2]
    decide
  simp only [Version.sections, List.flatMap_cons, List.flatMap_nil, List.append_nil]
  rw [List.pairwise_append]
  refine ⟨?_, ?_, ?_⟩
  · cases v.properties.lookup specSection <;> simp
  · cases v.properties.lookup statusSection <;> simp
  · intro o ho o' ho'
    simp only [Option.mem_toList, Option.map_eq_some_iff] at ho ho'
    obtain ⟨s, -, rfl⟩ := ho
    obtain ⟨t, -, rfl⟩ := ho'
    exact hapart s t

/-! ## The classes of a version -/

/-- The paths are those of the objects in the sections of a version, each one once; its classes have
their names, and the class of the resource that of the kind. -/
structure Version.HasPaths (settings : Settings) (d : Definition) (package : Text) (v : Version)
    (g : Generation) (paths : List (List Text)) : Prop where
  names : g.classNames =
    paths.map (d.nameAt settings package) ++ [Java.qualify (some package) d.names.kind]
  nodup : paths.Nodup
  mem_iff : ∀ path, path ∈ paths ↔
    ∃ o ∈ v.sections settings d.names.kind package, ∃ c, o.ObjectAt path c
  isClassPath : ∀ path ∈ paths, Java.IsClassPath (d.affixes settings) settings true path

theorem Version.MadeOf.exists_hasPaths {sections : List (ObjectNode × Resolved)}
    {resource : Java.ResourceDeclaration}
    (h : Version.MadeOf settings d package v g sections resource) :
    ∃ paths, Version.HasPaths settings d package v g paths := by
  have hall : ∀ p ∈ sections, ∃ paths, p.1.HasPaths p.2 paths := fun p hp =>
    ObjectNode.exists_hasPaths (h.each p hp)
  choose! pathsOf hpaths using hall
  have hapart : sections.Pairwise fun p q => p.1.Apart q.1 := by
    rw [← List.pairwise_map, h.sections_eq]
    exact pairwise_apart_sections
  refine ⟨sections.flatMap pathsOf, ?_, ?_, ?_, ?_⟩
  · rw [Generation.classNames, h.topLevel, List.map_append, List.map_flatMap, List.map_flatMap]
    congr 1
    · refine List.flatMap_congr fun p hp => ?_
      obtain ⟨name, s, heq⟩ := h.exists_eq_sectionNode hp
      rw [(hpaths p hp).names]
      refine List.map_congr_left fun path _ => ?_
      rw [heq]
      rfl
    · change [Java.qualify resource.package resource.name] = _
      rw [h.package_eq, h.name_eq]
  · -- Paths through different sections start with different names.
    refine List.nodup_flatMap.2 ⟨fun p hp => (hpaths p hp).nodup, ?_⟩
    refine hapart.imp_of_mem fun {p q} hp hq hne path hpath hpath' => ?_
    obtain ⟨c, hc⟩ := ((hpaths p hp).mem_iff path).1 hpath
    obtain ⟨c', hc'⟩ := ((hpaths q hq).mem_iff path).1 hpath'
    obtain ⟨bare, rest, hbare, rfl⟩ := hc.eq_cons
    obtain ⟨bare', rest', hbare', heq⟩ := hc'.eq_cons
    obtain ⟨rfl, -⟩ := List.cons.inj heq
    exact hne bare bare hbare hbare' rfl
  · intro path
    rw [List.mem_flatMap, ← h.sections_eq]
    constructor
    · rintro ⟨p, hp, hpath⟩
      exact ⟨p.1, List.mem_map_of_mem hp, ((hpaths p hp).mem_iff path).1 hpath⟩
    · rintro ⟨o, ho, hc⟩
      obtain ⟨p, hp, rfl⟩ := List.mem_map.1 ho
      exact ⟨p, hp, ((hpaths p hp).mem_iff path).2 hc⟩
  · intro path hpath
    obtain ⟨p, hp, hpath⟩ := List.mem_flatMap.1 hpath
    have hclass := (hpaths p hp).isClassPath path hpath
    obtain ⟨name, s, heq⟩ := h.exists_eq_sectionNode hp
    rw [heq] at hclass
    exact hclass

end KubeJava
