import KubeJava.Proofs.ClassNames
import KubeJava.Proofs.SourcePaths
import Mathlib.Data.List.Pairwise

set_option autoImplicit false

/-! # Collisions of classes

Two classes of one qualified name would be written to one file. The classes of a definition keep
apart as long as the names of sibling objects differ in more than case: the versions have packages
of their own, and in a version the kind stands alone only in the name of the resource's class.
Definitions do not keep apart from each other. The kind is part of the names of the sections, but of
no package, so what lies inside the sections of two kinds meets in the same packages. -/

namespace KubeJava

open KubeJava.Path (IsPlainName)

/-! ## Objects apart -/

namespace ObjectNode

variable {o o' c d : ObjectNode} {os : List ObjectNode} {p q : List Text}

/-- The objects among the properties, inside lists and maps. -/
def children (o : ObjectNode) : List ObjectNode :=
  match o.nodes with
  | .ok nodes => nodes.filterMap fun node =>
    match node.innermost with
    | .object c => some c
    | _ => none
  | .error _ => []

theorem mem_children_of_mem {nodes : List Node} {node : Node} (h : o.nodes = .ok nodes)
    (hnode : node ∈ nodes) (hinner : node.innermost = .object c) : c ∈ o.children := by
  rw [children, h]
  exact List.mem_filterMap.2 ⟨node, hnode, by simp only [hinner]⟩

theorem exists_node_of_mem_children (h : c ∈ o.children) :
    ∃ nodes, o.nodes = .ok nodes ∧ ∃ node ∈ nodes, node.innermost = .object c := by
  unfold children at h
  split at h
  · next nodes hnodes =>
    obtain ⟨node, hnode, hsome⟩ := List.mem_filterMap.1 h
    refine ⟨nodes, hnodes, node, hnode, ?_⟩
    split at hsome
    · next hinner => rw [hinner, Option.some.inj hsome]
    · cases hsome
  · cases h

/-- Wherever objects lie side by side in the tree, their bare names differ in more than case. -/
def TreeApart (o : ObjectNode) : Prop :=
  ∀ path c, o.ObjectAt path c → c.children.Pairwise Apart

instance : Std.Symm Apart :=
  ⟨fun _ _ h bare bare' hbare hbare' => (h bare' bare hbare' hbare).symm⟩

instance (o o' : ObjectNode) : Decidable (o.Apart o') :=
  match h : o.bareName, h' : o'.bareName with
  | .ok bare, .ok bare' => decidable_of_iff (bare.lower ≠ bare'.lower) (by simp [Apart, h, h'])
  | .error _, _ => isTrue (by simp [Apart, h])
  | _, .error _ => isTrue (by simp [Apart, h'])

theorem TreeApart.of_mem_children {bare : Text} (h : o.TreeApart) (hbare : o.bareName = .ok bare)
    (hc : c ∈ o.children) : c.TreeApart := by
  intro path d hd
  obtain ⟨nodes, hnodes, node, hnode, hinner⟩ := exists_node_of_mem_children hc
  exact h _ d (.inside hbare hnodes hnode hinner hd)

/-- Paths that are alike up to the case of all names but the last start alike up to case. -/
theorem lower_head_eq {b b' : Text} (hlower : (b :: p).dropLast.map Text.lower =
    (b' :: q).dropLast.map Text.lower) (hlast : (b :: p).getLast? = (b' :: q).getLast?) :
    b.lower = b'.lower := by
  cases p with
  | nil =>
    cases q with
    | nil => rw [show b = b' from Option.some.inj hlast]
    | cons => simp at hlower
  | cons =>
    cases q with
    | nil => simp at hlower
    | cons => exact (List.cons.inj hlower).1

/-- Among objects that keep apart, with all that lies in them, the case of the names around the end
of a path makes no difference. -/
theorem path_eq_of_treeApart (hos : os.Pairwise Apart) (htree : ∀ o ∈ os, o.TreeApart)
    (ho : o ∈ os) (ho' : o' ∈ os) (hp : o.ObjectAt p c) (hq : o'.ObjectAt q d)
    (hlower : p.dropLast.map Text.lower = q.dropLast.map Text.lower)
    (hlast : p.getLast? = q.getLast?) : p = q := by
  induction hp generalizing os o' q d with
  | @here o bare hbare =>
    obtain ⟨bare', rest, -, rfl⟩ := hq.eq_cons
    cases rest with
    | nil => exact congrArg (fun t => [t]) (Option.some.inj hlast)
    | cons => simp at hlower
  | @inside o c e bare nodes node path hbare hnodes hnode hinner hpath ih =>
    obtain ⟨bare', rest, hbare', rfl⟩ := hq.eq_cons
    -- Different objects of the list would start the paths differently.
    have heq : o = o' := by
      by_contra hne
      exact hos.forall ho ho' hne bare bare' hbare hbare'
        (lower_head_eq hlower hlast)
    subst heq
    obtain ⟨next, others, -, rfl⟩ := hpath.eq_cons
    cases hq with
    | here => simp at hlower
    | @inside _ c' _ _ nodes' node' _ _ hnodes' hnode' hinner' hrest =>
      obtain ⟨next', others', -, rfl⟩ := hrest.eq_cons
      rw [Except.ok.inj (hbare.symm.trans hbare')]
      refine congrArg _ (ih (htree o ho [bare] o (.here hbare)) ?_
        (mem_children_of_mem hnodes hnode hinner) (mem_children_of_mem hnodes' hnode' hinner')
        hrest (List.cons.inj hlower).2 hlast)
      exact fun child hchild => (htree o ho).of_mem_children hbare hchild

/-- Whether all objects side by side keep apart, in a tree of at most the depth. -/
def apartWithin : (depth : Nat) → ObjectNode → Bool
  | 0, _ => false
  | depth + 1, o => decide (o.children.Pairwise Apart) && o.children.all (apartWithin depth)

theorem treeApart_of_apartWithin {depth : Nat} (h : o.apartWithin depth = true) :
    o.TreeApart := by
  intro path c hc
  induction hc generalizing depth with
  | here =>
    cases depth with
    | zero => cases h
    | succ depth => exact of_decide_eq_true (Bool.and_eq_true_iff.1 h).1
  | inside _ hnodes hnode hinner _ ih =>
    cases depth with
    | zero => cases h
    | succ depth =>
      exact ih (List.all_eq_true.1 (Bool.and_eq_true_iff.1 h).2 _
        (mem_children_of_mem hnodes hnode hinner))

end ObjectNode

variable {settings : Settings} {d : Definition} {v : Version} {g : Generation} {package : Text}

/-- Whether the objects in all sections keep apart, in trees of at most the depth. -/
def Definition.apartWithin (settings : Settings) (depth : Nat) (d : Definition) : Bool :=
  d.versions.all fun v =>
    match d.packageOf v with
    | .ok package => (v.sections settings d.names.kind package).all (·.apartWithin depth)
    | .error _ => true

theorem Definition.HasSection.treeApart {o : ObjectNode} {depth : Nat}
    (ho : d.HasSection settings v o) (h : d.apartWithin settings depth = true) :
    o.TreeApart := by
  obtain ⟨hv, package, hpackage, ho⟩ := ho
  have hall := List.all_eq_true.1 h v hv
  simp only [hpackage] at hall
  exact ObjectNode.treeApart_of_apartWithin (List.all_eq_true.1 hall o ho)

/-! ## Within a version -/

/-- Where prefixes are used, no class in a section has the name of the resource. -/
theorem pathName_ne_kind {path : List Text} (hpolicy : settings.prefixPolicy ≠ .never)
    (hkind : Java.isIdentifier d.names.kind = true)
    (hpath : Java.IsClassPath (d.affixes settings) settings true path) :
    Java.pathName (d.affixes settings) settings true path ≠ d.names.kind := by
  intro heq
  match path, hpath with
  | [bare], hpath =>
    have happlies : settings.prefixPolicy.applies true = true := by
      cases heach : settings.prefixPolicy with
      | never => exact absurd heach hpolicy
      | topLevel | always => rfl
    have hne := Java.ne_nil_of_hasIdentifierForm (Java.hasIdentifierForm_of_isBareName hpath.1)
    -- The bare name makes the name longer than the kind before it.
    rw [Java.pathName, Java.decorate, if_pos happlies] at heq
    have hlength := congrArg List.length heq
    simp only [Definition.affixes, List.length_append] at hlength
    have := List.length_pos_of_ne_nil hne
    omega
  | bare :: next :: rest, hpath =>
    refine Java.dot_not_mem_of_isIdentifier hkind ?_
    rw [← heq, Java.pathName]
    simp

theorem Version.HasPaths.nodup_classNames {paths : List (List Text)}
    (h : Version.HasPaths settings d package v g paths)
    (hpolicy : settings.prefixPolicy ≠ .never) (hkind : Java.isIdentifier d.names.kind = true)
    (htree : ∀ o ∈ v.sections settings d.names.kind package, o.TreeApart) :
    g.classNames.Nodup := by
  rw [h.names, List.nodup_append]
  refine ⟨(List.nodup_map_iff_inj_on h.nodup).2 fun p hp q hq heq => ?_,
    List.nodup_singleton _, fun n hn kind hkindName => ?_⟩
  · obtain ⟨hlower, hlast⟩ := (Java.pathName_eq_iff (h.isClassPath p hp) (h.isClassPath q hq)).1
      (Java.qualify_injective heq)
    obtain ⟨o, ho, c, hc⟩ := (h.mem_iff p).1 hp
    obtain ⟨o', ho', c', hc'⟩ := (h.mem_iff q).1 hq
    exact ObjectNode.path_eq_of_treeApart pairwise_apart_sections htree ho ho' hc hc' hlower hlast
  · obtain ⟨path, hpath, rfl⟩ := List.mem_map.1 hn
    rw [List.mem_singleton.1 hkindName]
    exact fun heq =>
      pathName_ne_kind hpolicy hkind (h.isClassPath path hpath) (Java.qualify_injective heq)

theorem Version.HasPaths.exists_eq_qualify {paths : List (List Text)} {n : Text}
    (h : Version.HasPaths settings d package v g paths) (hn : n ∈ g.classNames) :
    ∃ t, n = Java.qualify (some package) t := by
  rw [h.names] at hn
  rcases List.mem_append.1 hn with hn | hn
  · obtain ⟨path, -, rfl⟩ := List.mem_map.1 hn
    exact ⟨_, rfl⟩
  · exact ⟨_, List.mem_singleton.1 hn⟩

/-! ## Within a definition -/

theorem Generation.MadeOf.classNames_eq {α : Type}
    {one : α → Logged GenerationError Generation} {items : List α}
    {parts : List (α × Generation)} (h : Generation.MadeOf one items g parts) :
    g.classNames = parts.flatMap fun p => p.2.classNames := by
  rw [classNames, h.topLevel, List.map_flatMap]
  rfl

/-- Class names are distinct if they are in each part and different parts have none in common. -/
theorem Generation.MadeOf.nodup_classNames_iff {α : Type}
    {one : α → Logged GenerationError Generation} {items : List α}
    {parts : List (α × Generation)} (h : Generation.MadeOf one items g parts) :
    g.classNames.Nodup ↔ (∀ p ∈ parts, p.2.classNames.Nodup) ∧
      parts.Pairwise fun p q => ∀ n ∈ p.2.classNames, n ∉ q.2.classNames := by
  rw [h.classNames_eq, List.nodup_flatMap]
  rfl

theorem exists_hasPaths_of_generateVersion {base : Text}
    (h : (generateVersion settings d base v).outcome = .ok g) :
    Java.isIdentifier d.names.kind = true ∧ ∃ paths,
      Version.HasPaths settings d (Java.qualify (some base) v.name) v g paths := by
  obtain ⟨sections, resource, hmade⟩ := exists_parts_of_generateVersion h
  exact ⟨hmade.isIdentifier, hmade.exists_hasPaths⟩

theorem nodup_classNames_of_generateDefinition
    (h : (generateDefinition settings d).outcome = .ok g)
    (hpolicy : settings.prefixPolicy ≠ .never) (hversions : (d.versions.map (·.name)).Nodup)
    (hform : ∀ v ∈ d.versions, Java.hasIdentifierForm v.name = true)
    (htree : ∀ v o, d.HasSection settings v o → o.TreeApart) : g.classNames.Nodup := by
  obtain ⟨base, parts, hbase, hparts⟩ := exists_parts_of_generateDefinition h
  have hmem : ∀ p ∈ parts, p.1 ∈ d.versions := fun p hp =>
    hparts.items_eq ▸ List.mem_map_of_mem hp
  refine hparts.nodup_classNames_iff.2 ⟨fun p hp => ?_, ?_⟩
  · obtain ⟨hkind, paths, hpaths⟩ := exists_hasPaths_of_generateVersion (hparts.each p hp)
    refine hpaths.nodup_classNames hpolicy hkind fun o ho => ?_
    refine htree p.1 o ⟨hmem p hp, _, ?_, ho⟩
    rw [Definition.packageOf, hbase]
    rfl
  · -- The names of the versions keep their packages apart.
    rw [← hparts.items_eq, List.map_map, List.Nodup, List.pairwise_map] at hversions
    refine hversions.imp_of_mem fun {p q} hp hq hne n hn hn' => hne ?_
    obtain ⟨-, paths, hpaths⟩ := exists_hasPaths_of_generateVersion (hparts.each p hp)
    obtain ⟨-, paths', hpaths'⟩ := exists_hasPaths_of_generateVersion (hparts.each q hq)
    obtain ⟨t, rfl⟩ := hpaths.exists_eq_qualify hn
    obtain ⟨t', heq⟩ := hpaths'.exists_eq_qualify hn'
    have hp' := hform _ (hmem p hp)
    have hq' := hform _ (hmem q hq)
    exact Java.segment_eq_of_qualify_eq (Java.ne_nil_of_hasIdentifierForm hp')
      (Java.ne_nil_of_hasIdentifierForm hq') (Java.not_mem_of_hasIdentifierForm hp' (by decide))
      (Java.not_mem_of_hasIdentifierForm hq' (by decide)) heq

/-- The packages are spelled by plain names if the versions are named by identifiers. -/
theorem isPlainName_of_mem_dotParts (h : (generateDefinition settings d).outcome = .ok g)
    (hform : ∀ v ∈ d.versions, Java.hasIdentifierForm v.name = true) {r : TypeRecord}
    (hr : r ∈ g.types.topLevel) :
    ∃ p, r.package = some p ∧ ∀ part ∈ p.dotParts, IsPlainName part := by
  obtain ⟨v, hv, p, hp, hparts⟩ := exists_package_of_mem h (List.mem_append_left _ hr)
  refine ⟨p, hp, fun part hpart => ?_⟩
  rcases hparts part hpart with hid | hpart
  · exact Java.isPlainName_of_isIdentifier hid
  · have hv := hform v hv
    have hdot := Java.not_mem_of_hasIdentifierForm hv (c := '.') (by decide)
    rw [Text.dotParts_of_not_mem hdot, List.mem_singleton] at hpart
    subst hpart
    exact Path.isPlainName_of_not_mem (Java.ne_nil_of_hasIdentifierForm hv) hdot
      (Java.not_mem_of_hasIdentifierForm hv (by decide))

/-- The classes of a definition have different qualified names and different files: the versions
are named by different identifiers, classes in sections have the kind before their names, and
objects side by side have bare names that differ in more than case. -/
theorem nodup_generateDefinition (h : (generateDefinition settings d).outcome = .ok g)
    (hpolicy : settings.prefixPolicy ≠ .never) (hversions : (d.versions.map (·.name)).Nodup)
    (hform : ∀ v ∈ d.versions, Java.hasIdentifierForm v.name = true)
    (htree : ∀ v o, d.HasSection settings v o → o.TreeApart) :
    g.classNames.Nodup ∧ ∀ output, (g.types.topLevel.map (sourcePath output)).Nodup := by
  have hnodup := nodup_classNames_of_generateDefinition h hpolicy hversions hform htree
  refine ⟨hnodup, fun output => ?_⟩
  rw [Generation.classNames, List.Nodup, List.pairwise_map] at hnodup
  rw [List.Nodup, List.pairwise_map]
  refine hnodup.imp_of_mem fun {r r'} hr hr' hne heq => hne ?_
  obtain ⟨p, hp, hplain⟩ := isPlainName_of_mem_dotParts h hform hr
  obtain ⟨p', hp', hplain'⟩ := isPlainName_of_mem_dotParts h hform hr'
  exact qualifiedName_eq_of_sourcePath_eq hp hp' (isIdentifier_name_of_mem h hr)
    (isIdentifier_name_of_mem h hr') hplain hplain' heq

/-- Objects of one name in both sections, in both versions and on different paths. -/
theorem nodup_generateDefinition_versions :
    let port : Schema := { type := some "object" }
    let list : Schema := { type := some "array", items := some port }
    let spec : Schema :=
      { type := some "object"
        properties := some [
          ("default", { type := some "object", properties := some [("port", list)] }),
          ("port", port)] }
    let status : Schema := { type := some "object", properties := some [("port", port)] }
    let root : Schema :=
      { type := some "object", properties := some [("spec", spec), ("status", status)] }
    let d : Definition :=
      { apiVersion := "apiextensions.k8s.io/v1"
        group := "test.org"
        names := { kind := "Route" }
        versions := [
          { name := "v1", validation := some { openAPI := some root } },
          { name := "v1beta1", validation := some { openAPI := some root } }] }
    let names : List Text := [
      "org.test.v1.spec.default_.Port", "org.test.v1.spec.Default", "org.test.v1.spec.Port",
      "org.test.v1.RouteSpec", "org.test.v1.status.Port", "org.test.v1.RouteStatus",
      "org.test.v1.Route", "org.test.v1beta1.spec.default_.Port",
      "org.test.v1beta1.spec.Default", "org.test.v1beta1.spec.Port",
      "org.test.v1beta1.RouteSpec", "org.test.v1beta1.status.Port",
      "org.test.v1beta1.RouteStatus", "org.test.v1beta1.Route"]
    ∃ g, (generateDefinition {} d).outcome = .ok g ∧ g.classNames = names ∧
      g.classNames.Nodup ∧ ∀ output, (g.types.topLevel.map (sourcePath output)).Nodup := by
  intro port list spec status root d names
  obtain ⟨g, hg, hnames⟩ : ∃ g, (generateDefinition {} d).outcome = .ok g ∧
      g.classNames = names :=
    exists_eq_ok (by decide +kernel)
  have hapart : d.apartWithin {} 3 = true := by decide +kernel
  exact ⟨g, hg, hnames, nodup_generateDefinition hg (by decide) (by decide) (by decide)
    fun v o ho => ho.treeApart hapart⟩

/-! ## Between definitions -/

/-- A class of the definition by its package and its name: the class of the resource, or that of an
object in a section, which lies in a package spelled by the names of the objects around it. -/
inductive Definition.HasClass (settings : Settings) (d : Definition) :
    (package name : Text) → Prop where
  | resource {v : Version} {package : Text} : v ∈ d.versions → d.packageOf v = .ok package →
      HasClass settings d package d.names.kind
  | object {v : Version} {o c : ObjectNode} {around : List Text} {last package : Text} :
      d.HasSection settings v o → o.ObjectAt (around ++ [last]) c →
      Java.packageBelow o.package (around.map fun bare => Java.escapeKeyword bare.lower) =
        some package →
      HasClass settings d package (Java.decorate (d.affixes settings) settings around.isEmpty last)

theorem Version.HasPaths.mem_classNames_iff {paths : List (List Text)} {n : Text}
    (h : Version.HasPaths settings d package v g paths) : n ∈ g.classNames ↔
      n = Java.qualify (some package) d.names.kind ∨
        ∃ o ∈ v.sections settings d.names.kind package, ∃ path c, o.ObjectAt path c ∧
          n = d.nameAt settings package path := by
  rw [h.names, List.mem_append, List.mem_map, List.mem_singleton, or_comm]
  refine or_congr_right ⟨?_, ?_⟩
  · rintro ⟨path, hpath, rfl⟩
    obtain ⟨o, ho, c, hc⟩ := (h.mem_iff path).1 hpath
    exact ⟨o, ho, path, c, hc, rfl⟩
  · rintro ⟨o, ho, path, c, hc, rfl⟩
    exact ⟨path, (h.mem_iff path).2 ⟨o, ho, c, hc⟩, rfl⟩

theorem package_eq_of_mem_sections {kind : Text} {o : ObjectNode}
    (h : o ∈ v.sections settings kind package) : o.package = some package := by
  obtain ⟨name, s, -, -, rfl⟩ := mem_sections_iff.1 h
  rfl

section HasClass

variable {name n : Text}

/-- Each version has its part in what the definition gives. -/
theorem exists_hasPaths_of_mem_versions (h : (generateDefinition settings d).outcome = .ok g)
    (hv : v ∈ d.versions) (hpackage : d.packageOf v = .ok package) :
    Java.isIdentifier d.names.kind = true ∧ ∃ gv paths,
      Version.HasPaths settings d package v gv paths ∧ gv.classNames ⊆ g.classNames := by
  obtain ⟨base, parts, hbase, hparts⟩ := exists_parts_of_generateDefinition h
  rw [← hparts.items_eq] at hv
  obtain ⟨p, hp, rfl⟩ := List.mem_map.1 hv
  obtain ⟨hkind, paths, hpaths⟩ := exists_hasPaths_of_generateVersion (hparts.each p hp)
  rw [Definition.packageOf, hbase] at hpackage
  obtain rfl := Except.ok.inj hpackage
  refine ⟨hkind, p.2, paths, hpaths, fun n hn => ?_⟩
  rw [hparts.classNames_eq]
  exact List.mem_flatMap.2 ⟨p, hp, hn⟩

/-- Every class comes from a version. -/
theorem exists_version_of_mem_classNames (h : (generateDefinition settings d).outcome = .ok g)
    (hn : n ∈ g.classNames) : ∃ v ∈ d.versions, ∃ package, d.packageOf v = .ok package ∧
      ∃ gv paths, Version.HasPaths settings d package v gv paths ∧ n ∈ gv.classNames := by
  obtain ⟨base, parts, hbase, hparts⟩ := exists_parts_of_generateDefinition h
  rw [hparts.classNames_eq] at hn
  obtain ⟨p, hp, hn⟩ := List.mem_flatMap.1 hn
  obtain ⟨-, paths, hpaths⟩ := exists_hasPaths_of_generateVersion (hparts.each p hp)
  refine ⟨p.1, hparts.items_eq ▸ List.mem_map_of_mem hp, _, ?_, p.2, paths, hpaths, hn⟩
  rw [Definition.packageOf, hbase]
  rfl

/-- A class at a path through a section has the name that the path spells, which has no dot. -/
theorem Definition.nameAt_eq_qualify (h : (generateDefinition settings d).outcome = .ok g)
    {o c : ObjectNode} {base : Text} {around : List Text} {last : Text}
    (hv : v ∈ d.versions) (hbase : d.packageOf v = .ok base)
    (ho : o ∈ v.sections settings d.names.kind base) (hc : o.ObjectAt (around ++ [last]) c)
    (hbelow : Java.packageBelow o.package
      (around.map fun bare => Java.escapeKeyword bare.lower) = some package) :
    d.nameAt settings base (around ++ [last]) = Java.qualify (some package)
        (Java.decorate (d.affixes settings) settings around.isEmpty last) ∧
      ('.' : CodePoint) ∉ Java.decorate (d.affixes settings) settings around.isEmpty last := by
  obtain ⟨-, gv, paths, hpaths, -⟩ := exists_hasPaths_of_mem_versions h hv hbase
  have hclass := hpaths.isClassPath _ ((hpaths.mem_iff _).2 ⟨o, ho, c, hc⟩)
  rw [package_eq_of_mem_sections ho] at hbelow
  rw [nameAt, Java.qualify_pathName hclass, hbelow, Bool.true_and]
  exact ⟨rfl, hclass.dot_not_mem⟩

theorem Definition.HasClass.dot_not_mem (h : (generateDefinition settings d).outcome = .ok g)
    (hc : d.HasClass settings package name) : ('.' : CodePoint) ∉ name := by
  cases hc with
  | resource hv hpackage =>
    exact Java.dot_not_mem_of_isIdentifier (exists_hasPaths_of_mem_versions h hv hpackage).1
  | object ho hc hbelow =>
    obtain ⟨hv, base, hbase, ho⟩ := ho
    exact (nameAt_eq_qualify h hv hbase ho hc hbelow).2

/-- The names of a definition's classes are put together from the packages and the names. -/
theorem mem_classNames_iff (h : (generateDefinition settings d).outcome = .ok g) :
    n ∈ g.classNames ↔ ∃ package name, d.HasClass settings package name ∧
      n = Java.qualify (some package) name := by
  constructor
  · intro hn
    obtain ⟨v, hv, base, hbase, gv, paths, hpaths, hn⟩ := exists_version_of_mem_classNames h hn
    rcases hpaths.mem_classNames_iff.1 hn with rfl | ⟨o, ho, path, c, hc, rfl⟩
    · exact ⟨base, d.names.kind, .resource hv hbase, rfl⟩
    · obtain rfl | ⟨around, last, rfl⟩ := List.eq_nil_or_concat' path
      · cases hc
      · obtain ⟨package, hbelow⟩ := Java.exists_eq_packageBelow base
          (around.map fun bare => Java.escapeKeyword bare.lower)
        rw [← package_eq_of_mem_sections ho] at hbelow
        exact ⟨package, _, .object ⟨hv, base, hbase, ho⟩ hc hbelow,
          (Definition.nameAt_eq_qualify h hv hbase ho hc hbelow).1⟩
  · rintro ⟨package, name, hclass, rfl⟩
    cases hclass with
    | resource hv hbase =>
      obtain ⟨-, gv, paths, hpaths, hsub⟩ := exists_hasPaths_of_mem_versions h hv hbase
      exact hsub (hpaths.mem_classNames_iff.2 (.inl rfl))
    | @object v o c around last _ ho hc hbelow =>
      obtain ⟨hv, base, hbase, ho⟩ := ho
      obtain ⟨-, gv, paths, hpaths, hsub⟩ := exists_hasPaths_of_mem_versions h hv hbase
      exact hsub (hpaths.mem_classNames_iff.2 (.inr ⟨o, ho, _, c, hc,
        (Definition.nameAt_eq_qualify h hv hbase ho hc hbelow).1.symm⟩))

end HasClass

/-- Definitions have a class name in common exactly if they have a class of one name in one
package. -/
theorem disjoint_classNames_iff {d' : Definition} {g' : Generation}
    (h : (generateDefinition settings d).outcome = .ok g)
    (h' : (generateDefinition settings d').outcome = .ok g') :
    (∀ n ∈ g.classNames, n ∉ g'.classNames) ↔
      ∀ package name, d.HasClass settings package name → ¬d'.HasClass settings package name := by
  constructor
  · intro hdisjoint package name hc hc'
    exact hdisjoint _ ((mem_classNames_iff h).2 ⟨package, name, hc, rfl⟩)
      ((mem_classNames_iff h').2 ⟨package, name, hc', rfl⟩)
  · intro hnone n hn hn'
    obtain ⟨package, name, hc, rfl⟩ := (mem_classNames_iff h).1 hn
    obtain ⟨package', name', hc', heq⟩ := (mem_classNames_iff h').1 hn'
    obtain ⟨rfl, rfl⟩ := (Java.qualify_eq_qualify_iff (hc.dot_not_mem h) (hc'.dot_not_mem h')).1 heq
    exact hnone package name hc hc'

/-- The classes of several definitions, each of which keeps its own apart, have different qualified
names exactly if no two definitions have a class of one name in one package. -/
theorem nodup_generateAll_iff {ds : List Definition} (h : (generateAll settings ds).outcome = .ok g)
    (heach : ∀ d ∈ ds, ∀ g', (generateDefinition settings d).outcome = .ok g' →
      g'.classNames.Nodup) :
    g.classNames.Nodup ↔ ds.Pairwise fun d d' =>
      ∀ package name, d.HasClass settings package name → ¬d'.HasClass settings package name := by
  obtain ⟨parts, hparts⟩ := exists_parts_of_generateAll h
  have hown : ∀ p ∈ parts, p.2.classNames.Nodup := fun p hp =>
    heach p.1 (hparts.items_eq ▸ List.mem_map_of_mem hp) p.2 (hparts.each p hp)
  rw [hparts.nodup_classNames_iff, ← hparts.items_eq, List.pairwise_map]
  refine (and_iff_right hown).trans (List.Pairwise.iff_of_mem fun {p q} hp hq => ?_)
  exact disjoint_classNames_iff (hparts.each p hp) (hparts.each q hq)

theorem nodup_of_decide {x : Except GenerationError Generation}
    (h : x.toOption.map (fun g => decide g.classNames.Nodup) = some true) (hx : x = .ok g) :
    g.classNames.Nodup := by
  subst hx
  exact of_decide_eq_true (Option.some.inj h)

/-- Two kinds of one group and version with objects of different names. -/
theorem nodup_generateAll_iff_kinds :
    let definition (kind key : Text) : Definition :=
      { apiVersion := "apiextensions.k8s.io/v1"
        group := "test.org"
        names := { kind := kind }
        versions := [
          { name := "v1"
            validation := some {
              openAPI := some {
                type := some "object"
                properties := some [
                  ("spec", {
                    type := some "object"
                    properties := some [(key, { type := some "object" })] })] } } }] }
    let ds := [definition "Foo" "template", definition "Bar" "selector"]
    let names : List Text := [
      "org.test.v1.spec.Template", "org.test.v1.FooSpec", "org.test.v1.Foo",
      "org.test.v1.spec.Selector", "org.test.v1.BarSpec", "org.test.v1.Bar"]
    ∃ g, (generateAll {} ds).outcome = .ok g ∧ g.classNames = names ∧
      ds.Pairwise fun d d' =>
        ∀ package name, d.HasClass {} package name → ¬d'.HasClass {} package name := by
  intro definition ds names
  obtain ⟨g, hg, hnames⟩ : ∃ g, (generateAll {} ds).outcome = .ok g ∧ g.classNames = names :=
    exists_eq_ok (by decide +kernel)
  have hown : ∀ d ∈ ds, ((generateDefinition {} d).outcome.toOption.map fun g =>
      decide g.classNames.Nodup) = some true := by decide +kernel
  have heach : ∀ d ∈ ds, ∀ g', (generateDefinition {} d).outcome = .ok g' → g'.classNames.Nodup :=
    fun d hd g' hg' => nodup_of_decide (hown d hd) hg'
  refine ⟨g, hg, hnames, (nodup_generateAll_iff hg heach).1 ?_⟩
  rw [hnames]
  decide +kernel

/-- Two kinds of one group and version that have objects of one name in their specs. -/
theorem not_forall_nodup_generateAll :
    ¬∀ (ds : List Definition) (g : Generation),
      (ds.map fun d => (d.group, d.names.kind)).Nodup →
      (generateAll {} ds).outcome = .ok g →
      (∀ d ∈ ds, ∀ g', (generateDefinition {} d).outcome = .ok g' → g'.classNames.Nodup) →
      g.classNames.Nodup := by
  intro hall
  let definition (kind : Text) : Definition :=
    { apiVersion := "apiextensions.k8s.io/v1"
      group := "test.org"
      names := { kind := kind }
      versions := [
        { name := "v1"
          validation := some {
            openAPI := some {
              type := some "object"
              properties := some [
                ("spec", {
                  type := some "object"
                  properties := some [("template", { type := some "object" })] })] } } }] }
  let ds := [definition "Foo", definition "Bar"]
  let names : List Text := [
    "org.test.v1.spec.Template", "org.test.v1.FooSpec", "org.test.v1.Foo",
    "org.test.v1.spec.Template", "org.test.v1.BarSpec", "org.test.v1.Bar"]
  obtain ⟨g, hg, hnames⟩ : ∃ g, (generateAll {} ds).outcome = .ok g ∧ g.classNames = names :=
    exists_eq_ok (by decide +kernel)
  have hown : ∀ d ∈ ds, ((generateDefinition {} d).outcome.toOption.map fun g =>
      decide g.classNames.Nodup) = some true := by decide +kernel
  have hnodup := hall ds g (by decide) hg fun d hd g' hg' => nodup_of_decide (hown d hd) hg'
  rw [hnames] at hnodup
  exact absurd hnodup (by decide +kernel)

end KubeJava
