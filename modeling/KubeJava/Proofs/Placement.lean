import KubeJava.Proofs.SiblingNames
import KubeJava.Proofs.Splitting
import Mathlib.Data.List.Nodup
import Mathlib.Tactic.Choose

set_option autoImplicit false

/-! # Where types are placed

The package of a class spells the bare names of the objects around it, in lower case, so the
qualified name of a class tells the path of bare names that leads to it, except for the case of all
names but the last. Paths determine their objects. Two classes therefore have one qualified name
exactly if their paths differ only in the case of the objects around them. -/

namespace KubeJava

open Java (Affixes)

/-! ## Paths of objects -/

namespace ObjectNode

/-- The nodes for some properties, in order, when `names` are taken. -/
def nodesOf (o : ObjectNode) : Properties → SiblingNames → Except GenerationError (List Node)
  | [], _ => .ok []
  | (key, s) :: rest, names => do
    let (child, names) ← o.classify key s names
    let nodes ← o.nodesOf rest names
    return child :: nodes

/-- The nodes for the properties of an object. -/
def nodes (o : ObjectNode) : Except GenerationError (List Node) := do
  o.nodesOf o.properties (.forOwner (← o.className))

/-- The path of bare names leads from the first object, which it starts with, to the second, which
it ends with; each object of the path is among the properties of the one before, inside lists and
maps. -/
inductive ObjectAt : ObjectNode → List Text → ObjectNode → Prop where
  | here {o : ObjectNode} {bare : Text} : o.bareName = .ok bare → ObjectAt o [bare] o
  | inside {o c d : ObjectNode} {bare : Text} {nodes : List Node} {node : Node}
      {path : List Text} : o.bareName = .ok bare → o.nodes = .ok nodes → node ∈ nodes →
      node.innermost = .object c → ObjectAt c path d → ObjectAt o (bare :: path) d

theorem nodesOf_of_collects {o : ObjectNode} {ps : Properties} {names : SiblingNames}
    {used : List Text} {members : List Member} (h : o.Collects ps names used members) :
    o.nodesOf ps names = .ok (members.map (·.child)) := by
  induction h with
  | nil => rfl
  | cons hc _ _ _ ih =>
    simp [nodesOf, hc, ih]

end ObjectNode

/-! ## Qualified names of paths -/

namespace Java

/-- The name of the class at a path, inside the package of the path's root. -/
def pathName (a : Affixes) (s : Settings) : (topLevel : Bool) → List Text → Text
  | _, [] => []
  | topLevel, [bare] => decorate a s topLevel bare
  | _, bare :: next :: path =>
    escapeKeyword bare.lower ++ ('.' : CodePoint) :: pathName a s false (next :: path)

/-- The names of the path are bare ones, and the decorated last one has no dot. -/
def IsClassPath (a : Affixes) (s : Settings) : (topLevel : Bool) → List Text → Prop
  | _, [] => False
  | topLevel, [bare] => isBareName bare = true ∧ ('.' : CodePoint) ∉ decorate a s topLevel bare
  | _, bare :: next :: path => isBareName bare = true ∧ IsClassPath a s false (next :: path)

variable {a : Affixes} {s : Settings}

theorem dot_not_mem_of_isIdentifier {t : Text} (h : isIdentifier t = true) :
    ('.' : CodePoint) ∉ t :=
  not_mem_of_isIdentifier h (by decide) (by decide)

theorem dot_not_mem_segment {bare : Text} (h : isBareName bare = true) :
    ('.' : CodePoint) ∉ escapeKeyword bare.lower :=
  dot_not_mem_of_isIdentifier (isIdentifier_escapeKeyword (hasIdentifierForm_lower h))

theorem segment_ne_nil {bare : Text} (h : isBareName bare = true) :
    escapeKeyword bare.lower ≠ [] :=
  ne_nil_of_isIdentifier (isIdentifier_escapeKeyword (hasIdentifierForm_lower h))

theorem underscore_not_mem_lower {bare : Text} (h : isBareName bare = true) :
    ('_' : CodePoint) ∉ bare.lower := fun hm =>
  absurd (isWordChar_of_mem_lower h _ hm) (by decide)

/-- The name of a path tells its last name, and the others up to case. -/
theorem pathName_eq_iff {topLevel : Bool} {p q : List Text} (hp : IsClassPath a s topLevel p)
    (hq : IsClassPath a s topLevel q) : pathName a s topLevel p = pathName a s topLevel q ↔
      p.dropLast.map Text.lower = q.dropLast.map Text.lower ∧ p.getLast? = q.getLast? := by
  induction p generalizing q topLevel with
  | nil => exact hp.elim
  | cons b p ih =>
    -- Only the name at a path with objects around its end has a dot.
    match p, q, hp, hq with
    | [], [c], hp, hq =>
      simp only [pathName, List.dropLast_singleton, List.map_nil, List.getLast?_singleton,
        Option.some.injEq, true_and]
      exact ⟨decorate_injective _ _ _, fun h => by rw [h]⟩
    | [], c :: d :: q, hp, hq =>
      refine iff_of_false (fun h => hp.2 ?_) (by simp)
      rw [pathName] at h
      rw [h, pathName]
      simp
    | b' :: p, [c], hp, hq =>
      refine iff_of_false (fun h => hq.2 ?_) (by simp)
      rw [pathName] at h
      rw [← h, pathName]
      simp
    | b' :: p, c :: d :: q, hp, hq =>
      have hrest := ih hp.2 hq.2
      simp only [List.dropLast_cons_cons, List.map_cons, List.cons.injEq, List.getLast?_cons_cons,
        and_assoc]
      rw [← hrest, pathName, pathName]
      constructor
      · intro h
        obtain ⟨hseg, htail⟩ := append_cons_inj_of_not_mem (dot_not_mem_segment hp.1)
          (dot_not_mem_segment hq.1) h
        exact ⟨escapeKeyword_injOn (underscore_not_mem_lower hp.1)
          (underscore_not_mem_lower hq.1) hseg, htail⟩
      · rintro ⟨hseg, htail⟩
        rw [hseg, htail]

theorem qualify_injective {package : Option Text} {m n : Text}
    (h : qualify package m = qualify package n) : m = n := by
  rcases package with _ | _ | ⟨c, rest⟩ <;> simpa using h

/-- A name inside a package inside a package. -/
theorem qualify_qualify {package : Option Text} {segment n : Text} (h : segment ≠ []) :
    qualify (some (qualify package segment)) n =
      qualify package (segment ++ ('.' : CodePoint) :: n) := by
  rcases package with _ | _ | ⟨c, rest⟩ <;> simp [h]

end Java

/-! ## The names of all classes -/

namespace ObjectNode

variable {o : ObjectNode} {r : Resolved} {bare : Text} {m : Member} {used : List Text}
  {paths : List (List Text)}

/-- The qualified name of the class at a path. -/
def nameAt (o : ObjectNode) (path : List Text) : Text :=
  Java.qualify o.package (Java.pathName o.affixes o.settings o.topLevel path)

/-- The paths are those of the objects in the tree, each one once, and the classes have their
names. -/
structure HasPaths (o : ObjectNode) (r : Resolved) (paths : List (List Text)) : Prop where
  names : r.types.topLevel.map TypeRecord.qualifiedName = paths.map o.nameAt
  nodup : paths.Nodup
  mem_iff : ∀ path, path ∈ paths ↔ ∃ d, o.ObjectAt path d
  isClassPath : ∀ path ∈ paths, Java.IsClassPath o.affixes o.settings o.topLevel path

/-- The paths are those of the objects in a member, and the classes have the names of these paths
below the owner. -/
structure MemberPaths (o : ObjectNode) (bare : Text) (m : Member) (paths : List (List Text)) :
    Prop where
  names : m.core.types.topLevel.map TypeRecord.qualifiedName =
    paths.map fun path => o.nameAt (bare :: path)
  nodup : paths.Nodup
  mem_iff : ∀ path, path ∈ paths ↔
    ∃ c d, m.child.innermost = .object c ∧ c.ObjectAt path d
  isClassPath : ∀ path ∈ paths,
    path ≠ [] ∧ Java.IsClassPath o.affixes o.settings o.topLevel (bare :: path)

/-- A path starts with the bare name of its root. -/
theorem ObjectAt.eq_cons {path : List Text} {d : ObjectNode} (h : o.ObjectAt path d) :
    ∃ bare rest, o.bareName = .ok bare ∧ path = bare :: rest := by
  cases h with
  | here hbare => exact ⟨_, [], hbare, rfl⟩
  | inside hbare => exact ⟨_, _, hbare, rfl⟩

theorem memberPaths_nil {inner : Node} (hinner : m.child.innermost = inner)
    (hobject : ∀ c, inner ≠ .object c) (htop : m.core.types.topLevel = []) :
    o.MemberPaths bare m [] := by
  refine ⟨by rw [htop]; rfl, .nil, fun path => ?_, by simp⟩
  refine iff_of_false (by simp) ?_
  rintro ⟨c, d, hc, -⟩
  exact hobject c (hinner.symm.trans hc)

@[simp] theorem pathName_cons {a : Affixes} {s : Settings} {topLevel : Bool} {path : List Text}
    (h : path ≠ []) : Java.pathName a s topLevel (bare :: path) =
      Java.escapeKeyword bare.lower ++ ('.' : CodePoint) :: Java.pathName a s false path := by
  cases path with
  | nil => exact absurd rfl h
  | cons b rest => rw [Java.pathName]

theorem isClassPath_cons {a : Affixes} {s : Settings} {topLevel : Bool} {path : List Text}
    (h : path ≠ []) : Java.IsClassPath a s topLevel (bare :: path) ↔
      Java.isBareName bare = true ∧ Java.IsClassPath a s false path := by
  cases path with
  | nil => exact absurd rfl h
  | cons b rest => rw [Java.IsClassPath]

/-- The names of an object among the properties are those of its paths below the owner. -/
theorem nameAt_childIn {package name : Text} {t : Schema} {p path : List Text}
    (hbare : o.bareName = .ok bare) (hplaced : o.childPackage = .ok package) (h : path ≠ []) :
    (o.childIn package name t p).nameAt path = o.nameAt (bare :: path) := by
  have hb := Java.isBareName_of_typeName hbare
  obtain rfl : Java.qualify o.package (Java.escapeKeyword bare.lower) = package := by
    simpa [childPackage, hbare, hb] using hplaced
  rw [nameAt, nameAt, pathName_cons h]
  exact Java.qualify_qualify (Java.segment_ne_nil hb)

theorem HasPaths.ne_nil (h : o.HasPaths r paths) {path : List Text} (hp : path ∈ paths) :
    path ≠ [] := by
  rintro rfl
  exact h.isClassPath _ hp

theorem HasPaths.memberPaths {package name : Text} {t : Schema} {p : List Text}
    (hinner : m.child.innermost = .object (o.childIn package name t p))
    (hbare : o.bareName = .ok bare) (hplaced : o.childPackage = .ok package)
    (h : (o.childIn package name t p).HasPaths m.core paths) : o.MemberPaths bare m paths := by
  refine ⟨?_, h.nodup, fun path => ?_, fun path hpath => ?_⟩
  · rw [h.names]
    exact List.map_congr_left fun path hpath => nameAt_childIn hbare hplaced (h.ne_nil hpath)
  · rw [h.mem_iff, hinner]
    simp
  · exact ⟨h.ne_nil hpath, (isClassPath_cons (h.ne_nil hpath)).2
      ⟨Java.isBareName_of_typeName hbare, h.isClassPath path hpath⟩⟩

theorem exists_memberPaths (hbare : o.bareName = .ok bare) (kind : o.HasMember m)
    (ih : ∀ c, m.child.innermost = .object c → ∃ paths, c.HasPaths m.core paths) :
    ∃ paths, o.MemberPaths bare m paths := by
  cases kind with
  | primitive inner _ core => exact ⟨[], memberPaths_nil inner (by simp) (by rw [core])⟩
  | enum inner _ _ _ core => exact ⟨[], memberPaths_nil inner (by simp) (by rw [core])⟩
  | object inner _ placed =>
    obtain ⟨paths, hpaths⟩ := ih _ inner
    exact ⟨paths, hpaths.memberPaths inner hbare placed⟩

/-- Objects among the properties are named by the bare names reserved for them. -/
theorem HasMember.bareName_eq {c : ObjectNode} (kind : o.HasMember m)
    (hinner : m.child.innermost = .object c) : c.bareName = .ok c.name := by
  cases kind with
  | primitive inner => cases hinner.symm.trans inner
  | enum inner => cases hinner.symm.trans inner
  | object inner isBareName =>
    cases hinner.symm.trans inner
    exact Java.typeName_of_isBareName isBareName

/-- Paths in different members start with different names. -/
theorem disjoint_of_collects {members : List Member} {names : SiblingNames} {ps : Properties}
    {pathsOf : Member → List (List Text)}
    (hmembers : o.Collects ps names used members)
    (hpaths : ∀ m ∈ members, o.MemberPaths bare m (pathsOf m)) :
    members.Pairwise fun m m' => ∀ path, path ∈ pathsOf m → path ∉ pathsOf m' := by
  refine hmembers.pairwise_name_ne.imp_of_mem fun {m m'} hm hm' hne path hp hp' => ?_
  obtain ⟨c, d, hinner, hd⟩ := ((hpaths m hm).mem_iff path).1 hp
  obtain ⟨c', d', hinner', hd'⟩ := ((hpaths m' hm').mem_iff path).1 hp'
  obtain ⟨b, rest, hb, rfl⟩ := hd.eq_cons
  obtain ⟨b', rest', hb', heq⟩ := hd'.eq_cons
  rw [(hmembers.hasMember hm).bareName_eq hinner] at hb
  rw [(hmembers.hasMember hm').bareName_eq hinner'] at hb'
  obtain ⟨rfl, -⟩ := List.cons.inj heq
  exact hne c c' hinner hinner' (Except.ok.inj (hb.trans hb'.symm))

/-- What lies in an object: the object itself, or what lies in the object of a member. -/
theorem objectAt_iff {className : Text} {members : List Member} (hbare : o.bareName = .ok bare)
    (hname : o.className = .ok className)
    (hmembers : o.Collects o.properties (.forOwner className) used members)
    {path : List Text} {d : ObjectNode} : o.ObjectAt path d ↔ (path = [bare] ∧ d = o) ∨
      ∃ m ∈ members, ∃ c rest, m.child.innermost = .object c ∧ c.ObjectAt rest d ∧
        path = bare :: rest := by
  have hnodes : o.nodes = .ok (members.map (·.child)) := by
    rw [nodes, hname]
    exact nodesOf_of_collects hmembers
  constructor
  · intro h
    cases h with
    | here hbare' =>
      obtain rfl := Except.ok.inj (hbare.symm.trans hbare')
      exact .inl ⟨rfl, rfl⟩
    | @inside _ c _ _ _ _ rest hbare' hnodes' hnode hinner hd =>
      obtain rfl := Except.ok.inj (hbare.symm.trans hbare')
      obtain rfl := Except.ok.inj (hnodes.symm.trans hnodes')
      obtain ⟨m, hm, rfl⟩ := List.mem_map.1 hnode
      exact .inr ⟨m, hm, c, rest, hinner, hd, rfl⟩
  · rintro (⟨rfl, rfl⟩ | ⟨m, hm, c, rest, hinner, hd, rfl⟩)
    · exact .here hbare
    · exact .inside hbare hnodes (List.mem_map.2 ⟨m, hm, rfl⟩) hinner hd

/-- The paths of an object from those of its members. -/
def pathsBelow (bare : Text) (members : List Member) (pathsOf : Member → List (List Text)) :
    List (List Text) :=
  members.flatMap (fun m => (pathsOf m).map (bare :: ·)) ++ [[bare]]

section pathsBelow

variable {members : List Member} {pathsOf : Member → List (List Text)}

@[simp] theorem mem_pathsBelow {path : List Text} : path ∈ pathsBelow bare members pathsOf ↔
    path = [bare] ∨ ∃ m ∈ members, ∃ rest ∈ pathsOf m, path = bare :: rest := by
  simp only [pathsBelow, List.mem_append, List.mem_flatMap, List.mem_map, List.mem_singleton,
    or_comm, eq_comm]

theorem nodup_pathsBelow (hpaths : ∀ m ∈ members, o.MemberPaths bare m (pathsOf m))
    (hdisjoint : members.Pairwise fun m m' => ∀ path, path ∈ pathsOf m → path ∉ pathsOf m') :
    (pathsBelow bare members pathsOf).Nodup := by
  rw [pathsBelow, List.nodup_append]
  refine ⟨List.nodup_flatMap.2 ⟨fun m hm => ?_, hdisjoint.imp fun hne path hp hp' => ?_⟩,
    List.nodup_singleton _, fun path hp root hroot => ?_⟩
  · exact (hpaths m hm).nodup.map List.cons_injective
  · obtain ⟨q, hq, rfl⟩ := List.mem_map.1 hp
    obtain ⟨q', hq', heq⟩ := List.mem_map.1 hp'
    obtain rfl := List.cons_injective heq
    exact hne q' hq hq'
  · -- Below a member no path ends at the name of its owner.
    obtain ⟨m, hm, hp⟩ := List.mem_flatMap.1 hp
    obtain ⟨q, hq, rfl⟩ := List.mem_map.1 hp
    rw [List.mem_singleton.1 hroot]
    exact fun heq => ((hpaths m hm).isClassPath q hq).1 (List.cons.inj heq).2

/-- The paths of an object are its own name and, below it, the paths of its members. -/
theorem hasPaths_assembled {className : Text} (hname : o.className = .ok className)
    (hbare : o.bareName = .ok bare)
    (hmembers : o.Collects o.properties (.forOwner className) o.reservedFieldNames members)
    (hpaths : ∀ m ∈ members, o.MemberPaths bare m (pathsOf m)) :
    o.HasPaths (o.assembled className members) (pathsBelow bare members pathsOf) := by
  obtain ⟨hid, hclass⟩ : Java.isIdentifier (Java.decorate o.affixes o.settings o.topLevel bare) =
      true ∧ className = Java.decorate o.affixes o.settings o.topLevel bare := by
    simpa only [ObjectNode.className, hbare, bind_eq_ok, Except.ok.injEq, exists_eq_left',
      Java.applyAffixes_eq_ok] using hname
  constructor
  · simp only [assembled, pathsBelow, List.map_append, List.map_flatMap, List.map_map,
      List.map_singleton]
    congr 1
    · exact List.flatMap_congr fun m hm => (hpaths m hm).names
    · rw [hclass]
      rfl
  · exact nodup_pathsBelow hpaths (disjoint_of_collects hmembers hpaths)
  · intro path
    simp only [mem_pathsBelow, objectAt_iff hbare hname hmembers]
    constructor
    · rintro (rfl | ⟨m, hm, rest, hrest, rfl⟩)
      · exact ⟨o, .inl ⟨rfl, rfl⟩⟩
      · obtain ⟨c, d, hinner, hd⟩ := ((hpaths m hm).mem_iff rest).1 hrest
        exact ⟨d, .inr ⟨m, hm, c, rest, hinner, hd, rfl⟩⟩
    · rintro ⟨d, ⟨rfl, -⟩ | ⟨m, hm, c, rest, hinner, hd, rfl⟩⟩
      · exact .inl rfl
      · exact .inr ⟨m, hm, rest, ((hpaths m hm).mem_iff rest).2 ⟨c, d, hinner, hd⟩, rfl⟩
  · intro path hp
    rcases mem_pathsBelow.1 hp with rfl | ⟨m, hm, rest, hrest, rfl⟩
    · exact ⟨Java.isBareName_of_typeName hbare, Java.dot_not_mem_of_isIdentifier hid⟩
    · exact ((hpaths m hm).isClassPath rest hrest).2

end pathsBelow

theorem exists_hasPaths (h : (Node.object o).resolve.outcome = .ok r) :
    ∃ paths, o.HasPaths r paths := by
  refine resolved_induction (P := fun o r => ∃ paths, o.HasPaths r paths) ?_ h
  intro o className members hname hmembers ih
  obtain ⟨bare, hbare, -⟩ := bind_eq_ok.1 hname
  have hall : ∀ m ∈ members, ∃ paths, o.MemberPaths bare m paths := fun m hm =>
    exists_memberPaths hbare (hmembers.hasMember hm) (ih m hm)
  choose! pathsOf hpaths using hall
  exact ⟨_, hasPaths_assembled hname hbare hmembers hpaths⟩

/-! ## Distinct names -/

/-- The classes of a tree have different qualified names exactly if no two objects of one bare name
lie inside objects whose names differ in nothing but case. -/
theorem nodup_qualifiedName_iff (h : (Node.object o).resolve.outcome = .ok r) :
    (r.types.topLevel.map TypeRecord.qualifiedName).Nodup ↔
      ∀ around around' last c c', o.ObjectAt (around ++ [last]) c →
        o.ObjectAt (around' ++ [last]) c' →
        around.map Text.lower = around'.map Text.lower → around = around' := by
  obtain ⟨paths, hpaths⟩ := exists_hasPaths h
  have name_eq_iff : ∀ p ∈ paths, ∀ q ∈ paths, o.nameAt p = o.nameAt q ↔
      p.dropLast.map Text.lower = q.dropLast.map Text.lower ∧ p.getLast? = q.getLast? := by
    intro p hp q hq
    rw [← Java.pathName_eq_iff (hpaths.isClassPath p hp) (hpaths.isClassPath q hq)]
    exact ⟨Java.qualify_injective, fun heq => by rw [nameAt, heq, nameAt]⟩
  rw [hpaths.names, List.nodup_map_iff_inj_on hpaths.nodup]
  constructor
  · intro hinj around around' last c c' hc hc' hlower
    have hp := (hpaths.mem_iff _).2 ⟨c, hc⟩
    have hq := (hpaths.mem_iff _).2 ⟨c', hc'⟩
    have heq := hinj _ hp _ hq ((name_eq_iff _ hp _ hq).2 (by simpa using hlower))
    exact List.append_cancel_right heq
  · intro hcase p hp q hq heq
    obtain ⟨hlower, hlast⟩ := (name_eq_iff p hp q hq).1 heq
    obtain ⟨c, hc⟩ := (hpaths.mem_iff p).1 hp
    obtain ⟨c', hc'⟩ := (hpaths.mem_iff q).1 hq
    obtain ⟨around, last, rfl⟩ := (List.eq_nil_or_concat' p).resolve_left (hpaths.ne_nil hp)
    obtain ⟨around', last', rfl⟩ := (List.eq_nil_or_concat' q).resolve_left (hpaths.ne_nil hq)
    simp only [List.dropLast_concat, List.getLast?_concat, Option.some.injEq] at hlower hlast
    subst hlast
    rw [hcase around around' last c c' hc hc' hlower]

/-- Objects of one name inside objects of different names. -/
theorem nodup_qualifiedName_iff_endpoints :
    let holder : Schema :=
      { type := some "object"
        properties := some [("endpoint", { type := some "object" })] }
    let o : ObjectNode :=
      { name := "Spec", properties := [("primary", holder), ("fallback", holder)] }
    ∃ r, (Node.object o).resolve.outcome = .ok r ∧
      ∀ around around' last c c', o.ObjectAt (around ++ [last]) c →
        o.ObjectAt (around' ++ [last]) c' →
        around.map Text.lower = around'.map Text.lower → around = around' := by
  intro holder o
  obtain ⟨r, hr, hnodup⟩ : ∃ r, (Node.object o).resolve.outcome = .ok r ∧
      decide (r.types.topLevel.map TypeRecord.qualifiedName).Nodup = true :=
    exists_eq_ok (by decide +kernel)
  exact ⟨r, hr, (nodup_qualifiedName_iff hr).1 (of_decide_eq_true hnodup)⟩

/-- The children of two objects whose names differ in case only share a package, in which objects of
one name collide. -/
theorem not_forall_nodup_qualifiedName :
    ¬∀ (o : ObjectNode) (r : Resolved), (Node.object o).resolve.outcome = .ok r →
      (r.types.topLevel.map TypeRecord.qualifiedName).Nodup := by
  intro hall
  let holder : Schema :=
    { type := some "object"
      properties := some [("x", { type := some "object" })] }
  let o : ObjectNode := { name := "root", properties := [("fooBar", holder), ("foobar", holder)] }
  obtain ⟨r, hr, hnames⟩ : ∃ r, (Node.object o).resolve.outcome = .ok r ∧
      r.types.topLevel.map TypeRecord.qualifiedName =
        [("root.foobar.X" : Text), ("root.FooBar" : Text), ("root.foobar.X" : Text),
          ("root.Foobar" : Text), ("Root" : Text)] :=
    exists_eq_ok (by decide +kernel)
  have hnodup := hall o r hr
  rw [hnames] at hnodup
  exact absurd hnodup (by decide)

end ObjectNode

end KubeJava
