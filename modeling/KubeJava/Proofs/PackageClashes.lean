import KubeJava.Proofs.ClassNames
import KubeJava.Proofs.Embedding

set_option autoImplicit false

/-! # Classes and packages

Java accepts no class with the qualified name of a package. An object gives both: a class, and beside
it the package of the objects inside it, named for the same key. What keeps all classes apart from all
packages is a capital letter: a type name starts with one, and affixes put other text around it only,
while the segments of packages are in lower case. -/

namespace KubeJava

namespace Java

variable {a : Affixes} {s : Settings} {topLevel : Bool} {package : Option Text}
  {n p bare last : Text} {path segments : List Text} {c : CodePoint}

/-! ## Parts of names -/

/-- The name is that of the package or of one around it. -/
def IsInitialPart (n p : Text) : Prop := n = p ∨ n ++ ("." : Text) <+: p

theorem IsInitialPart.dotParts (h : IsInitialPart n p) : n.dotParts <+: p.dotParts := by
  rcases h with rfl | ⟨rest, rfl⟩
  · exact List.prefix_rfl
  · have happend : n ++ "." ++ rest = n ++ ('.' : CodePoint) :: rest := List.append_assoc _ _ _
    simp [happend]

/-- The parts of a package; where there is none, or an empty one, there are no parts. -/
def packageParts : Option Text → List Text
  | none => []
  | some p => if p = [] then [] else p.dotParts

@[simp] theorem dotParts_qualify_eq_append (hn : ('.' : CodePoint) ∉ n) :
    (qualify package n).dotParts = packageParts package ++ [n] := by
  cases package with
  | none => simp [packageParts, hn]
  | some p => exact dotParts_qualify hn

theorem packageParts_packageBelow (h : ∀ s ∈ segments, ('.' : CodePoint) ∉ s ∧ s ≠ []) :
    packageParts (packageBelow package segments) = packageParts package ++ segments := by
  induction segments generalizing package with
  | nil => exact (List.append_nil _).symm
  | cons s rest ih =>
    obtain ⟨⟨hdot, hne⟩, hrest⟩ := List.forall_mem_cons.1 h
    have hparts : packageParts (some (qualify package s)) = packageParts package ++ [s] := by
      rw [← dotParts_qualify_eq_append hdot]
      exact if_neg (qualify_ne_nil hne)
    simp [ih hrest, hparts]

/-! ## Capital letters -/

theorem isAsciiCapital_eq_false_of_mem_segment (h : isBareName bare = true)
    (hc : c ∈ escapeKeyword bare.lower) : isAsciiCapital c = false := by
  have hlower : ∀ c ∈ bare.lower, isAsciiCapital c = false := by
    rw [lower_of_isBareName h, List.forall_mem_map]
    intro d _
    rw [Bool.eq_false_iff, ne_eq, isAsciiCapital_iff, val_asciiLower]
    split <;> omega
  unfold escapeKeyword at hc
  split at hc
  · rcases List.mem_append.1 hc with hc | hc
    · exact hlower c hc
    · obtain rfl := List.mem_singleton.1 hc
      rfl
  · exact hlower c hc

/-- Affixes or not, the name of a type is no segment of a package. -/
theorem decorate_ne_segment (hlast : isBareName last = true) (hbare : isBareName bare = true) :
    decorate a s topLevel last ≠ escapeKeyword bare.lower := by
  intro heq
  obtain ⟨c, hc, hcap⟩ := exists_capital_of_isBareName hlast
  have hmem : c ∈ decorate a s topLevel last :=
    List.mem_append_left _ (List.mem_append_right _ hc)
  rw [heq] at hmem
  exact absurd hcap (by simp [isAsciiCapital_eq_false_of_mem_segment hbare hmem])

theorem IsClassPath.isBareName (h : IsClassPath a s topLevel path) :
    ∀ bare ∈ path, isBareName bare = true := by
  induction path generalizing topLevel with
  | nil => exact h.elim
  | cons bare rest ih =>
    match rest, h with
    | [], h => exact List.forall_mem_singleton.2 h.1
    | next :: rest, h => exact List.forall_mem_cons.2 ⟨h.1, ih h.2⟩

end Java

namespace ObjectNode

variable {o : ObjectNode} {r : Resolved} {t u : TypeRecord}

/-! ## Where types lie -/

/-- The type is named for the last object of a path and lies in the package that the names of the
objects around it spell. -/
structure NamedAlong (o : ObjectNode) (t : TypeRecord) (around : List Text) (last : Text) :
    Prop where
  isBareName : ∀ bare ∈ around ++ [last], Java.isBareName bare = true
  name : t.name = Java.decorate o.affixes o.settings (o.topLevel && around.isEmpty) last
  package : Java.packageParts t.package =
    Java.packageParts o.package ++ around.map fun bare => Java.escapeKeyword bare.lower

theorem exists_namedAlong (h : (Node.object o).resolve.outcome = .ok r)
    (ht : t ∈ r.types.topLevel) : ∃ around last, o.NamedAlong t around last := by
  obtain ⟨paths, hpaths⟩ := exists_hasPaths h
  obtain ⟨path, hpath, hname⟩ : ∃ path ∈ paths, o.nameAt path = t.qualifiedName := by
    rw [← List.mem_map, ← hpaths.names]
    exact List.mem_map_of_mem ht
  have hclass := hpaths.isClassPath path hpath
  obtain ⟨around, last, rfl⟩ := (List.eq_nil_or_concat' path).resolve_left (hpaths.ne_nil hpath)
  have hbare := hclass.isBareName
  have hid := Java.dot_not_mem_of_isIdentifier ((wellPlaced_of_resolve h).named t ht)
  have hsegments : ∀ s ∈ around.map fun bare => Java.escapeKeyword bare.lower,
      ('.' : CodePoint) ∉ s ∧ s ≠ [] := by
    rw [List.forall_mem_map]
    intro bare hmem
    have hb := hbare bare (List.mem_append_left _ hmem)
    exact ⟨Java.dot_not_mem_segment hb, Java.segment_ne_nil hb⟩
  -- One qualified name, taken apart at its dots in two ways.
  have hparts := congrArg Text.dotParts hname
  rw [nameAt, Java.qualify_pathName hclass, TypeRecord.qualifiedName,
    Java.dotParts_qualify_eq_append hclass.dot_not_mem, Java.dotParts_qualify_eq_append hid,
    Java.packageParts_packageBelow hsegments] at hparts
  obtain ⟨hpackage, hlast⟩ := List.append_inj' hparts rfl
  exact ⟨around, last, hbare, (List.singleton_inj.1 hlast).symm, hpackage.symm⟩

/-- A nested type lies in the package of the class that embeds it. -/
theorem exists_package_eq_of_mem_nested (h : (Node.object o).resolve.outcome = .ok r)
    (hu : u ∈ r.types.nested) : ∃ t ∈ r.types.topLevel, u.package = t.package := by
  obtain ⟨hall, hwell⟩ := embeds_of_resolve h
  rw [Generated.EmbedsAllBut, List.append_nil] at hall
  obtain ⟨e, he, hdeclaration⟩ := List.mem_map.1 (hall.mem_iff.1 (List.mem_map_of_mem hu))
  obtain ⟨t, ht, he⟩ := List.mem_flatMap.1 he
  obtain ⟨c, rfl, hembeddable⟩ := hwell.topLevel t ht
  obtain ⟨e', rfl⟩ := hwell.nested u hu
  obtain rfl : e = e' := Java.Declaration.ofEnum.inj hdeclaration
  exact ⟨c.toRecord, ht, (hembeddable e he).package_eq⟩

/-! ## No clashes -/

/-- No class of an object has the qualified name of a package that its types lie in, or of a package
around one of these. -/
theorem not_isInitialPart_of_resolve (h : (Node.object o).resolve.outcome = .ok r) :
    ∀ t ∈ r.types.topLevel, ∀ u ∈ r.types.topLevel ++ r.types.nested, ∀ p, u.package = some p →
      ¬Java.IsInitialPart t.qualifiedName p := by
  intro t ht u hu p hp hpart
  obtain ⟨v, hv, hpackage⟩ : ∃ v ∈ r.types.topLevel, u.package = v.package := by
    rcases List.mem_append.1 hu with hu | hu
    · exact ⟨u, hu, rfl⟩
    · exact exists_package_eq_of_mem_nested h hu
  obtain ⟨around, last, hclass⟩ := exists_namedAlong h ht
  obtain ⟨around', last', hclass'⟩ := exists_namedAlong h hv
  have hid := (wellPlaced_of_resolve h).named t ht
  have hparts := hpart.dotParts
  rw [TypeRecord.qualifiedName,
    Java.dotParts_qualify_eq_append (Java.dot_not_mem_of_isIdentifier hid), hclass.package] at hparts
  by_cases hempty : p = []
  · -- The empty package has one part, which is no name of a class.
    subst hempty
    have hmem : t.name ∈ Text.dotParts [] := hparts.subset (by simp)
    exact Java.ne_nil_of_isIdentifier hid (List.mem_singleton.1 hmem)
  · have hpackage' : p.dotParts = Java.packageParts o.package ++
        around'.map fun bare => Java.escapeKeyword bare.lower := by
      rw [← hclass'.package, ← hpackage, hp]
      exact (if_neg hempty).symm
    rw [hpackage', List.append_assoc, List.prefix_append_right_inj] at hparts
    obtain ⟨bare, hbare, heq⟩ := List.mem_map.1 (hparts.subset (by simp : t.name ∈ _ ++ [t.name]))
    rw [hclass.name] at heq
    exact Java.decorate_ne_segment (hclass.isBareName last (by simp))
      (hclass'.isBareName bare (List.mem_append_left _ hbare)) heq.symm

/-- Without a package, a lower-case prefix before all names, and an object named for a keyword. -/
theorem not_isInitialPart_of_resolve_prefixed :
    let mode : Schema := { type := some "string", enum := some [.str "on", .str "off"] }
    let rule : Schema := { type := some "object", properties := some [("mode", mode)] }
    let spec : Schema := { type := some "object", properties := some [("rule", rule)] }
    let o : ObjectNode :=
      { name := "class"
        settings := { prefixPolicy := .always }
        affixes := ⟨"k", []⟩
        properties := [("spec", spec)] }
    ∃ r, (Node.object o).resolve.outcome = .ok r ∧
      (r.types.topLevel ++ r.types.nested).map (fun t => (t.package, t.qualifiedName)) =
        [(some ("class_.spec" : Text), ("class_.spec.kRule" : Text)),
          (some ("class_" : Text), ("class_.kSpec" : Text)), (none, ("kClass" : Text)),
          (some ("class_.spec" : Text), ("class_.spec.kMode" : Text))] ∧
      ∀ t ∈ r.types.topLevel, ∀ u ∈ r.types.topLevel ++ r.types.nested, ∀ p,
        u.package = some p → ¬Java.IsInitialPart t.qualifiedName p := by
  intro mode rule spec o
  obtain ⟨r, hr, hnames⟩ : ∃ r, (Node.object o).resolve.outcome = .ok r ∧
      (r.types.topLevel ++ r.types.nested).map (fun t => (t.package, t.qualifiedName)) =
        [(some ("class_.spec" : Text), ("class_.spec.kRule" : Text)),
          (some ("class_" : Text), ("class_.kSpec" : Text)), (none, ("kClass" : Text)),
          (some ("class_.spec" : Text), ("class_.spec.kMode" : Text))] :=
    exists_eq_ok (by decide +kernel)
  exact ⟨r, hr, hnames, not_isInitialPart_of_resolve hr⟩

end ObjectNode

end KubeJava
