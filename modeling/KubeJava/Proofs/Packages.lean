import KubeJava.Proofs.Placement
import KubeJava.Proofs.Versions

set_option autoImplicit false

/-! # Packages of generated types

A package is spelled by the labels of the group, the name of a version and the bare names of the
objects around a type. All of these are checked where they are derived except for the name of the
version, which is taken as it is: a package is legal wherever the name of its version is. -/

namespace KubeJava

namespace Java

/-- The dot-separated parts of the package are identifiers. -/
def IsLegalPackage (package : Text) : Prop :=
  ∀ part ∈ package.dotParts, isIdentifier part = true

instance (package : Text) : Decidable (IsLegalPackage package) :=
  inferInstanceAs (Decidable (∀ part ∈ package.dotParts, isIdentifier part = true))

/-! ## Parts of packages -/

variable {package part n : Text} {segments : List Text}

@[simp] theorem dotParts_of_isIdentifier (h : isIdentifier n = true) : n.dotParts = [n] := by
  simp [dot_not_mem_of_isIdentifier h]

/-- A name in a package adds its parts to those of the package, unless the package is empty. -/
@[simp] theorem mem_dotParts_qualify : part ∈ (qualify (some package) n).dotParts ↔
    (package ≠ [] ∧ part ∈ package.dotParts) ∨ part ∈ n.dotParts := by
  by_cases h : package = [] <;> simp [h]

theorem mapM_ensureIdentifier_eq_ok {source : Text} {names : List Text}
    (h : (names.mapM fun s => ensureIdentifier s source) = .ok segments) :
    segments = names ∧ ∀ s ∈ segments, isIdentifier s = true := by
  induction names generalizing segments with
  | nil =>
    obtain rfl : [] = segments := by simpa using h
    simp
  | cons name rest ih =>
    simp only [List.mapM_cons, bind_eq_ok, pure_eq_ok, ensureIdentifier_eq_ok] at h
    obtain ⟨_, ⟨hname, rfl⟩, names, hnames, rfl⟩ := h
    obtain ⟨rfl, hall⟩ := ih hnames
    exact ⟨rfl, List.forall_mem_cons.2 ⟨hname, hall⟩⟩

/-- The package of a group is legal unless the group has no labels. -/
theorem isLegalPackage_of_packageForGroup {group base : Text}
    (h : packageForGroup group = .ok base) (hne : base ≠ []) : IsLegalPackage base := by
  simp only [packageForGroup, bind_eq_ok, pure_eq_ok] at h
  obtain ⟨segments, hsegments, rfl⟩ := h
  obtain ⟨-, hall⟩ := mapM_ensureIdentifier_eq_ok hsegments
  have hsome : segments ≠ [] := by
    rintro rfl
    exact hne rfl
  have hparts : Text.dotParts (("." : Text).intercalate segments) = segments :=
    Text.partsAt_intercalate_of_not_mem hsome fun s hs => dot_not_mem_of_isIdentifier (hall s hs)
  intro part hpart
  rw [hparts] at hpart
  exact hall part hpart

/-- The package that is reached from another one by some segments. -/
def packageBelow (package : Option Text) (segments : List Text) : Option Text :=
  segments.foldl (fun p s => some (qualify p s)) package

@[simp] theorem packageBelow_cons {package : Option Text} {s : Text} :
    packageBelow package (s :: segments) = packageBelow (some (qualify package s)) segments :=
  rfl

theorem exists_eq_packageBelow (package : Text) (segments : List Text) :
    ∃ q, packageBelow (some package) segments = some q := by
  induction segments generalizing package with
  | nil => exact ⟨package, rfl⟩
  | cons s rest ih => exact ih (qualify (some package) s)

/-- Below a package there are no other parts than its own and the segments. -/
theorem mem_or_isIdentifier_of_packageBelow {q : Text}
    (h : ∀ s ∈ segments, isIdentifier s = true)
    (hq : packageBelow (some package) segments = some q) (hpart : part ∈ q.dotParts) :
    part ∈ package.dotParts ∨ isIdentifier part = true := by
  induction segments generalizing package with
  | nil =>
    obtain rfl := Option.some.inj hq
    exact .inl hpart
  | cons s rest ih =>
    obtain ⟨hs, hrest⟩ := List.forall_mem_cons.1 h
    rcases ih hrest hq with hpart | hid
    · rcases mem_dotParts_qualify.1 hpart with ⟨-, hpart⟩ | hpart
      · exact .inl hpart
      · obtain rfl : part = s := by simpa [hs] using hpart
        exact .inr hs
    · exact .inr hid

end Java

/-! ## Where the types of an object lie -/

/-- The type lies in the package, or below it by segments that are identifiers. -/
def TypeRecord.PlacedBelow (package : Option Text) (r : TypeRecord) : Prop :=
  ∃ segments, (∀ s ∈ segments, Java.isIdentifier s = true) ∧
    r.package = Java.packageBelow package segments

theorem TypeRecord.placedBelow_self {package : Option Text} {r : TypeRecord}
    (h : r.package = package) : r.PlacedBelow package :=
  ⟨[], by simp, h⟩

theorem TypeRecord.PlacedBelow.of_qualify {package : Option Text} {segment : Text}
    {r : TypeRecord} (hsegment : Java.isIdentifier segment = true)
    (h : r.PlacedBelow (some (Java.qualify package segment))) : r.PlacedBelow package := by
  obtain ⟨segments, hall, hr⟩ := h
  exact ⟨segment :: segments, List.forall_mem_cons.2 ⟨hsegment, hall⟩, hr⟩

namespace ObjectNode

variable {o : ObjectNode} {r : Resolved} {m : Member}

/-- The package of the children adds the segment for the object's own bare name. -/
theorem childPackage_eq_ok {package : Text} (h : o.childPackage = .ok package) :
    ∃ bare, o.bareName = .ok bare ∧ Java.isIdentifier (Java.escapeKeyword bare.lower) = true ∧
      package = Java.qualify o.package (Java.escapeKeyword bare.lower) := by
  simp only [childPackage, bind_eq_ok, pure_eq_ok] at h
  obtain ⟨bare, hbare, segment, hsegment, rfl⟩ := h
  have hb := Java.isBareName_of_typeName hbare
  rw [Java.packageSegment_of_isBareName hb, Except.ok.injEq] at hsegment
  subst hsegment
  exact ⟨bare, hbare, Java.isIdentifier_escapeKeyword (Java.hasIdentifierForm_lower hb), rfl⟩

/-- All types lie in the package or below it, and the top-level ones are named by identifiers. -/
structure WellPlaced (o : ObjectNode) (types : Generated) : Prop where
  placed : ∀ t ∈ types.topLevel ++ types.nested, t.PlacedBelow o.package
  named : ∀ t ∈ types.topLevel, Java.isIdentifier t.name = true

theorem HasMember.wellPlaced (kind : o.HasMember m)
    (ih : ∀ c, m.child.innermost = .object c → c.WellPlaced m.core.types) :
    o.WellPlaced m.core.types := by
  cases kind with
  | primitive _ _ core =>
    rw [core]
    exact ⟨by simp, by simp⟩
  | enum _ _ _ declaration core =>
    rw [core, declaration]
    refine ⟨fun t ht => ?_, by simp⟩
    obtain rfl := List.mem_singleton.1 ht
    exact TypeRecord.placedBelow_self rfl
  | object inner _ placed =>
    obtain ⟨hplaced, hnamed⟩ := ih _ inner
    obtain ⟨bare, -, hsegment, rfl⟩ := childPackage_eq_ok placed
    exact ⟨fun t ht => (hplaced t ht).of_qualify hsegment, hnamed⟩

/-- Whatever an object resolves to lies in its package and below. -/
theorem wellPlaced_of_resolve (h : (Node.object o).resolve.outcome = .ok r) :
    o.WellPlaced r.types := by
  refine resolved_induction (P := fun o r => o.WellPlaced r.types) ?_ h
  intro o className members hname hmembers ih
  have hall : ∀ m ∈ members, o.WellPlaced m.core.types := fun m hm =>
    (hmembers.hasMember hm).wellPlaced (ih m hm)
  obtain ⟨bare, hbare, hclass⟩ := bind_eq_ok.1 hname
  obtain ⟨hid, heq⟩ := Java.applyAffixes_eq_ok.1 hclass
  constructor
  · intro t ht
    simp only [assembled, List.mem_append, List.mem_flatMap, List.mem_singleton] at ht
    rcases ht with (⟨m, hm, ht⟩ | rfl) | ⟨m, hm, ht⟩
    · exact (hall m hm).placed t (List.mem_append_left _ ht)
    · exact TypeRecord.placedBelow_self rfl
    · exact (hall m hm).placed t (List.mem_append_right _ ht)
  · intro t ht
    simp only [assembled, List.mem_append, List.mem_flatMap, List.mem_singleton] at ht
    rcases ht with ⟨m, hm, ht⟩ | rfl
    · exact (hall m hm).named t ht
    · change Java.isIdentifier className = true
      rw [heq]
      exact hid

end ObjectNode

/-! ## Where the types of a definition lie -/

variable {settings : Settings} {d : Definition} {v : Version} {g : Generation} {base : Text}

/-- The parts of a version's package are identifiers or parts of the version's name. -/
theorem isIdentifier_or_mem_of_mem_package {part : Text}
    (hbase : Java.packageForGroup d.group = .ok base)
    (h : part ∈ (Java.qualify (some base) v.name).dotParts) :
    Java.isIdentifier part = true ∨ part ∈ v.name.dotParts := by
  rcases Java.mem_dotParts_qualify.1 h with ⟨hne, hpart⟩ | hpart
  · exact .inl (Java.isLegalPackage_of_packageForGroup hbase hne part hpart)
  · exact .inr hpart

/-- A type of a version lies below the package of the version. -/
theorem Version.MadeOf.placedBelow {package : Text} {sections : List (ObjectNode × Resolved)}
    {resource : Java.ResourceDeclaration}
    (hv : Version.MadeOf settings d package v g sections resource) :
    (∀ r ∈ g.types.topLevel ++ g.types.nested, r.PlacedBelow (some package)) ∧
      ∀ r ∈ g.types.topLevel, Java.isIdentifier r.name = true := by
  have hsections : ∀ p ∈ sections, p.1.package = some package ∧ p.1.WellPlaced p.2.types := by
    intro p hp
    obtain ⟨name, s, heq⟩ := hv.exists_eq_sectionNode hp
    exact ⟨by rw [heq]; rfl, ObjectNode.wellPlaced_of_resolve (hv.each p hp)⟩
  rw [hv.topLevel, hv.nested]
  simp only [List.mem_append, List.mem_flatMap, List.mem_singleton]
  constructor
  · rintro r ((⟨p, hp, hr⟩ | rfl) | ⟨p, hp, hr⟩)
    · obtain ⟨heq, hwell⟩ := hsections p hp
      exact heq ▸ hwell.placed r (List.mem_append_left _ hr)
    · exact TypeRecord.placedBelow_self hv.package_eq
    · obtain ⟨heq, hwell⟩ := hsections p hp
      exact heq ▸ hwell.placed r (List.mem_append_right _ hr)
  · rintro r (⟨p, hp, hr⟩ | rfl)
    · exact (hsections p hp).2.named r hr
    · change Java.isIdentifier resource.name = true
      rw [hv.name_eq]
      exact hv.isIdentifier

/-- Every type lies in a package whose parts are identifiers or come from the name of a version. -/
theorem exists_package_of_mem (h : (generateDefinition settings d).outcome = .ok g)
    {r : TypeRecord} (hr : r ∈ g.types.topLevel ++ g.types.nested) :
    ∃ v ∈ d.versions, ∃ p, r.package = some p ∧
      ∀ part ∈ p.dotParts, Java.isIdentifier part = true ∨ part ∈ v.name.dotParts := by
  obtain ⟨base, parts, hbase, hparts⟩ := exists_parts_of_generateDefinition h
  rw [hparts.topLevel, hparts.nested] at hr
  simp only [List.mem_append, List.mem_flatMap] at hr
  obtain ⟨⟨v, gv⟩, hv, hr⟩ : ∃ p ∈ parts, r ∈ p.2.types.topLevel ++ p.2.types.nested := by
    rcases hr with ⟨p, hp, hr⟩ | ⟨p, hp, hr⟩
    · exact ⟨p, hp, List.mem_append_left _ hr⟩
    · exact ⟨p, hp, List.mem_append_right _ hr⟩
  obtain ⟨sections, resource, hmade⟩ := exists_parts_of_generateVersion (hparts.each _ hv)
  obtain ⟨segments, hsegments, hpackage⟩ := hmade.placedBelow.1 r hr
  obtain ⟨p, hp⟩ := Java.exists_eq_packageBelow (Java.qualify (some base) v.name) segments
  refine ⟨v, ?_, p, hpackage.trans hp, fun part hpart => ?_⟩
  · rw [← hparts.items_eq]
    exact List.mem_map_of_mem hv
  · rcases Java.mem_or_isIdentifier_of_packageBelow hsegments hp hpart with hpart | hid
    · exact isIdentifier_or_mem_of_mem_package hbase hpart
    · exact .inl hid

theorem isIdentifier_name_of_mem (h : (generateDefinition settings d).outcome = .ok g)
    {r : TypeRecord} (hr : r ∈ g.types.topLevel) : Java.isIdentifier r.name = true := by
  obtain ⟨base, parts, hbase, hparts⟩ := exists_parts_of_generateDefinition h
  rw [hparts.topLevel, List.mem_flatMap] at hr
  obtain ⟨p, hp, hr⟩ := hr
  obtain ⟨sections, resource, hmade⟩ := exists_parts_of_generateVersion (hparts.each p hp)
  exact hmade.placedBelow.2 r hr

/-- The class of the resource lies in a package that ends in the name of the version. -/
theorem exists_resource_of_mem (h : (generateDefinition settings d).outcome = .ok g)
    (hv : v ∈ d.versions) :
    ∃ r ∈ g.types.topLevel, ∃ p, r.package = some p ∧ ∀ part ∈ v.name.dotParts,
      part ∈ p.dotParts := by
  obtain ⟨base, parts, hbase, hparts⟩ := exists_parts_of_generateDefinition h
  rw [← hparts.items_eq, List.mem_map] at hv
  obtain ⟨⟨v, gv⟩, hp, rfl⟩ := hv
  obtain ⟨sections, resource, hmade⟩ := exists_parts_of_generateVersion (hparts.each _ hp)
  refine ⟨resource.toRecord, ?_, _, hmade.package_eq, fun part hpart => ?_⟩
  · rw [hparts.topLevel, List.mem_flatMap]
    refine ⟨_, hp, ?_⟩
    rw [hmade.topLevel]
    exact List.mem_append_right _ List.mem_cons_self
  · exact Java.mem_dotParts_qualify.2 (.inr hpart)

/-! ## Legal packages -/

/-- The types of a definition lie in legal packages exactly if the names of its versions would be
legal packages themselves: nothing else that a package is spelled from can be illegal. -/
theorem isLegalPackage_iff_versions (h : (generateDefinition settings d).outcome = .ok g) :
    (∀ r ∈ g.types.topLevel ++ g.types.nested, ∃ p, r.package = some p ∧ Java.IsLegalPackage p) ↔
      ∀ v ∈ d.versions, Java.IsLegalPackage v.name := by
  constructor
  · intro hlegal v hv part hpart
    obtain ⟨r, hr, p, hp, hsub⟩ := exists_resource_of_mem h hv
    obtain ⟨q, hq, hparts⟩ := hlegal r (List.mem_append_left _ hr)
    obtain rfl : p = q := Option.some.inj (hp.symm.trans hq)
    exact hparts part (hsub part hpart)
  · intro hversions r hr
    obtain ⟨v, hv, p, hp, hparts⟩ := exists_package_of_mem h hr
    refine ⟨p, hp, fun part hpart => ?_⟩
    rcases hparts part hpart with hid | hpart
    · exact hid
    · exact hversions v hv part hpart

/-- A group with a keyword among its labels, and an object named for a keyword. -/
theorem isLegalPackage_iff_versions_keywords :
    let level : Schema := { type := some "string", enum := some [.str "low", .str "high"] }
    let rule : Schema := { type := some "object", properties := some [("level", level)] }
    let spec : Schema :=
      { type := some "object"
        properties := some [
          ("class", { type := some "object", properties := some [("rule", rule)] })] }
    let root : Schema := { type := some "object", properties := some [("spec", spec)] }
    let d : Definition :=
      { apiVersion := "apiextensions.k8s.io/v1"
        group := "new.my-app.org"
        names := { kind := "Widget" }
        versions := [{ name := "v1", validation := some { openAPI := some root } }] }
    ∃ g, (generateDefinition {} d).outcome = .ok g ∧
      (g.types.topLevel ++ g.types.nested).map (·.package) =
        [some ("org.myapp.new_.v1.spec.class_" : Text), some ("org.myapp.new_.v1.spec" : Text),
          some ("org.myapp.new_.v1" : Text), some ("org.myapp.new_.v1" : Text),
          some ("org.myapp.new_.v1.spec.class_" : Text)] ∧
      ∀ r ∈ g.types.topLevel ++ g.types.nested,
        ∃ p, r.package = some p ∧ Java.IsLegalPackage p := by
  intro level rule spec root d
  obtain ⟨g, hg, hpackages⟩ : ∃ g, (generateDefinition {} d).outcome = .ok g ∧
      (g.types.topLevel ++ g.types.nested).map (·.package) =
        [some ("org.myapp.new_.v1.spec.class_" : Text), some ("org.myapp.new_.v1.spec" : Text),
          some ("org.myapp.new_.v1" : Text), some ("org.myapp.new_.v1" : Text),
          some ("org.myapp.new_.v1.spec.class_" : Text)] :=
    exists_eq_ok (by decide +kernel)
  have hversions : ∀ v ∈ d.versions, Java.IsLegalPackage v.name := by
    intro v hv
    obtain rfl := List.mem_singleton.1 hv
    decide
  exact ⟨g, hg, hpackages, (isLegalPackage_iff_versions hg).2 hversions⟩

/-- A version may be named by a number, which no part of a package can be. -/
theorem not_forall_isLegalPackage :
    ¬∀ (settings : Settings) (d : Definition) (g : Generation),
      (generateDefinition settings d).outcome = .ok g →
        ∀ r ∈ g.types.topLevel ++ g.types.nested, ∀ p, r.package = some p →
          Java.IsLegalPackage p := by
  intro hall
  let d : Definition :=
    { apiVersion := "apiextensions.k8s.io/v1"
      group := "test.org"
      names := { kind := "Widget" }
      versions := [{ name := "1" }] }
  obtain ⟨g, hg, hpackages⟩ : ∃ g, (generateDefinition {} d).outcome = .ok g ∧
      (g.types.topLevel ++ g.types.nested).map (·.package) = [some ("org.test.1" : Text)] :=
    exists_eq_ok (by decide +kernel)
  obtain ⟨r, hr, hp⟩ := List.mem_map.1 (hpackages ▸ List.mem_cons_self)
  exact absurd (hall {} d g hg r hr _ hp) (by decide)

end KubeJava
