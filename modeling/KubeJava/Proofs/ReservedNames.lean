import KubeJava.Proofs.SiblingNames

set_option autoImplicit false

/-! # Reserved names

Classification reserves the decorated name of a new type and hands only the bare name on to the node,
which makes its name from that once more: it looks for words, capitalises and decorates them. Both
ways lead to one name, because a bare name has only itself as type name. For the same reason a
package for the children can always be derived from it. So the names that are kept apart among
siblings are those that the types get. -/

namespace KubeJava

namespace Java

/-- A type name is its own type name: one word, which starts with a capital letter. -/
theorem typeName_of_typeName {raw t : Text} (h : typeName raw = .ok t) : typeName t = .ok t :=
  typeName_of_isBareName (isBareName_of_typeName h)

end Java

def Node.isObject : Node → Bool
  | .object _ => true
  | _ => false

theorem Node.exists_of_isObject {n : Node} (h : n.isObject = true) : ∃ o, n = .object o := by
  cases n with
  | object o => exact ⟨o, rfl⟩
  | _ => cases h

namespace ObjectNode

variable {o : ObjectNode} {key base bare package : Text} {s t : Schema} {path : List Text}
  {used literals : List Text} {names names' : SiblingNames} {name : ReservedName} {child : Node}

/-! ## Names made again -/

theorem bareName_childIn (hbare : Java.isBareName bare = true) :
    (o.childIn package bare t path).bareName = .ok bare :=
  Java.typeName_of_isBareName hbare

theorem childPackage_childIn (hbare : Java.isBareName bare = true) :
    (o.childIn package bare t path).childPackage =
      .ok (Java.qualify (some package) (Java.escapeKeyword bare.lower)) := by
  simp only [childPackage, bareName_childIn hbare, bind_eq_ok, Except.ok.injEq, exists_eq_left',
    Java.packageSegment_of_isBareName hbare, pure_eq_ok]
  rfl

theorem Reserves.className_childIn (h : o.Reserves base used name) :
    (o.childIn package name.bare t path).className = .ok name.decorated :=
  (className_childIn_eq_ok h.isBareName).2 ⟨h.decorated_eq ▸ h.isIdentifier, h.decorated_eq⟩

theorem Reserves.typeReference_childEnum (h : o.Reserves base used name) :
    (o.childEnum name.bare literals t).typeReference = .ok name.decorated :=
  (typeReference_childEnum_eq_ok h.isBareName).2
    ⟨h.decorated_eq ▸ h.isIdentifier, h.decorated_eq⟩

/-! ## Reserved and emitted names -/

/-- The name that is reserved for an object or an enum inside the lists and maps of a property is new
among the names of its kind and is the name of the type that the node stands for. The object keeps
the bare name that it was given, and there is a package for its children. All this rests on type
names: each has only itself as type name, and is a capital letter followed by letters and digits. -/
theorem reserved_name_of_classifyAt
    (h : o.classifyAt key s path names = .ok (child, names')) :
    (∀ c, child.innermost = .object c → ∃ name : ReservedName,
      o.uniqueTypeName key names.classes = .ok name ∧ name.decorated ∉ names.classes ∧
        names' = { names with classes := name.decorated :: names.classes } ∧
        c.className = .ok name.decorated ∧ c.name = name.bare ∧ c.bareName = .ok c.name ∧
        ∃ package, c.childPackage = .ok package) ∧
      (∀ e, child.innermost = .enum e → ∃ name : ReservedName,
        o.uniqueTypeName key names.enums = .ok name ∧ name.decorated ∉ names.enums ∧
          names' = { names with enums := name.decorated :: names.enums } ∧
          e.typeReference = .ok name.decorated ∧ e.name = name.bare) ∧
      ∀ raw t, Java.typeName raw = .ok t → Java.typeName t = .ok t ∧ t ≠ [] ∧
        (∃ c ∈ t.head?, Java.isAsciiCapital c = true) ∧ ∀ c ∈ t, Java.isWordChar c = true := by
  obtain ⟨steps, t, -, hcl⟩ := classified_of_classifyAt h
  refine ⟨?_, ?_, ?_⟩
  · intro c hinner
    rw [hinner] at hcl
    cases hcl with
    | @object name c _ hname hchild =>
      obtain ⟨base, -, hreserved⟩ := reserves_of_uniqueTypeName hname
      obtain ⟨package, -, rfl⟩ := childObject_eq_ok.1 hchild
      exact ⟨name, hname, hreserved.not_mem, rfl, hreserved.className_childIn, rfl,
        bareName_childIn hreserved.isBareName, _, childPackage_childIn hreserved.isBareName⟩
  · intro e hinner
    rw [hinner] at hcl
    cases hcl with
    | @enum _ _ name _ hname _ =>
      obtain ⟨base, -, hreserved⟩ := reserves_of_uniqueTypeName hname
      exact ⟨name, hname, hreserved.not_mem, rfl, hreserved.typeReference_childEnum, rfl⟩
  · intro raw t ht
    have hbare := Java.isBareName_of_typeName ht
    have hne : t ≠ [] := Java.ne_nil_of_isIdentifier (Java.isIdentifier_of_isBareName hbare)
    exact ⟨Java.typeName_of_typeName ht, hne, Java.isBareName_iff.1 hbare⟩

/-- The plain name is taken, and the prefix is part of what is compared. -/
theorem reserved_name_of_classifyAt_prefixed :
    let entry : Schema := { type := some "object" }
    let s : Schema := { type := some "array", items := some entry }
    let o : ObjectNode :=
      { name := "spec", settings := { prefixPolicy := .always }, affixes := ⟨"Api", []⟩ }
    let names : SiblingNames := { classes := ["ApiMyItems", "MyItems2"], enums := ["ApiSpec"] }
    ∃ child names', o.classifyAt "my-items" s ["spec", "my-items"] names = .ok (child, names') ∧
      names'.classes = [("ApiMyItems2" : Text), ("ApiMyItems" : Text), ("MyItems2" : Text)] ∧
      ∃ c, child.innermost = .object c ∧ ∃ name : ReservedName,
        o.uniqueTypeName "my-items" names.classes = .ok name ∧
          name.decorated ∉ names.classes ∧
          names' = { names with classes := name.decorated :: names.classes } ∧
          c.className = .ok name.decorated ∧ c.name = name.bare ∧ c.bareName = .ok c.name ∧
          ∃ package, c.childPackage = .ok package := by
  intro entry s o names
  obtain ⟨⟨child, names'⟩, hclassify, hparts⟩ : ∃ p,
      o.classifyAt "my-items" s ["spec", "my-items"] names = .ok p ∧
        (p.1.innermost.isObject, p.2.classes) =
          (true, [("ApiMyItems2" : Text), ("ApiMyItems" : Text), ("MyItems2" : Text)]) :=
    exists_eq_ok (by decide +kernel)
  obtain ⟨hobject, hclasses⟩ := Prod.mk.inj hparts
  obtain ⟨c, hinner⟩ := Node.exists_of_isObject hobject
  exact ⟨child, names', hclassify, hclasses, c, hinner,
    (reserved_name_of_classifyAt hclassify).1 c hinner⟩

end ObjectNode

end KubeJava
