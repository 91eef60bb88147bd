import KubeJava.Proofs.Resolution
import Mathlib.Data.List.Basic

set_option autoImplicit false

/-! # Names of sibling types

The properties of an object take the names of their types one after the other, classes and enums
apart. Each asks for the plain name of its key and gets it unless a sibling has it; then it gets the
least number from 2 on that makes its decorated name free. The name of the owner counts as taken by an
enum, because enums live inside the class of their owner. What is reserved in this way is the name of
the type that is generated in the end, so the types of siblings have distinct names. -/

namespace KubeJava

/-! ## Types of members -/

namespace Member

/-- The class of a member that is an object inside its lists and maps: the last of its types. -/
def ownClass? (m : Member) : Option TypeRecord :=
  match m.child.innermost with
  | .object _ => m.core.types.topLevel.getLast?
  | _ => none

/-- The enum of a member that is one inside its lists and maps. -/
def ownEnum? (m : Member) : Option Java.EnumDeclaration := m.enums.head?

def className? (m : Member) : Option Text := m.ownClass?.map (·.name)

def enumName? (m : Member) : Option Text := m.ownEnum?.map (·.name)

end Member

namespace ObjectNode

variable {o : ObjectNode} {ps : Properties} {names names' : SiblingNames} {used taken : List Text}
  {members : List Member} {m : Member} {r : Resolved}

/-! ## Free names -/

/-- The bare name that a type gets for a base name when the decorated names `taken` are in use: the
base itself if it is free, and otherwise the base with the least number from 2 on that is free. -/
inductive FirstFree (o : ObjectNode) (base : Text) (taken : List Text) : Text → Prop where
  | plain : o.decorated base ∉ taken → FirstFree o base taken base
  | numbered {k : Nat} : o.decorated base ∈ taken → 2 ≤ k →
      o.decorated (base ++ Text.decimal k) ∉ taken →
      (∀ n, 2 ≤ n → n < k → o.decorated (base ++ Text.decimal n) ∈ taken) →
      FirstFree o base taken (base ++ Text.decimal k)

theorem FirstFree.not_mem {base bare : Text} (h : o.FirstFree base taken bare) :
    o.decorated bare ∉ taken := by
  cases h with
  | plain hfree => exact hfree
  | numbered _ _ hfree => exact hfree

theorem Reserves.firstFree {base : Text} {name : ReservedName} (h : o.Reserves base used name) :
    o.FirstFree base used name.bare := by
  have hfree : o.decorated name.bare ∉ used := h.decorated_eq ▸ h.not_mem
  rcases h.least with ⟨hplain, heq⟩ | ⟨htaken, k, hk, heq, hleast⟩
  · rw [heq]
    exact .plain hplain
  · rw [heq] at hfree ⊢
    exact .numbered htaken hk hfree hleast

/-- A property with the given key takes a decorated name for its type, or none. The names in use
before it and after it are given. -/
inductive TakesName (o : ObjectNode) (taken : List Text) (key : Text) :
    Option Text → List Text → Prop where
  | none : TakesName o taken key none taken
  | some {base bare : Text} : Java.typeName key = .ok base → o.FirstFree base taken bare →
      TakesName o taken key (some (o.decorated bare)) (o.decorated bare :: taken)

/-- Properties take their names in turn; each is given by its key and the name that it takes, if it
takes one. -/
inductive TakeNames (o : ObjectNode) : (taken : List Text) → List (Text × Option Text) → Prop where
  | nil (taken : List Text) : TakeNames o taken []
  | cons {taken taken' : List Text} {key : Text} {name? : Option Text}
      {rest : List (Text × Option Text)} : o.TakesName taken key name? taken' →
      TakeNames o taken' rest → TakeNames o taken ((key, name?) :: rest)

/-- Names that are taken in turn are distinct, and none of them was in use before. -/
theorem TakeNames.nodup {turns : List (Text × Option Text)} (h : o.TakeNames taken turns) :
    (turns.filterMap (·.2)).Nodup ∧ ∀ name ∈ turns.filterMap (·.2), name ∉ taken := by
  induction h with
  | nil => simp
  | cons hstep _ ih =>
    cases hstep with
    | none => simpa using ih
    | some _ hfree =>
      obtain ⟨hnodup, hnew⟩ := ih
      simp only [List.mem_cons, not_or] at hnew
      simp only [List.filterMap_cons, List.nodup_cons, List.forall_mem_cons]
      exact ⟨⟨fun hmem => (hnew _ hmem).1 rfl, hnodup⟩, hfree.not_mem,
        fun name hmem => (hnew name hmem).2⟩

/-! ## Names of members -/

theorem className_childIn_eq_ok {package bare : Text} {t : Schema} {path : List Text} {n : Text}
    (hbare : Java.isBareName bare = true) : (o.childIn package bare t path).className = .ok n ↔
      Java.isIdentifier (o.decorated bare) = true ∧ n = o.decorated bare := by
  simp only [className, bareName, childIn, Java.typeName_of_isBareName hbare, bind_eq_ok,
    Except.ok.injEq, exists_eq_left', Java.applyAffixes_eq_ok]
  exact Iff.rfl

/-- The last type of an object among the properties is its class, in the package of the children. -/
theorem getLast?_childIn {package bare : Text} {t : Schema} {path : List Text}
    (hbare : Java.isBareName bare = true)
    (h : (Node.object (o.childIn package bare t path)).resolve.outcome = .ok r) :
    ∃ c : Java.ClassDeclaration, r.types.topLevel.getLast? = some c.toRecord ∧
      c.name = o.decorated bare ∧ c.package = some package := by
  obtain ⟨className, members, hname, -, rfl⟩ := resolve_eq_ok.1 h
  obtain ⟨-, rfl⟩ := (className_childIn_eq_ok hbare).1 hname
  exact ⟨(o.childIn package bare t path).classOf (o.decorated bare) members, by simp [assembled],
    rfl, rfl⟩

/-- The type that a member has of its own: none if its type is supplied by name, or else an enum, or a
class in the package of the children. Both have the decorated form of the name given to the node. -/
inductive HasOwnType (o : ObjectNode) (m : Member) : Prop where
  | primitive {javaType : Text} (inner : m.child.innermost = .primitive javaType)
      (ownClass : m.ownClass? = none) (enums : m.enums = []) : HasOwnType o m
  | enum {e : EnumNode} {declaration : Java.EnumDeclaration}
      (inner : m.child.innermost = .enum e) (ownClass : m.ownClass? = none)
      (enums : m.enums = [declaration]) (named : declaration.name = o.decorated e.name) :
      HasOwnType o m
  | object {c : ObjectNode} {t : TypeRecord} {package : Text}
      (inner : m.child.innermost = .object c) (ownClass : m.ownClass? = some t)
      (enums : m.enums = []) (mem : t ∈ m.core.types.topLevel) (named : t.name = o.decorated c.name)
      (childPackage : o.childPackage = .ok package) (placed : t.package = some package) :
      HasOwnType o m

theorem HasMember.hasOwnType (h : o.HasMember m) : o.HasOwnType m := by
  cases h with
  | primitive inner _ _ enums =>
    exact .primitive inner (by rw [Member.ownClass?, inner]) enums
  | enum inner _ _ declaration _ enums =>
    exact .enum inner (by rw [Member.ownClass?, inner]) enums (by rw [declaration]; rfl)
  | object inner isBareName placed core enums =>
    obtain ⟨c, hlast, hname, hpackage⟩ := getLast?_childIn isBareName core
    exact .object inner (by rw [Member.ownClass?, inner]; exact hlast) enums
      (List.mem_of_getLast? hlast) hname placed hpackage

/-- The names that classification reserves for a member are those of its own types. -/
theorem HasOwnType.takesName {t : Schema} {path : List Text} (h : o.HasOwnType m)
    (hcl : o.Classified m.key t path names m.child.innermost names') :
    o.TakesName names.classes m.key m.className? names'.classes ∧
      o.TakesName names.enums m.key m.enumName? names'.enums := by
  cases h with
  | primitive inner ownClass enums =>
    rw [inner] at hcl
    cases hcl
    simp only [Member.className?, Member.enumName?, Member.ownEnum?, ownClass, enums]
    exact ⟨.none, .none⟩
  | enum inner ownClass enums named =>
    rw [inner] at hcl
    cases hcl with
    | enum _ hname _ =>
      obtain ⟨base, hbase, hreserved⟩ := reserves_of_uniqueTypeName hname
      simp only [Member.className?, Member.enumName?, Member.ownEnum?, ownClass, enums,
        hreserved.decorated_eq]
      refine ⟨.none, ?_⟩
      rw [List.head?_cons, Option.map_some, named]
      exact .some hbase hreserved.firstFree
  | object inner ownClass enums _ named =>
    rw [inner] at hcl
    cases hcl with
    | object _ hname hchild =>
      obtain ⟨base, hbase, hreserved⟩ := reserves_of_uniqueTypeName hname
      obtain ⟨package, -, rfl⟩ := childObject_eq_ok.1 hchild
      simp only [Member.className?, Member.enumName?, Member.ownEnum?, ownClass, enums,
        hreserved.decorated_eq]
      refine ⟨?_, .none⟩
      rw [Option.map_some, named]
      exact .some hbase hreserved.firstFree

theorem Collects.takeNames (h : o.Collects ps names used members) :
    o.TakeNames names.classes (members.map fun m => (m.key, m.className?)) ∧
      o.TakeNames names.enums (members.map fun m => (m.key, m.enumName?)) := by
  induction h with
  | nil names used => exact ⟨.nil names.classes, .nil names.enums⟩
  | cons hc hcore hfield hrest ih =>
    obtain ⟨steps, t, -, hcl⟩ := classified_of_classifyAt hc
    have hmember := (Collects.cons hc hcore hfield hrest).hasMember List.mem_cons_self
    obtain ⟨hclass, henum⟩ := hmember.hasOwnType.takesName hcl
    exact ⟨.cons hclass ih.1, .cons henum ih.2⟩

/-! ## Siblings -/

/-- The members of an object with the given class name have types with names of their own. -/
structure NamesSiblings (o : ObjectNode) (className : Text) (members : List Member) : Prop where
  ownTypes : ∀ m ∈ members, o.HasOwnType m
  classesInTurn : o.TakeNames [] (members.map fun m => (m.key, m.className?))
  enumsInTurn : o.TakeNames [className] (members.map fun m => (m.key, m.enumName?))
  nodup_classes : (members.filterMap (·.className?)).Nodup
  nodup_enums : (members.filterMap (·.enumName?)).Nodup
  owner_not_mem : className ∉ members.filterMap (·.enumName?)

theorem Collects.namesSiblings {className : Text}
    (h : o.Collects ps (.forOwner className) used members) :
    o.NamesSiblings className members := by
  obtain ⟨hclasses, henums⟩ := h.takeNames
  have hclasses' := hclasses.nodup
  have henums' := henums.nodup
  simp only [List.filterMap_map, Function.comp_def] at hclasses' henums'
  exact ⟨fun m hm => (h.hasMember hm).hasOwnType, hclasses, henums, hclasses'.1, henums'.1,
    fun hmem => henums'.2 className hmem List.mem_cons_self⟩

theorem HasOwnType.className?_eq (h : o.HasOwnType m) {c : ObjectNode}
    (hinner : m.child.innermost = .object c) : m.className? = some (o.decorated c.name) := by
  cases h with
  | primitive inner => cases inner.symm.trans hinner
  | enum inner => cases inner.symm.trans hinner
  | object inner ownClass _ _ named =>
    obtain rfl := Node.object.inj (inner.symm.trans hinner)
    rw [Member.className?, ownClass, Option.map_some, named]

/-- Objects among the properties of one object have different names. -/
theorem Collects.pairwise_name_ne (h : o.Collects ps names used members) :
    members.Pairwise fun m m' => ∀ c c', m.child.innermost = .object c →
      m'.child.innermost = .object c' → c.name ≠ c'.name := by
  have hnodup := h.takeNames.1.nodup.1
  rw [List.filterMap_map, List.Nodup, List.pairwise_filterMap] at hnodup
  refine hnodup.imp_of_mem fun {m m'} hm hm' hne c c' hinner hinner' heq => ?_
  exact hne _ ((h.hasMember hm).hasOwnType.className?_eq hinner) _
    ((h.hasMember hm').hasOwnType.className?_eq hinner') (congrArg o.decorated heq)

theorem enums_classOf_eq {className : Text} (h : ∀ m ∈ members, o.HasOwnType m) :
    (o.classOf className members).enums = members.filterMap (·.ownEnum?) := by
  have hone : ∀ m ∈ members, m.enums = m.ownEnum?.toList := fun m hm => by
    cases h m hm with
    | primitive _ _ enums => simp [Member.ownEnum?, enums]
    | enum _ _ enums => simp [Member.ownEnum?, enums]
    | object _ _ enums => simp [Member.ownEnum?, enums]
  rw [classOf, List.filterMap_eq_flatMap_toList]
  exact List.flatMap_congr hone

/-- The classes that the properties of an object bring, inside lists and maps or not, have distinct
names in the package of its children; the enums that its class embeds have distinct names other than
that of the class. Each gets the plain name of its key if that is free, and otherwise the one with the
least number. -/
theorem namesSiblings_of_resolve (h : (Node.object o).resolve.outcome = .ok r) :
    ∃ (className : Text) (members : List Member) (c : Java.ClassDeclaration),
      o.className = .ok className ∧
        o.Collects o.properties (.forOwner className) o.reservedFieldNames members ∧
        o.NamesSiblings className members ∧
        (∀ t ∈ members.filterMap (·.ownClass?), t ∈ r.types.topLevel) ∧
        r.types.topLevel.getLast? = some c.toRecord ∧ c.name = className ∧
        c.enums = members.filterMap (·.ownEnum?) := by
  obtain ⟨className, members, hname, hmembers, rfl⟩ := resolve_eq_ok.1 h
  have hsiblings := hmembers.namesSiblings
  refine ⟨className, members, o.classOf className members, hname, hmembers, hsiblings,
    fun t ht => ?_, by simp [assembled], rfl, enums_classOf_eq hsiblings.ownTypes⟩
  obtain ⟨m, hm, ht⟩ := List.mem_filterMap.1 ht
  cases hsiblings.ownTypes m hm with
  | primitive _ ownClass => simp [ownClass] at ht
  | enum _ ownClass => simp [ownClass] at ht
  | object _ ownClass _ mem =>
    obtain rfl := Option.some.inj (ownClass.symm.trans ht)
    exact List.mem_append_left _ (List.mem_flatMap.2 ⟨m, hm, mem⟩)

/-- Keys that give one name, a key that looks numbered, and an enum with the name of its owner. -/
theorem namesSiblings_of_resolve_numbered :
    let entry : Schema := { type := some "object" }
    let entries : Schema := { type := some "array", items := some entry }
    let mode : Schema := { type := some "string", enum := some [.str "A", .null] }
    let o : ObjectNode :=
      { name := "mode"
        affixes := ⟨"K8s", []⟩
        properties := [("fooBar2", entry), ("foo-bar", entries), ("fooBar", entry),
          ("foo_bar", entry), ("k8sMode", mode)] }
    ∃ r, (Node.object o).resolve.outcome = .ok r ∧
      (r.types.topLevel ++ r.types.nested).map TypeRecord.name =
        [("FooBar2" : Text), ("FooBar" : Text), ("FooBar3" : Text), ("FooBar4" : Text),
          ("K8sMode" : Text), ("K8sMode2" : Text)] ∧
      ∃ (className : Text) (members : List Member) (c : Java.ClassDeclaration),
        o.className = .ok className ∧
          o.Collects o.properties (.forOwner className) o.reservedFieldNames members ∧
          o.NamesSiblings className members ∧
          (∀ t ∈ members.filterMap (·.ownClass?), t ∈ r.types.topLevel) ∧
          r.types.topLevel.getLast? = some c.toRecord ∧ c.name = className ∧
          c.enums = members.filterMap (·.ownEnum?) := by
  intro entry entries mode o
  obtain ⟨r, hr, hnames⟩ : ∃ r, (Node.object o).resolve.outcome = .ok r ∧
      (r.types.topLevel ++ r.types.nested).map TypeRecord.name =
        [("FooBar2" : Text), ("FooBar" : Text), ("FooBar3" : Text), ("FooBar4" : Text),
          ("K8sMode" : Text), ("K8sMode2" : Text)] :=
    exists_eq_ok (by decide +kernel)
  exact ⟨r, hr, hnames, namesSiblings_of_resolve hr⟩

end ObjectNode

end KubeJava
