import KubeJava.Proofs.Changes
import Mathlib.Data.List.Infix

set_option autoImplicit false

/-! # Properties after others

An object resolves its properties from the first to the last and never comes back to one: which names
are free for a property depends on those before it only. So more properties at the end leave all that
the others bring as it is, and add to it. -/

namespace KubeJava

open Java (ClassDeclaration Field)

/-! ## What properties bring -/

/-- The fields that stand for properties. -/
def Java.ClassDeclaration.propertyFields (c : ClassDeclaration) : List Field :=
  c.fields.filter fun f => !f.catchAll

/-- Both results end in a class of one name, package and description, and whatever the properties
bring is related: the types before that class, its fields and enums, and the nested types. -/
inductive Resolved.Relates (R : {α : Type} → List α → List α → Prop) (r r' : Resolved) : Prop where
  | intro {before before' : List TypeRecord} {c c' : ClassDeclaration}
      (topLevel : r.types.topLevel = before ++ [c.toRecord])
      (topLevel' : r'.types.topLevel = before' ++ [c'.toRecord])
      (reference : r.reference = r'.reference) (name : c.name = c'.name)
      (package : c.package = c'.package) (description : c.description = c'.description)
      (types : R before before') (nested : R r.types.nested r'.types.nested)
      (fields : R c.propertyFields c'.propertyFields) (enums : R c.enums c'.enums) :
      Relates R r r'

namespace ObjectNode

variable {o : ObjectNode} {ps qs : Properties} {names : SiblingNames} {used : List Text}
  {members members' : List Member} {className : Text} {r : Resolved}

@[simp] theorem propertyFields_classOf (o : ObjectNode) (className : Text) (members : List Member) :
    (o.classOf className members).propertyFields = members.map (·.field o) := by
  have hmembers : (members.map (·.field o)).filter (fun f => !f.catchAll) =
      members.map (·.field o) := by
    rw [List.filter_eq_self, List.forall_mem_map]
    intro m _
    rfl
  rw [ClassDeclaration.propertyFields, classOf, List.filter_append, hmembers,
    List.append_right_eq_self]
  split <;> rfl

/-- Members that are related bring related things, if the relation passes from lists to what their
members bring. -/
theorem relates_assembled {R : {α : Type} → List α → List α → Prop}
    (hR : ∀ {α β : Type} (f : α → List β) {as bs : List α}, R as bs →
      R (as.flatMap f) (bs.flatMap f)) (h : R members members') :
    (o.assembled className members).Relates R (o.assembled className members') := by
  refine .intro rfl rfl rfl rfl rfl rfl ?_ ?_ ?_ ?_
  · exact hR _ h
  · exact hR _ h
  · simp only [propertyFields_classOf, List.map_eq_flatMap]
    exact hR _ h
  · exact hR _ h

/-! ## Other properties -/

/-- The object with other properties. -/
def withProperties (o : ObjectNode) (ps : Properties) : ObjectNode := { o with properties := ps }

@[simp] theorem uniqueTypeName_withProperties (o : ObjectNode) (ps : Properties) (key : Text)
    (used : List Text) : (o.withProperties ps).uniqueTypeName key used =
      o.uniqueTypeName key used := by
  have hnested : ∀ bare, (o.withProperties ps).nestedTypeName bare = o.nestedTypeName bare :=
    fun _ => rfl
  have hnumbered : ∀ base fuel n, (o.withProperties ps).numberedTypeName base used fuel n =
      o.numberedTypeName base used fuel n := by
    intro base fuel
    induction fuel with
    | zero =>
      intro n
      rfl
    | succ fuel ih =>
      intro n
      simp only [numberedTypeName, hnested, ih]
  simp only [uniqueTypeName, hnested, hnumbered]

@[simp] theorem classifyAt_withProperties (o : ObjectNode) (ps : Properties) (key : Text) (s : Schema)
    (path : List Text) (names : SiblingNames) :
    (o.withProperties ps).classifyAt key s path names = o.classifyAt key s path names := by
  have htable : (o.withProperties ps).typeTable = o.typeTable := rfl
  fun_induction classifyAt o key s path names with
  | case1 s path javaType hs => simp [classifyAt_eq, htable, hs]
  | case2 s path hs => simp [classifyAt_eq, htable, hs]
  | case3 s path items hs ih => simp [classifyAt_eq _ key s, htable, hs, ih]
  | case4 s path value hs ih => simp [classifyAt_eq _ key s, htable, hs, ih]
  | case5 s path hs =>
    simp only [classifyAt_eq _ key s, htable, hs, uniqueTypeName_withProperties]
    rfl
  | case6 s path values hs =>
    simp only [classifyAt_eq _ key s, htable, hs, uniqueTypeName_withProperties]
    rfl
  | case7 s path reason hs => simp [classifyAt_eq, htable, hs]

/-- Which properties an object has does not matter for collecting some of them. -/
@[simp] theorem collects_withProperties_iff :
    (o.withProperties qs).Collects ps names used members ↔ o.Collects ps names used members := by
  have hclassify : ∀ key s names, (o.withProperties qs).classify key s names =
      o.classify key s names := fun key s => o.classifyAt_withProperties qs key s _
  constructor
  · intro h
    induction h with
    | nil names used => exact .nil names used
    | cons hc hcore hfield _ ih => exact .cons (hclassify _ _ _ ▸ hc) hcore hfield ih
  · intro h
    induction h with
    | nil names used => exact .nil names used
    | cons hc hcore hfield _ ih => exact .cons ((hclassify _ _ _).trans hc) hcore hfield ih

/-- An object resolves with some properties exactly if they can be collected. -/
theorem resolve_withProperties_eq_ok :
    (Node.object (o.withProperties ps)).resolve.outcome = .ok r ↔
      ∃ className members, o.className = .ok className ∧
        o.Collects ps (.forOwner className) o.reservedFieldNames members ∧
        r = o.assembled className members := by
  rw [resolve_eq_ok]
  simp only [collects_withProperties_iff]
  exact Iff.rfl

/-! ## More properties -/

theorem Collects.exists_isPrefix (h : o.Collects (ps ++ qs) names used members) :
    ∃ front, o.Collects ps names used front ∧ front <+: members := by
  induction ps generalizing names used members with
  | nil => exact ⟨[], .nil names used, List.nil_prefix⟩
  | cons p ps ih =>
    cases h with
    | cons hc hcore hfield hrest =>
      obtain ⟨front, hfront, hprefix⟩ := ih hrest
      exact ⟨_, .cons hc hcore hfield hfront, (List.prefix_cons_inj _).2 hprefix⟩

/-- An object that resolves with some properties and others after them resolves with the first ones
alone, and what these bring is the beginning of what all of them bring: nothing is renamed. -/
theorem isPrefix_of_resolve_append
    (h : (Node.object (o.withProperties (ps ++ qs))).resolve.outcome = .ok r) :
    ∃ r', (Node.object (o.withProperties ps)).resolve.outcome = .ok r' ∧
      r'.Relates List.IsPrefix r := by
  obtain ⟨className, members, hname, hmembers, rfl⟩ := resolve_withProperties_eq_ok.1 h
  obtain ⟨front, hfront, hprefix⟩ := hmembers.exists_isPrefix
  refine ⟨o.assembled className front, ?_, relates_assembled (fun f _ _ h => h.flatMap f) hprefix⟩
  exact resolve_withProperties_eq_ok.2 ⟨className, front, hname, hfront, rfl⟩

/-- Later keys that ask for the names of earlier ones: they are numbered, the earlier ones are not. -/
theorem isPrefix_of_resolve_append_numbered :
    let entry : Schema := { type := some "object" }
    let mode : Schema := { type := some "string", enum := some [.str "on", .str "off"] }
    let o : ObjectNode := { name := "Spec", preserveUnknownFields := true }
    let ps : Properties := [("fooBar", entry), ("mode", mode)]
    let qs : Properties := [("foo-bar", entry), ("Mode", mode), ("additionalProperties", mode)]
    ∃ r, (Node.object (o.withProperties (ps ++ qs))).resolve.outcome = .ok r ∧
      (r.types.topLevel ++ r.types.nested).map TypeRecord.qualifiedName =
        [("spec.FooBar" : Text), ("spec.FooBar2" : Text), ("Spec" : Text), ("Mode" : Text),
          ("Mode2" : Text), ("AdditionalProperties" : Text)] ∧
      ∃ r', (Node.object (o.withProperties ps)).resolve.outcome = .ok r' ∧
        r'.Relates List.IsPrefix r := by
  intro entry mode o ps qs
  obtain ⟨r, hr, hnames⟩ :
      ∃ r, (Node.object (o.withProperties (ps ++ qs))).resolve.outcome = .ok r ∧
        (r.types.topLevel ++ r.types.nested).map TypeRecord.qualifiedName =
          [("spec.FooBar" : Text), ("spec.FooBar2" : Text), ("Spec" : Text), ("Mode" : Text),
            ("Mode2" : Text), ("AdditionalProperties" : Text)] :=
    exists_eq_ok (by decide +kernel)
  exact ⟨r, hr, hnames, isPrefix_of_resolve_append hr⟩

end ObjectNode

end KubeJava
