import KubeJava.Proofs.Resolution
import KubeJava.Proofs.Splitting

set_option autoImplicit false

/-! # References between generated types

The types of an object come in an order in which every class refers to types before it only, and
every type but the last is referred to by a class after it. A field refers to a type through any
number of lists and maps. -/

namespace KubeJava

open Java (TypeTable)

/-! ## What fields refer to -/

/-- The first type is what stays of the second when some lists and maps around it are stripped. -/
inductive Java.Wraps (inner : Text) : Text → Prop where
  | refl : Wraps inner inner
  | list {t : Text} : Wraps inner t → Wraps inner (Java.listOf t)
  | map {t : Text} : Wraps inner t → Wraps inner (Java.mapOf t)

theorem Node.wraps_wrap (n : Node) (t : Text) : Java.Wraps t (n.wrap t) := by
  induction n with
  | array element ih => exact .list ih
  | map value ih => exact .map ih
  | _ => exact .refl

namespace TypeRecord

/-- The record is a class, and each field but the catch-all has a type supplied by name, an enum
inside the class or a type among the earlier ones, inside lists and maps. -/
def Grounded (table : TypeTable) (earlier : List TypeRecord) (r : TypeRecord) : Prop :=
  ∃ c, r.declaration = .ofClass c ∧ ∀ f ∈ c.fields, f.catchAll = false →
    ∃ name, Java.Wraps name f.typeReference ∧
      (table.Supplies name ∨ (∃ e ∈ c.enums, e.name = name) ∨
        ∃ s ∈ earlier, s.qualifiedName = name)

/-- A field of the class, not the catch-all, refers to the type of a name. -/
def RefersTo (r : TypeRecord) (name : Text) : Prop :=
  ∃ c, r.declaration = .ofClass c ∧
    ∃ f ∈ c.fields, f.catchAll = false ∧ Java.Wraps name f.typeReference

theorem Grounded.mono {table : TypeTable} {earlier earlier' : List TypeRecord} {r : TypeRecord}
    (h : r.Grounded table earlier) (hsub : earlier ⊆ earlier') : r.Grounded table earlier' := by
  obtain ⟨c, hc, hfields⟩ := h
  refine ⟨c, hc, fun f hf hcatch => ?_⟩
  obtain ⟨name, hwraps, hname⟩ := hfields f hf hcatch
  exact ⟨name, hwraps, hname.imp_right (Or.imp_right fun ⟨s, hs, heq⟩ => ⟨s, hsub hs, heq⟩)⟩

end TypeRecord

/-! ## Lists of types in order -/

/-- Each record is grounded in those before it. -/
def InReferenceOrder (table : TypeTable) (rs : List TypeRecord) : Prop :=
  ∀ earlier r later, rs = earlier ++ r :: later → r.Grounded table earlier

/-- Each record with records after it is referred to by one of them. -/
def ReferredToLater (rs : List TypeRecord) : Prop :=
  ∀ earlier r later, rs = earlier ++ r :: later → later ≠ [] →
    ∃ user ∈ later, user.RefersTo r.qualifiedName

section InReferenceOrder

variable {table : TypeTable} {rs ss : List TypeRecord}

theorem InReferenceOrder.append (hrs : InReferenceOrder table rs)
    (hss : ∀ earlier r later, ss = earlier ++ r :: later → r.Grounded table (rs ++ earlier)) :
    InReferenceOrder table (rs ++ ss) := by
  intro earlier r later h
  rcases append_eq_append_cons h with ⟨rest, hrest, -⟩ | ⟨before, hbefore, rfl⟩
  · exact hrs earlier r rest hrest
  · exact hss before r later hbefore

theorem inReferenceOrder_flatMap {α : Type} {f : α → List TypeRecord} {as : List α}
    (h : ∀ a ∈ as, InReferenceOrder table (f a)) : InReferenceOrder table (as.flatMap f) := by
  induction as with
  | nil => exact fun earlier r later hnil => by simp at hnil
  | cons a rest ih =>
    obtain ⟨ha, hrest⟩ := List.forall_mem_cons.1 h
    rw [List.flatMap_cons]
    refine ha.append fun earlier r later heq => ?_
    exact (ih hrest earlier r later heq).mono (List.subset_append_right _ _)

end InReferenceOrder

/-! ## The types of an object -/

namespace ObjectNode

variable {o : ObjectNode} {className : Text} {members : List Member} {r : Resolved}

/-- The types of an object: in order, all in use, and with the class of the object at the end. -/
structure WellReferenced (o : ObjectNode) (r : Resolved) : Prop where
  grounded : InReferenceOrder o.typeTable r.types.topLevel
  used : ReferredToLater r.types.topLevel
  last : ∃ front last, r.types.topLevel = front ++ [last] ∧ last.qualifiedName = r.reference

theorem mem_fields_classOf {f : Java.Field} (hf : f ∈ (o.classOf className members).fields)
    (hcatch : f.catchAll = false) : ∃ m ∈ members, m.field o = f := by
  rcases List.mem_append.1 hf with hf | hf
  · exact List.mem_map.1 hf
  · split at hf
    · obtain rfl := List.mem_singleton.1 hf
      cases hcatch
    · cases hf

/-- A member is referred to by the class of its owner. -/
theorem refersTo_of_mem {m : Member} (hm : m ∈ members) :
    (o.classOf className members).toRecord.RefersTo m.core.reference := by
  refine ⟨_, rfl, m.field o, ?_, rfl, m.child.wraps_wrap _⟩
  exact List.mem_append_left _ (List.mem_map.2 ⟨m, hm, rfl⟩)

/-- The class of an object is grounded in the types of its members. -/
theorem grounded_classOf (kinds : ∀ m ∈ members, o.HasMember m)
    (ih : ∀ m ∈ members, ∀ c, m.child.innermost = .object c → c.WellReferenced m.core) :
    (o.classOf className members).toRecord.Grounded o.typeTable
      (members.flatMap (·.core.types.topLevel)) := by
  refine ⟨_, rfl, fun f hf hcatch => ?_⟩
  obtain ⟨m, hm, rfl⟩ := mem_fields_classOf hf hcatch
  refine ⟨m.core.reference, m.child.wraps_wrap _, ?_⟩
  cases kinds m hm with
  | primitive _ supplied core =>
    rw [core]
    exact .inl supplied
  | @enum _ _ _ _ e _ _ _ _ core enums =>
    refine .inr (.inl ⟨e, List.mem_flatMap.2 ⟨m, hm, by simp [enums]⟩, ?_⟩)
    rw [core]
  | object inner =>
    obtain ⟨front, last, hlast, hname⟩ := (ih m hm _ inner).last
    refine .inr (.inr ⟨last, List.mem_flatMap.2 ⟨m, hm, by simp [hlast]⟩, hname⟩)

theorem inReferenceOrder_of_mem {m : Member} (hm : o.HasMember m)
    (ih : ∀ c, m.child.innermost = .object c → c.WellReferenced m.core) :
    InReferenceOrder o.typeTable m.core.types.topLevel := by
  cases hm with
  | primitive _ _ core =>
    rw [core]
    exact fun earlier r later h => by simp at h
  | enum _ _ _ _ core =>
    rw [core]
    exact fun earlier r later h => by simp at h
  | object inner => exact (ih _ inner).grounded

/-- Each type below an object is used: inside a member by one of its types, and the last type of a
member by the class of the object. -/
theorem referredToLater_assembled (kinds : ∀ m ∈ members, o.HasMember m)
    (ih : ∀ m ∈ members, ∀ c, m.child.innermost = .object c → c.WellReferenced m.core) :
    ReferredToLater (o.assembled className members).types.topLevel := by
  intro earlier r later h hne
  rcases append_eq_append_cons h with ⟨rest, hrest, rfl⟩ | ⟨before, hbefore, -⟩
  · -- The record is one of a member, which is an object since only objects have such records.
    obtain ⟨ms, m, ms', before, after, rfl, htop, -, rfl⟩ := flatMap_eq_append_cons hrest
    have hm : m ∈ ms ++ m :: ms' := by simp
    cases kinds m hm with
    | primitive _ _ core => simp [core] at htop
    | enum _ _ _ _ core => simp [core] at htop
    | object inner =>
      have hwell := ih m hm _ inner
      by_cases hafter : after = []
      · subst hafter
        obtain ⟨front, last, hlast, hname⟩ := hwell.last
        obtain ⟨-, heq⟩ := List.append_inj' (hlast.symm.trans htop) rfl
        obtain rfl := List.singleton_inj.1 heq
        rw [hname]
        exact ⟨_, List.mem_append_right _ List.mem_cons_self, refersTo_of_mem hm⟩
      · obtain ⟨user, huser, href⟩ := hwell.used before r after htop hafter
        exact ⟨user, by simp [huser], href⟩
  · -- The record is the class of the object, which has none after it.
    cases before with
    | nil => simp_all
    | cons _ _ => simp at hbefore

/-- Whatever an object resolves to is well referenced. -/
theorem wellReferenced_of_resolve (h : (Node.object o).resolve.outcome = .ok r) :
    o.WellReferenced r := by
  refine resolved_induction (P := WellReferenced) ?_ h
  intro o className members hname hmembers ih
  have kinds : ∀ m ∈ members, o.HasMember m := fun m hm => hmembers.hasMember hm
  refine ⟨?_, referredToLater_assembled kinds ih, ⟨_, _, rfl, rfl⟩⟩
  refine (inReferenceOrder_flatMap fun m hm =>
    inReferenceOrder_of_mem (kinds m hm) (ih m hm)).append fun earlier r later h => ?_
  obtain ⟨rfl, rfl⟩ : earlier = [] ∧ (o.classOf className members).toRecord = r := by
    cases earlier with
    | nil => simp_all
    | cons _ _ => simp at h
  rw [List.append_nil]
  exact grounded_classOf kinds ih

/-- A list of objects that hold an enum and a map of objects. -/
theorem wellReferenced_of_resolve_rules :
    let port : Schema := { type := some "integer", format := some "int32" }
    let rule : Schema :=
      { type := some "object"
        properties := some [
          ("mode", { type := some "string", enum := some [.str "A", .null] }),
          ("targets", {
            type := some "object"
            additionalProperties := some (.inr
              { type := some "object", properties := some [("port", port)] }) })] }
    let o : ObjectNode :=
      { name := "Spec"
        package := some ("com.example" : Text)
        properties := [("rules", { type := some "array", items := some rule })] }
    ∃ r, (Node.object o).resolve.outcome = .ok r ∧ o.WellReferenced r ∧
      r.types.topLevel.map TypeRecord.qualifiedName =
        [("com.example.spec.rules.Targets" : Text), ("com.example.spec.Rules" : Text),
          ("com.example.Spec" : Text)] := by
  intro port rule o
  obtain ⟨r, hr, hnames⟩ : ∃ r, (Node.object o).resolve.outcome = .ok r ∧
      r.types.topLevel.map TypeRecord.qualifiedName =
        [("com.example.spec.rules.Targets" : Text), ("com.example.spec.Rules" : Text),
          ("com.example.Spec" : Text)] :=
    exists_eq_ok (by decide +kernel)
  exact ⟨r, hr, wellReferenced_of_resolve hr, hnames⟩

end ObjectNode

end KubeJava
