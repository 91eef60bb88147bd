import KubeJava.Proofs.Appending
import Mathlib.Data.List.Perm.Basic

set_option autoImplicit false

/-! # The order of properties

Properties meet in the names that their fields and types ask for. Where no two names meet, each
property gets the plain names of its key, whatever comes before it, and what it brings does not depend
on the others. So the order of the properties shows in the order of what they bring and in nothing
else. -/

namespace KubeJava

/-! ## Names that meet -/

/-- Both names can be derived, and they are the same one. -/
def SameName (x y : Except GenerationError Text) : Prop := ∃ n, x = .ok n ∧ y = .ok n

instance (x y : Except GenerationError Text) : Decidable (SameName x y) :=
  match x, y with
  | .ok m, .ok n => decidable_of_iff (m = n) (by simp [SameName, eq_comm])
  | .error _, _ => isFalse fun ⟨_, h, _⟩ => nomatch h
  | .ok _, .error _ => isFalse fun ⟨_, _, h⟩ => nomatch h

theorem SameName.symm {x y : Except GenerationError Text} (h : SameName x y) : SameName y x := by
  obtain ⟨n, hx, hy⟩ := h
  exact ⟨n, hy, hx⟩

/-- The taken names among which a new one has to be found for the type of the node. -/
def SiblingNames.takenFor (names : SiblingNames) : Node → List Text
  | .object _ => names.classes
  | .enum _ => names.enums
  | _ => []

/-- Two nodes are both objects or both enums. -/
inductive Node.Alike : Node → Node → Prop where
  | object (c c' : ObjectNode) : Alike (.object c) (.object c')
  | enum (e e' : EnumNode) : Alike (.enum e) (.enum e')

namespace ObjectNode

variable {o : ObjectNode} {p q : Text × Schema} {ps qs : Properties} {key : Text} {s : Schema}
  {path : List Text} {names names' taken : SiblingNames} {used : List Text} {child inner : Node}
  {members : List Member} {m : Member} {className : Text}
  {r : Resolved}

/-- Among some taken names the property is classified to a node with this one inside its lists and
maps. -/
def ClassifiesTo (o : ObjectNode) (p : Text × Schema) (inner : Node) : Prop :=
  ∃ names names' child, o.classify p.1 p.2 names = .ok (child, names') ∧ child.innermost = inner

def BecomesClass (o : ObjectNode) (p : Text × Schema) : Prop := ∃ c, o.ClassifiesTo p (.object c)

def BecomesEnum (o : ObjectNode) (p : Text × Schema) : Prop := ∃ e, o.ClassifiesTo p (.enum e)

/-- The names that properties ask for do not meet: those of the fields, those of the classes, those of
the enums, the name of the field that holds all other properties, and that of the object's own
class. -/
structure NamesApart (o : ObjectNode) (ps : Properties) : Prop where
  fields : ps.Pairwise fun p q => ¬SameName (Java.fieldName p.1) (Java.fieldName q.1)
  catchAll : o.preserveUnknownFields = true →
    ∀ p ∈ ps, ¬SameName (Java.fieldName p.1) (.ok catchAllField)
  classes : ps.Pairwise fun p q => o.BecomesClass p → o.BecomesClass q →
    ¬SameName (Java.typeName p.1) (Java.typeName q.1)
  enums : ps.Pairwise fun p q => o.BecomesEnum p → o.BecomesEnum q →
    ¬SameName (Java.typeName p.1) (Java.typeName q.1)
  owner : ∀ p ∈ ps, o.BecomesEnum p →
    ¬SameName (do o.nestedTypeName (← Java.typeName p.1)) o.className

/-- The order of the properties does not matter for that. -/
theorem NamesApart.perm (h : o.NamesApart ps) (hperm : ps.Perm qs) : o.NamesApart qs where
  fields := (hperm.pairwise_iff fun h hsame => h hsame.symm).1 h.fields
  catchAll hcatch p hp := h.catchAll hcatch p (hperm.mem_iff.2 hp)
  classes := (hperm.pairwise_iff fun h hq hp hsame => h hp hq hsame.symm).1 h.classes
  enums := (hperm.pairwise_iff fun h hq hp hsame => h hp hq hsame.symm).1 h.enums
  owner p hp := h.owner p (hperm.mem_iff.2 hp)

/-! ## Free names -/

/-- The plain name for the key of a property is free for the type of this node. -/
def PlainNameFree (o : ObjectNode) (names : SiblingNames) (key : Text) (inner : Node) : Prop :=
  ∀ base, Java.typeName key = .ok base → o.decorated base ∉ names.takenFor inner

theorem plainNameFree_empty (o : ObjectNode) (key : Text) (inner : Node) :
    o.PlainNameFree {} key inner := by
  intro base _
  cases inner <;> exact List.not_mem_nil

/-- A free name is given out whatever other names are taken. -/
theorem uniqueTypeName_of_free (h : ∀ base, Java.typeName key = .ok base → o.decorated base ∉ used) :
    o.uniqueTypeName key used = o.uniqueTypeName key [] := by
  cases hbase : Java.typeName key with
  | error e => simp [uniqueTypeName, hbase]
  | ok base =>
    simp only [uniqueTypeName, hbase, ok_bind]
    cases hnested : o.nestedTypeName base with
    | error e => rfl
    | ok n =>
      obtain ⟨-, rfl⟩ := nestedTypeName_eq_ok.1 hnested
      simp [h base hbase]

/-- Classification depends on the taken names only if the plain name is among them. -/
theorem classifyAt_of_free (h : o.classifyAt key s path names = .ok (child, names'))
    (hfree : o.PlainNameFree names key child.innermost)
    (hfree' : o.PlainNameFree taken key child.innermost) :
    ∃ taken', o.classifyAt key s path taken = .ok (child, taken') := by
  fun_induction classifyAt o key s path names generalizing child names' with
  | case1 s path javaType hs =>
    cases h
    exact ⟨taken, by rw [classifyAt_eq, hs]⟩
  | case2 s path hs =>
    cases h
    exact ⟨taken, by rw [classifyAt_eq, hs]⟩
  | case3 s path items hs ih =>
    simp only [bind_eq_ok, pure_eq_ok] at h
    obtain ⟨⟨element, names''⟩, he, hr⟩ := h
    cases hr
    obtain ⟨taken', he'⟩ := ih he hfree hfree'
    exact ⟨taken', by rw [classifyAt_eq, hs]; exact bind_eq_ok.2 ⟨_, he', rfl⟩⟩
  | case4 s path value hs ih =>
    simp only [bind_eq_ok, pure_eq_ok] at h
    obtain ⟨⟨value', names''⟩, he, hr⟩ := h
    cases hr
    obtain ⟨taken', he'⟩ := ih he hfree hfree'
    exact ⟨taken', by rw [classifyAt_eq, hs]; exact bind_eq_ok.2 ⟨_, he', rfl⟩⟩
  | case5 s path hs =>
    simp only [bind_eq_ok, pure_eq_ok] at h
    obtain ⟨name, hname, c, hc, hr⟩ := h
    cases hr
    have hname' : o.uniqueTypeName key taken.classes = .ok name :=
      (uniqueTypeName_of_free hfree').trans ((uniqueTypeName_of_free hfree).symm.trans hname)
    refine ⟨{ taken with classes := name.decorated :: taken.classes }, ?_⟩
    rw [classifyAt_eq, hs]
    exact bind_eq_ok.2 ⟨_, hname', bind_eq_ok.2 ⟨_, hc, rfl⟩⟩
  | case6 s path values hs =>
    simp only [bind_eq_ok] at h
    obtain ⟨name, hname, hr⟩ := h
    split at hr
    · cases hr
    · next literals hl =>
      cases hr
      have hname' : o.uniqueTypeName key taken.enums = .ok name :=
        (uniqueTypeName_of_free hfree').trans ((uniqueTypeName_of_free hfree).symm.trans hname)
      refine ⟨{ taken with enums := name.decorated :: taken.enums }, ?_⟩
      rw [classifyAt_eq, hs]
      exact bind_eq_ok.2 ⟨_, hname', by rw [hl]; rfl⟩
  | case7 s path reason hs => cases h

/-- All that classification takes is the plain name of the key, if that is free, and it takes it from
types of its own kind only. -/
theorem mem_takenFor_of_classify (h : o.classify key s names = .ok (child, names'))
    (hfree : o.PlainNameFree names key child.innermost) {n : Text} (hn : n ∈ names'.takenFor inner) :
    n ∈ names.takenFor inner ∨
      child.innermost.Alike inner ∧ ∃ base, Java.typeName key = .ok base ∧ n = o.decorated base := by
  obtain ⟨steps, t, -, hcl⟩ := classified_of_classifyAt h
  generalize child.innermost = root at hcl hfree ⊢
  -- The reserved name is the plain one.
  have hplain : ∀ {name : ReservedName}, o.uniqueTypeName key (names.takenFor root) = .ok name →
      ∃ base, Java.typeName key = .ok base ∧ name.decorated = o.decorated base := by
    intro name hname
    obtain ⟨base, hbase, hreserved⟩ := reserves_of_uniqueTypeName hname
    rcases hreserved.least with ⟨-, heq⟩ | ⟨htaken, -⟩
    · exact ⟨base, hbase, by rw [hreserved.decorated_eq, heq]⟩
    · exact absurd htaken (hfree base hbase)
  cases hcl with
  | primitive => exact .inl hn
  | object _ hname _ =>
    obtain ⟨base, hbase, hdecorated⟩ := hplain hname
    cases inner with
    | object c' =>
      rcases List.mem_cons.1 hn with rfl | hn
      · exact .inr ⟨.object _ c', base, hbase, hdecorated⟩
      · exact .inl hn
    | _ => exact .inl hn
  | enum _ hname _ =>
    obtain ⟨base, hbase, hdecorated⟩ := hplain hname
    cases inner with
    | enum e' =>
      rcases List.mem_cons.1 hn with rfl | hn
      · exact .inr ⟨.enum _ e', base, hbase, hdecorated⟩
      · exact .inl hn
    | _ => exact .inl hn

/-- All names that the properties ask for are free. -/
structure NamesFree (o : ObjectNode) (names : SiblingNames) (used : List Text) (ps : Properties) :
    Prop where
  fields : ∀ p ∈ ps, ∀ n, Java.fieldName p.1 = .ok n → n ∉ used
  types : ∀ p ∈ ps, ∀ inner, o.ClassifiesTo p inner → o.PlainNameFree names p.1 inner

/-- Names that do not meet are free after each property, if they are before it. -/
theorem NamesFree.tail {n : Text} (h : o.NamesFree names used ((key, s) :: ps))
    (hapart : o.NamesApart ((key, s) :: ps)) (hc : o.classify key s names = .ok (child, names'))
    (hfield : Java.fieldName key = .ok n) : o.NamesFree names' (n :: used) ps := by
  have hfree := h.types _ List.mem_cons_self _ ⟨names, names', child, hc, rfl⟩
  refine ⟨fun p hp m hm => ?_, fun p hp inner hinner base hbase htaken => ?_⟩
  · rw [List.mem_cons, not_or]
    refine ⟨?_, h.fields p (List.mem_cons_of_mem _ hp) m hm⟩
    rintro rfl
    exact (List.pairwise_cons.1 hapart.fields).1 p hp ⟨m, hfield, hm⟩
  · rcases mem_takenFor_of_classify hc hfree htaken with hold | ⟨halike, base', hbase', heq⟩
    · exact h.types p (List.mem_cons_of_mem _ hp) inner hinner base hbase hold
    · obtain rfl := decorated_injective heq
      have hto : o.ClassifiesTo (key, s) child.innermost := ⟨names, names', child, hc, rfl⟩
      have hsame : SameName (Java.typeName key) (Java.typeName p.1) := ⟨base, hbase', hbase⟩
      generalize child.innermost = root at halike hto
      cases halike with
      | object c c' =>
        exact (List.pairwise_cons.1 hapart.classes).1 p hp ⟨c, hto⟩ ⟨c', hinner⟩ hsame
      | enum e e' =>
        exact (List.pairwise_cons.1 hapart.enums).1 p hp ⟨e, hto⟩ ⟨e', hinner⟩ hsame

theorem NamesApart.of_cons (h : o.NamesApart (p :: ps)) : o.NamesApart ps where
  fields := (List.pairwise_cons.1 h.fields).2
  catchAll hcatch q hq := h.catchAll hcatch q (List.mem_cons_of_mem _ hq)
  classes := (List.pairwise_cons.1 h.classes).2
  enums := (List.pairwise_cons.1 h.enums).2
  owner q hq := h.owner q (List.mem_cons_of_mem _ hq)

theorem isIdentifier_of_className (h : o.className = .ok className) :
    Java.isIdentifier className = true := by
  simp only [ObjectNode.className, bind_eq_ok, Java.applyAffixes_eq_ok] at h
  obtain ⟨bare, -, hid, rfl⟩ := h
  exact hid

/-- Before the first property only the names of the object's own class and of the field for all other
properties are taken. -/
theorem NamesApart.namesFree (h : o.NamesApart ps) (hname : o.className = .ok className) :
    o.NamesFree (.forOwner className) o.reservedFieldNames ps where
  fields p hp n hn hmem := by
    rw [reservedFieldNames] at hmem
    split at hmem
    · next hcatch =>
      obtain rfl := List.mem_singleton.1 hmem
      exact h.catchAll hcatch p hp ⟨_, hn, rfl⟩
    · cases hmem
  types p hp inner hinner base hbase htaken := by
    cases inner with
    | enum e =>
      obtain heq : o.decorated base = className := List.mem_singleton.1 htaken
      have hnested := nestedTypeName_eq_ok.2 ⟨heq ▸ isIdentifier_of_className hname, heq.symm⟩
      exact h.owner p hp ⟨e, hinner⟩ ⟨className, bind_eq_ok.2 ⟨base, hbase, hnested⟩, hname⟩
    | _ => cases htaken

/-! ## Members on their own -/

/-- What the property brings when it is the only one. -/
structure StandsAlone (o : ObjectNode) (p : Text × Schema) (m : Member) : Prop where
  key : m.key = p.1
  schema : m.schema = p.2
  classified : ∃ names, o.classify p.1 p.2 {} = .ok (m.child, names)
  core : m.child.innermost.resolve.outcome = .ok m.core
  fieldName : Java.fieldName p.1 = .ok m.fieldName

/-- Properties with free names that do not meet bring what each of them brings on its own. -/
theorem collects_iff_forall₂ (hapart : o.NamesApart ps) (hfree : o.NamesFree names used ps) :
    o.Collects ps names used members ↔ List.Forall₂ o.StandsAlone ps members := by
  have hplain : ∀ {candidate used}, candidate ∉ used → Java.uniqueName candidate used = candidate :=
    fun {candidate used} hn => by simp [Java.uniqueName, hn]
  constructor
  · intro h
    induction h with
    | nil names used => exact .nil
    | @cons key s rest names names' used child core candidate members hc hcore hfield _ ih =>
      have hname := hplain (hfree.fields _ List.mem_cons_self _ hfield)
      obtain ⟨taken, hc'⟩ := classifyAt_of_free hc
        (hfree.types _ List.mem_cons_self _ ⟨_, _, _, hc, rfl⟩) (plainNameFree_empty o key _)
      rw [hname] at ih ⊢
      exact .cons ⟨rfl, rfl, ⟨taken, hc'⟩, hcore, hfield⟩
        (ih hapart.of_cons (hfree.tail hapart hc hfield))
  · intro h
    induction h generalizing names used with
    | nil => exact .nil names used
    | @cons p m rest members hm _ ih =>
      obtain ⟨key, s⟩ := p
      obtain ⟨key', s', child, core, candidate⟩ := m
      obtain ⟨rfl, rfl, ⟨taken, hc⟩, hcore, hfield⟩ := hm
      have hname := hplain (hfree.fields _ List.mem_cons_self _ hfield)
      obtain ⟨names', hc'⟩ := classifyAt_of_free hc (plainNameFree_empty o _ _)
        (hfree.types _ List.mem_cons_self _ ⟨_, _, _, hc, rfl⟩)
      have hrest := ih hapart.of_cons (hfree.tail hapart hc' hfield)
      have hall := Collects.cons hc' hcore hfield (hname.symm ▸ hrest)
      rwa [hname] at hall

/-! ## Other orders -/

/-- Properties whose names do not meet resolve in any order if they do in one, and bring the same. -/
theorem exists_relates_perm (hperm : ps.Perm qs) (h : o.NamesApart ps)
    (hr : (Node.object (o.withProperties ps)).resolve.outcome = .ok r) :
    ∃ r', (Node.object (o.withProperties qs)).resolve.outcome = .ok r' ∧ r.Relates List.Perm r' := by
  obtain ⟨className, members, hname, hmembers, rfl⟩ := resolve_withProperties_eq_ok.1 hr
  have halone := (collects_iff_forall₂ h (h.namesFree hname)).1 hmembers
  obtain ⟨members', halone', hperm'⟩ := List.perm_comp_forall₂ hperm.symm halone
  have hmembers' := (collects_iff_forall₂ (h.perm hperm) ((h.perm hperm).namesFree hname)).2 halone'
  refine ⟨o.assembled className members', ?_, ?_⟩
  · exact resolve_withProperties_eq_ok.2 ⟨className, members', hname, hmembers', rfl⟩
  · exact relates_assembled (fun f _ _ h => h.flatMap_right f) hperm'.symm

/-- The order of properties whose names do not meet decides neither whether the object resolves nor
what it resolves to, up to the order of the types, fields and enums that the properties bring. -/
theorem relates_perm_of_resolve (hperm : ps.Perm qs) (h : o.NamesApart ps) :
    ((∃ r, (Node.object (o.withProperties ps)).resolve.outcome = .ok r) ↔
      ∃ r, (Node.object (o.withProperties qs)).resolve.outcome = .ok r) ∧
      ∀ r r', (Node.object (o.withProperties ps)).resolve.outcome = .ok r →
        (Node.object (o.withProperties qs)).resolve.outcome = .ok r' →
        r.Relates List.Perm r' := by
  refine ⟨⟨?_, ?_⟩, ?_⟩
  · rintro ⟨r, hr⟩
    obtain ⟨r', hr', -⟩ := exists_relates_perm hperm h hr
    exact ⟨r', hr'⟩
  · rintro ⟨r, hr⟩
    obtain ⟨r', hr', -⟩ := exists_relates_perm hperm.symm (h.perm hperm) hr
    exact ⟨r', hr'⟩
  · intro r r' hr hr'
    obtain ⟨r'', hr'', hrelates⟩ := exists_relates_perm hperm h hr
    obtain rfl : r'' = r' := Except.ok.inj (hr''.symm.trans hr')
    exact hrelates

/-- A class, a list of another one and an enum, in two orders. -/
theorem relates_perm_of_resolve_rotated :
    let entry : Schema := { type := some "object" }
    let entries : Schema := { type := some "array", items := some entry }
    let mode : Schema := { type := some "string", enum := some [.str "on", .str "off"] }
    let o : ObjectNode := { name := "Spec", preserveUnknownFields := true }
    let ps : Properties := [("template", entry), ("entries", entries), ("mode", mode)]
    let qs : Properties := [("mode", mode), ("template", entry), ("entries", entries)]
    (∃ r, (Node.object (o.withProperties ps)).resolve.outcome = .ok r ∧
      r.types.topLevel.map TypeRecord.qualifiedName =
        [("spec.Template" : Text), ("spec.Entries" : Text), ("Spec" : Text)]) ∧
      ((∃ r, (Node.object (o.withProperties ps)).resolve.outcome = .ok r) ↔
        ∃ r, (Node.object (o.withProperties qs)).resolve.outcome = .ok r) ∧
      ∀ r r', (Node.object (o.withProperties ps)).resolve.outcome = .ok r →
        (Node.object (o.withProperties qs)).resolve.outcome = .ok r' →
        r.Relates List.Perm r' := by
  intro entry entries mode o ps qs
  have hperm : (ps.take 2 ++ ps.drop 2).Perm (ps.drop 2 ++ ps.take 2) := List.perm_append_comm
  -- Even keys of different kinds ask for different names here.
  have htypes : ps.Pairwise fun p q => ¬SameName (Java.typeName p.1) (Java.typeName q.1) := by
    decide +kernel
  have hapart : o.NamesApart ps :=
    { fields := by decide +kernel
      catchAll := fun _ => by decide +kernel
      classes := htypes.imp fun h _ _ => h
      enums := htypes.imp fun h _ _ => h
      owner := fun p hp _ => (by decide +kernel : ∀ p ∈ ps,
        ¬SameName (do o.nestedTypeName (← Java.typeName p.1)) o.className) p hp }
  exact ⟨exists_eq_ok (by decide +kernel), relates_perm_of_resolve hperm hapart⟩

end ObjectNode

end KubeJava
