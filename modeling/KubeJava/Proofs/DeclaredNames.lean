import KubeJava.Proofs.Fields
import KubeJava.Proofs.Success

set_option autoImplicit false

/-! # Declared names

Every name in the declarations of a result has passed the check of identifiers, which tolerates one
line feed at the end. Only two texts can bring it in: a suffix that ends with it, and the key of a
property that is an identifier with a line feed after it, for such a key is the name of its field as
it is. A prefix stands before other characters, and what is derived from words, literals and numbers
has no line feed. -/

namespace KubeJava

/-! ## Names in declarations -/

def Java.EnumDeclaration.declaredNames (e : EnumDeclaration) : List Text :=
  e.name :: e.constants.map (·.identifier)

/-- The names of classes, enums, fields and constants that a declaration introduces. -/
def Java.Declaration.declaredNames : Declaration → List Text
  | .ofEnum e => e.declaredNames
  | .ofClass c => c.name :: c.fieldNames ++ c.enums.flatMap (·.declaredNames)
  | .ofResource r => [r.name]

def Generated.declaredNames (g : Generated) : List Text :=
  (g.topLevel ++ g.nested).flatMap (·.declaration.declaredNames)

theorem Generated.forall_declaredNames {P : Text → Prop} {g : Generated} :
    (∀ name ∈ g.declaredNames, P name) ↔ ∀ r, r ∈ g.topLevel ∨ r ∈ g.nested →
      ∀ name ∈ r.declaration.declaredNames, P name := by
  simp only [declaredNames, List.mem_flatMap, List.mem_append]
  constructor
  · intro h r hr name hname
    exact h name ⟨r, hr, hname⟩
  · rintro h name ⟨r, hr, hname⟩
    exact h r hr name hname

/-! ## Line feeds that pass -/

/-- The suffix, if there is one, has no line feed. -/
def Java.Affixes.SuffixAvoidsLineFeed (a : Affixes) (s : Settings) (topLevel : Bool) : Prop :=
  s.suffixPolicy.applies topLevel = true → ('\n' : CodePoint) ∉ a.after

/-- Neither the suffix nor a key that passes as an identifier has a line feed, in the object and in
all objects that are visited from it. -/
structure ObjectNode.AvoidsLineFeeds (o : ObjectNode) : Prop where
  suffix : o.affixes.SuffixAvoidsLineFeed o.settings o.topLevel
  keys : ∀ key s, o.Visits key s → Java.isIdentifier key = true → ('\n' : CodePoint) ∉ key

/-- No text that a node takes names from can bring a line feed into one. -/
def Node.AvoidsLineFeeds : Node → Prop
  | .primitive _ => True
  | .array element => element.AvoidsLineFeeds
  | .map value => value.AvoidsLineFeeds
  | .enum e => e.affixes.SuffixAvoidsLineFeed e.settings e.topLevel
  | .object o => o.AvoidsLineFeeds
  | .resource r => ('\n' : CodePoint) ∉ r.kind

/-- A suffix that nested types have is one that all types have. -/
theorem AffixPolicy.applies_of_applies_nested {p : AffixPolicy} (h : p.applies false = true)
    (topLevel : Bool) : p.applies topLevel = true := by
  cases p with
  | never => cases h
  | topLevel => cases h
  | always => rfl

namespace Java

variable {a : Affixes} {s : Settings} {topLevel : Bool}

theorem Affixes.SuffixAvoidsLineFeed.nested (h : a.SuffixAvoidsLineFeed s topLevel) :
    a.SuffixAvoidsLineFeed s false :=
  fun happlies => h (AffixPolicy.applies_of_applies_nested happlies topLevel)

/-- A decorated name can have no other line feed than that of its suffix. -/
theorem isProperIdentifier_decorate_iff {bare : Text} (hbare : isBareName bare = true)
    (h : isIdentifier (decorate a s topLevel bare) = true) :
    IsProperIdentifier (decorate a s topLevel bare) ↔ a.SuffixAvoidsLineFeed s topLevel := by
  rw [isProperIdentifier_iff h]
  have hne : bare ≠ [] := ne_nil_of_hasIdentifierForm (hasIdentifierForm_of_isBareName hbare)
  have hclean : ('\n' : CodePoint) ∉ bare :=
    not_mem_of_hasIdentifierForm (hasIdentifierForm_of_isBareName hbare) (by decide)
  constructor
  · intro hfeed happlies hmem
    exact hfeed (List.mem_append_right _ (by rwa [if_pos happlies]))
  · intro hsuffix hmem
    rw [decorate, List.append_assoc] at h
    rw [decorate, List.append_assoc, List.mem_append, List.mem_append] at hmem
    rcases hmem with hmem | hmem | hmem
    · exact lineFeed_not_mem_of_isIdentifier_append h (by simp [hne]) hmem
    · exact hclean hmem
    · split at hmem
      · next happlies => exact hsuffix happlies hmem
      · cases hmem

end Java

/-! ## Names of enums and resources -/

theorem EnumNode.isProperIdentifier_iff {e : EnumNode} {r : Resolved}
    (h : e.resolve.outcome = .ok r) :
    (∀ name ∈ r.types.declaredNames, Java.IsProperIdentifier name) ↔
      e.affixes.SuffixAvoidsLineFeed e.settings e.topLevel := by
  obtain ⟨name, constants, hname, hconstants, rfl⟩ := EnumNode.resolve_eq_ok.1 h
  obtain ⟨bare, hbare, hname⟩ := bind_eq_ok.1 hname
  obtain ⟨hid, rfl⟩ := Java.applyAffixes_eq_ok.1 hname
  rw [← Java.isProperIdentifier_decorate_iff (Java.isBareName_of_typeName hbare) hid,
    Generated.forall_declaredNames]
  constructor
  · intro hnames
    exact hnames _ (.inr List.mem_cons_self) _ List.mem_cons_self
  · intro hproper t ht
    obtain rfl : t = (e.declaration _ constants).toRecord := by simpa using ht
    refine List.forall_mem_cons.2 ⟨hproper, List.forall_mem_map.2 ?_⟩
    exact isProperIdentifier_of_enumConstants hconstants

theorem ResourceNode.isProperIdentifier_iff {n : ResourceNode} {r : Resolved}
    (h : n.resolve = .ok r) :
    (∀ name ∈ r.types.declaredNames, Java.IsProperIdentifier name) ↔
      ('\n' : CodePoint) ∉ n.kind := by
  simp only [ResourceNode.resolve, bind_eq_ok, pure_eq_ok, Java.ensureIdentifier_eq_ok] at h
  obtain ⟨name, ⟨hid, rfl⟩, reference, -, rfl⟩ := h
  rw [← Java.isProperIdentifier_iff hid, Generated.forall_declaredNames]
  simp [Generated.empty, Generated.withTopLevel, Java.ResourceDeclaration.toRecord,
    Java.Declaration.declaredNames]

/-! ## Names of an object -/

namespace ObjectNode

variable {o : ObjectNode} {ps : Properties} {names : SiblingNames} {used : List Text}
  {members : List Member} {m : Member} {className : Text} {r : Resolved}

/-- The enums that a member brings into the class of its owner are among its types. -/
theorem HasMember.toRecord_mem_nested (h : o.HasMember m) {e : Java.EnumDeclaration}
    (he : e ∈ m.enums) : e.toRecord ∈ m.core.types.nested := by
  cases h with
  | primitive _ _ _ enums => simp [enums] at he
  | enum _ _ _ _ core enums => simp_all
  | object _ _ _ _ enums => simp [enums] at he

/-- The names of an object are those of its members' types, of its class and of the fields. -/
theorem forall_declaredNames_assembled {P : Text → Prop} (kinds : ∀ m ∈ members, o.HasMember m) :
    (∀ name ∈ (o.assembled className members).types.declaredNames, P name) ↔
      P className ∧ (∀ name ∈ (o.classOf className members).fieldNames, P name) ∧
        ∀ m ∈ members, ∀ name ∈ m.core.types.declaredNames, P name := by
  simp only [Generated.forall_declaredNames]
  constructor
  · intro h
    have hclass := h (o.classOf className members).toRecord (.inl (by simp [assembled]))
    refine ⟨hclass _ List.mem_cons_self, fun name hname => hclass name ?_, fun m hm t ht => h t ?_⟩
    · exact List.mem_append_left _ (List.mem_cons_of_mem _ hname)
    · rcases ht with ht | ht
      · exact .inl (List.mem_append_left _ (List.mem_flatMap.2 ⟨m, hm, ht⟩))
      · exact .inr (List.mem_flatMap.2 ⟨m, hm, ht⟩)
  · rintro ⟨hname, hfields, hmembers⟩ t ht
    have hrecord : (∃ m ∈ members, t ∈ m.core.types.topLevel ∨ t ∈ m.core.types.nested) ∨
        t = (o.classOf className members).toRecord := by
      rcases ht with ht | ht
      · rcases List.mem_append.1 ht with ht | ht
        · obtain ⟨m, hm, ht⟩ := List.mem_flatMap.1 ht
          exact .inl ⟨m, hm, .inl ht⟩
        · exact .inr (List.mem_singleton.1 ht)
      · obtain ⟨m, hm, ht⟩ := List.mem_flatMap.1 ht
        exact .inl ⟨m, hm, .inr ht⟩
    rcases hrecord with ⟨m, hm, ht⟩ | rfl
    · exact hmembers m hm t ht
    · intro name hmem
      -- An enum inside the class is one of a member's types as well.
      rcases List.mem_append.1 hmem with hmem | hmem
      · rcases List.mem_cons.1 hmem with rfl | hmem
        · exact hname
        · exact hfields name hmem
      · obtain ⟨e, he, hmem⟩ := List.mem_flatMap.1 hmem
        obtain ⟨m, hm, he⟩ := List.mem_flatMap.1 he
        exact hmembers m hm e.toRecord (.inr ((kinds m hm).toRecord_mem_nested he)) name hmem

/-- The name of a field is an identifier to Java unless the key is an identifier with a line feed. -/
theorem Collects.isProperIdentifier_fieldName_iff (h : o.Collects ps names used members)
    (hm : m ∈ members) : Java.IsProperIdentifier m.fieldName ↔
      (Java.isIdentifier m.key = true → ('\n' : CodePoint) ∉ m.key) := by
  obtain ⟨candidate, taken, hcandidate, heq⟩ := h.exists_fieldName_eq m hm
  obtain ⟨hid, hchars⟩ := Java.isIdentifier_of_fieldName hcandidate
  rw [heq, Java.isProperIdentifier_uniqueName_iff hid]
  by_cases hkey : Java.isIdentifier m.key = true
  · rw [Java.fieldName, if_pos hkey, Except.ok.injEq] at hcandidate
    subst hcandidate
    simp [hkey]
  · have hfeed : ('\n' : CodePoint) ∉ candidate := by
      rcases hchars with rfl | hall
      · exact absurd hid hkey
      · exact Java.lineFeed_not_mem_of_constantChars hall
    simp [hkey, hfeed]

/-- What is visited from a member belongs to its key or is visited from its object. -/
theorem Collects.visits_cases (h : o.Collects ps names used members) (hm : m ∈ members)
    {key : Text} {s : Schema} (hv : Schema.Visits o.typeTable m.key m.schema key s) :
    key = m.key ∨ ∃ c, m.child.innermost = .object c ∧ c.Visits key s := by
  obtain ⟨-, ⟨names, names', hc⟩, -, -⟩ := h.of_mem hm
  obtain ⟨steps, t, hlead, hcl⟩ := classified_of_classifyAt hc
  rcases hv.of_leadsTo hlead with ⟨heq, -⟩ | hv
  · exact .inl heq
  · rcases hcl.visits_cases hv with ⟨heq, -⟩ | ⟨c, hinner, -, hv⟩
    · exact .inl heq
    · exact .inr ⟨c, hinner, hv⟩

/-- The object of a member has the affixes and settings of its owner, and what is visited from it is
visited from the owner. -/
theorem AvoidsLineFeeds.of_mem (h : o.AvoidsLineFeeds)
    (hmembers : o.Collects o.properties names used members) (hm : m ∈ members) {c : ObjectNode}
    (hinner : m.child.innermost = .object c) : c.AvoidsLineFeeds := by
  obtain ⟨hp, ⟨names, names', hc⟩, -, -⟩ := hmembers.of_mem hm
  obtain ⟨steps, t, hlead, hcl⟩ := classified_of_classifyAt hc
  rw [hinner] at hcl
  cases hcl with
  | object hshape _ hchild =>
    obtain ⟨package, -, rfl⟩ := childObject_eq_ok.1 hchild
    exact ⟨h.suffix.nested, fun key s hv => h.keys key s (visits_of_childIn hp hlead hshape hv)⟩

/-- The names of all types of a resolved object are identifiers to Java exactly if it avoids line
feeds. -/
theorem isProperIdentifier_declaredNames_iff (h : (Node.object o).resolve.outcome = .ok r) :
    (∀ name ∈ r.types.declaredNames, Java.IsProperIdentifier name) ↔ o.AvoidsLineFeeds := by
  refine resolved_induction
    (P := fun o r =>
      (∀ name ∈ r.types.declaredNames, Java.IsProperIdentifier name) ↔ o.AvoidsLineFeeds) ?_ h
  intro o className members hname hmembers ih
  obtain ⟨bare, hbare, hname⟩ := bind_eq_ok.1 hname
  obtain ⟨hid, rfl⟩ := Java.applyAffixes_eq_ok.1 hname
  have hclass := Java.isProperIdentifier_decorate_iff (Java.isBareName_of_typeName hbare) hid
  rw [forall_declaredNames_assembled fun m hm => hmembers.hasMember hm, hclass, fieldNames_classOf,
    List.forall_mem_append, List.forall_mem_map]
  constructor
  · rintro ⟨hsuffix, ⟨hfields, -⟩, htypes⟩
    refine ⟨hsuffix, ?_⟩
    rintro key s ⟨⟨k, t⟩, hp, hv⟩
    obtain ⟨m, hm, rfl, rfl⟩ := hmembers.exists_mem hp
    rcases hmembers.visits_cases hm hv with rfl | ⟨c, hinner, hv⟩
    · exact (hmembers.isProperIdentifier_fieldName_iff hm).1 (hfields m hm)
    · exact ((ih m hm c hinner).1 (htypes m hm)).keys key s hv
  · intro havoids
    refine ⟨havoids.suffix, ⟨fun m hm => ?_, ?_⟩, fun m hm => ?_⟩
    · obtain ⟨hp, -⟩ := hmembers.of_mem hm
      exact (hmembers.isProperIdentifier_fieldName_iff hm).2
        (havoids.keys m.key m.schema ⟨_, hp, .here _ _⟩)
    · rw [reservedFieldNames]
      split
      · exact List.forall_mem_singleton.2 ⟨by decide, by decide⟩
      · simp
    · obtain ⟨-, -, hcore, -⟩ := hmembers.of_mem hm
      cases hmembers.hasMember hm with
      | primitive _ _ core => simp [core, Generated.declaredNames]
      | enum inner =>
        rw [inner, Node.resolve] at hcore
        exact (EnumNode.isProperIdentifier_iff hcore).2 havoids.suffix.nested
      | object inner => exact (ih m hm _ inner).2 (havoids.of_mem hmembers hm inner)

end ObjectNode

/-! ## Names of a node -/

namespace Node

/-- Every name in the declarations of a resolved node is an identifier to Java exactly if no text that
names are taken from brings in a line feed. -/
theorem isProperIdentifier_of_resolve_iff {n : Node} {r : Resolved}
    (h : n.resolve.outcome = .ok r) :
    (∀ name ∈ r.types.declaredNames, Java.IsProperIdentifier name) ↔ n.AvoidsLineFeeds := by
  induction n generalizing r with
  | primitive javaType =>
    rw [Node.resolve_primitive_eq_ok] at h
    simp [h, Generated.declaredNames, AvoidsLineFeeds]
  | array element ih | map element ih =>
    rw [Node.resolve, Logged.outcome_bind, bind_eq_ok] at h
    obtain ⟨inner, hinner, h⟩ := h
    rw [Logged.outcome_pure, Except.ok.injEq] at h
    subst h
    exact ih (r := inner) hinner
  | enum e =>
    rw [Node.resolve] at h
    exact EnumNode.isProperIdentifier_iff h
  | object o => exact ObjectNode.isProperIdentifier_declaredNames_iff h
  | resource n =>
    rw [Node.resolve] at h
    exact ResourceNode.isProperIdentifier_iff h

/-- Keys that are keywords or start with digits, below a list, under an affix of symbols. -/
theorem isProperIdentifier_of_resolve_iff_symbols :
    let text : Schema := { type := some "string" }
    let port : Schema :=
      { type := some "object"
        properties := some [("class", text), ("1st", text), ("$ref", text), ("a\nb", text)] }
    let n : Node := .object
      { name := "spec"
        affixes := ⟨"$K8s", "_2"⟩
        preserveUnknownFields := true
        properties := [
          ("ports", { type := some "array", items := some port }),
          ("mode", { type := some "string", enum := some [.str "default", .str "*", .null] })] }
    ∃ r, n.resolve.outcome = .ok r ∧
      ((∀ name ∈ r.types.declaredNames, Java.IsProperIdentifier name) ↔ n.AvoidsLineFeeds) := by
  intro text port n
  obtain ⟨r, hr, -⟩ : ∃ r, n.resolve.outcome = .ok r ∧ true = true :=
    exists_eq_ok (f := fun _ => true) (by decide +kernel)
  exact ⟨r, hr, isProperIdentifier_of_resolve_iff hr⟩

/-- A keyword with a line feed after it passes as an identifier, and a field has it for its name. -/
theorem not_forall_isProperIdentifier :
    ¬∀ (n : Node) (r : Resolved), n.resolve.outcome = .ok r →
      ∀ name ∈ r.types.declaredNames, Java.IsProperIdentifier name := by
  intro h
  let n : Node :=
    .object { name := "spec", properties := [("class\n", { type := some "string" })] }
  obtain ⟨r, hr, hname⟩ : ∃ r, n.resolve.outcome = .ok r ∧
      r.types.declaredNames.contains "class\n" = true := exists_eq_ok (by decide +kernel)
  have hproper := h n r hr "class\n" (by simpa using hname)
  exact absurd hproper.form (by decide)

end Node

end KubeJava
