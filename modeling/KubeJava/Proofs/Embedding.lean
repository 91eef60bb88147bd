import KubeJava.Proofs.Constants
import KubeJava.Proofs.SourceLines
import Mathlib.Data.List.Perm.Basic

set_option autoImplicit false

/-! # Embedded enums

An enum is embedded by the class of the object whose property it belongs to and by no class above:
only the innermost node of a property decides what its owner embeds, while the nested types of all
properties go up to the root. -/

namespace KubeJava

open Java (Affixes EnumDeclaration ClassDeclaration enumLines indentLines sourceLines)
open Text (OneLine)

/-- The enums that a declaration embeds. -/
def Java.Declaration.enums : Java.Declaration → List EnumDeclaration
  | .ofClass c => c.enums
  | _ => []

/-! ## The lines of generated enums -/

theorem oneLine_of_mem_enumConstants {settings : Settings} {used literals : List Text}
    {constants : List Java.EnumConstant}
    (h : enumConstants settings used literals = .ok constants) :
    ∀ c ∈ constants, OneLine c.identifier := fun c hc =>
  Java.not_mem_of_hasIdentifierForm (isProperIdentifier_of_enumConstants h c hc).form (by decide)

/-- Affixes without line feeds leave bare names on one line. -/
theorem oneLine_decorate {a : Affixes} {s : Settings} {topLevel : Bool} {bare : Text}
    (hbefore : OneLine a.before) (hafter : OneLine a.after)
    (hbare : Java.isBareName bare = true) : OneLine (Java.decorate a s topLevel bare) := by
  intro hmem
  rcases Java.mem_decorate hmem with hmem | hmem | hmem
  · exact hbefore hmem
  · exact absurd ((Java.isBareName_iff.1 hbare).2 _ hmem) (by decide)
  · exact hafter hmem

/-! ## Who embeds what -/

/-- The enum lives in the package, and with affixes on one line its lines are lines. -/
structure Java.EnumDeclaration.EmbeddableIn (package : Option Text) (a : Affixes)
    (e : EnumDeclaration) : Prop where
  package_eq : e.package = package
  oneLine : OneLine a.before → OneLine a.after → ∀ l ∈ enumLines e, OneLine l

namespace Generated

/-- The types hold nothing but enums and classes that embed some of their own package. -/
structure WellEmbedded (a : Affixes) (types : Generated) : Prop where
  nested : ∀ n ∈ types.nested, ∃ e : EnumDeclaration, n = e.toRecord
  topLevel : ∀ t ∈ types.topLevel, ∃ c : ClassDeclaration, t = c.toRecord ∧
    ∀ e ∈ c.enums, e.EmbeddableIn c.package a

/-- The nested types are the enums that the top-level types embed, and those that are left over. -/
def EmbedsAllBut (types : Generated) (rest : List EnumDeclaration) : Prop :=
  (types.nested.map (·.declaration)).Perm
    ((types.topLevel.flatMap (·.declaration.enums) ++ rest).map .ofEnum)

/-- What several types leave over together. -/
theorem EmbedsAllBut.flatMap {α : Type} {as : List α} {types : α → Generated}
    {rest : α → List EnumDeclaration} (h : ∀ a ∈ as, (types a).EmbedsAllBut (rest a)) :
    EmbedsAllBut ⟨as.flatMap fun a => (types a).topLevel, as.flatMap fun a => (types a).nested⟩
      (as.flatMap rest) := by
  have hperm := List.flatMap_append_perm as
    (fun a => (types a).topLevel.flatMap (·.declaration.enums)) rest
  -- First each item on its own, then all embedded enums before all that are left over.
  rw [EmbedsAllBut, List.map_flatMap, List.flatMap_assoc]
  refine (List.Perm.flatMap_left _ h).trans ?_
  rw [← List.map_flatMap]
  exact (hperm.map _).symm

end Generated

namespace ObjectNode

variable {o : ObjectNode} {className : Text} {members : List Member} {m : Member} {r : Resolved}

/-- The types of a member with the enums that it leaves to the class of its owner. -/
theorem HasMember.embedsAllBut (kind : o.HasMember m)
    (ih : ∀ c, m.child.innermost = .object c → m.core.types.EmbedsAllBut []) :
    m.core.types.EmbedsAllBut m.enums := by
  cases kind with
  | primitive _ _ core enums =>
    rw [core, enums]
    exact .nil
  | enum _ _ _ _ core enums =>
    rw [core, enums]
    exact .refl _
  | object inner _ _ _ enums =>
    rw [enums]
    exact ih _ inner

/-- The enum of a property is one for the class of its owner to embed. -/
theorem embeddableIn_childEnum {bare : Text} {literals : List Text} {t : Schema}
    {constants : List Java.EnumConstant} (hbare : Java.isBareName bare = true)
    (hconstants : enumConstants o.settings [Java.enumValueField] literals = .ok constants) :
    ((o.childEnum bare literals t).declaration (o.decorated bare) constants).EmbeddableIn
      o.package o.affixes :=
  ⟨rfl, fun hbefore hafter => Java.oneLine_of_mem_enumLines (oneLine_decorate hbefore hafter hbare)
    (oneLine_of_mem_enumConstants hconstants)⟩

theorem HasMember.embeddableIn (kind : o.HasMember m) :
    ∀ e ∈ m.enums, e.EmbeddableIn o.package o.affixes := by
  cases kind with
  | primitive _ _ _ enums => simp [enums]
  | enum _ hbare hconstants declaration _ enums =>
    rw [enums, List.forall_mem_singleton, declaration]
    exact embeddableIn_childEnum hbare hconstants
  | object _ _ _ _ enums => simp [enums]

theorem HasMember.wellEmbedded (kind : o.HasMember m)
    (ih : ∀ c, m.child.innermost = .object c → m.core.types.WellEmbedded c.affixes) :
    m.core.types.WellEmbedded o.affixes := by
  cases kind with
  | primitive _ _ core => rw [core]; exact ⟨by simp, by simp⟩
  | enum _ _ _ _ core => rw [core]; exact ⟨by simp, by simp⟩
  | object inner =>
    have hchild := ih _ inner
    exact hchild

theorem embedsAllBut_assembled (h : ∀ m ∈ members, m.core.types.EmbedsAllBut m.enums) :
    (o.assembled className members).types.EmbedsAllBut [] := by
  have hall := Generated.EmbedsAllBut.flatMap h
  rw [Generated.EmbedsAllBut] at hall ⊢
  rw [assembled, List.flatMap_append, List.append_nil, List.flatMap_singleton]
  exact hall

theorem wellEmbedded_assembled (kinds : ∀ m ∈ members, o.HasMember m)
    (ih : ∀ m ∈ members, m.core.types.WellEmbedded o.affixes) :
    (o.assembled className members).types.WellEmbedded o.affixes := by
  constructor
  · intro n hn
    obtain ⟨m, hm, hn⟩ := List.mem_flatMap.1 hn
    exact (ih m hm).nested n hn
  · refine List.forall_mem_append.2 ⟨fun t ht => ?_, List.forall_mem_singleton.2 ⟨_, rfl, ?_⟩⟩
    · obtain ⟨m, hm, ht⟩ := List.mem_flatMap.1 ht
      exact (ih m hm).topLevel t ht
    · intro e he
      obtain ⟨m, hm, he⟩ := List.mem_flatMap.1 he
      exact (kinds m hm).embeddableIn e he

theorem embeds_of_resolve (h : (Node.object o).resolve.outcome = .ok r) :
    r.types.EmbedsAllBut [] ∧ r.types.WellEmbedded o.affixes := by
  refine resolved_induction
    (P := fun o r => r.types.EmbedsAllBut [] ∧ r.types.WellEmbedded o.affixes) ?_ h
  intro o className members _ hmembers ih
  have kinds : ∀ m ∈ members, o.HasMember m := fun m hm => hmembers.hasMember hm
  refine ⟨embedsAllBut_assembled fun m hm => ?_, wellEmbedded_assembled kinds fun m hm => ?_⟩
  · exact (kinds m hm).embedsAllBut fun c hinner => (ih m hm c hinner).1
  · exact (kinds m hm).wellEmbedded fun c hinner => (ih m hm c hinner).2

end ObjectNode

end KubeJava
