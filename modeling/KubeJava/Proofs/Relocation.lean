import KubeJava.Proofs.Changes
import KubeJava.Proofs.Packages

set_option autoImplicit false

/-! # Objects inside a package

An object resolves inside a package as it does without one: with the same error, or with the same
types in the same order, the package put in front of their names and of all references to classes.
The package goes through the reference to the object, the package of its children, the package of
its enums and that of its class, and none of the names reserved on the way depends on it. -/

namespace KubeJava

open Java (TypeTable)

/-! ## Packages inside a package -/

/-- A package inside the package `p`; in the place of no package that is `p` itself. -/
def packageIn (p : Text) : Option Text → Option Text
  | none => some p
  | some package => some (if package = [] then p else p ++ ('.' : CodePoint) :: package)

/-- A name in a package inside `p` is the name in the package with `p` in front. -/
@[simp] theorem qualify_packageIn {p : Text} (hp : p ≠ []) (package : Option Text) (name : Text) :
    Java.qualify (packageIn p package) name =
      p ++ ('.' : CodePoint) :: Java.qualify package name := by
  rcases package with _ | _ | ⟨c, rest⟩ <;> simp [packageIn, hp]

@[simp] theorem packageIn_qualify {p name : Text} (hname : name ≠ []) (package : Option Text) :
    packageIn p (some (Java.qualify package name)) =
      some (p ++ ('.' : CodePoint) :: Java.qualify package name) := by
  simp [packageIn, hname]

/-- The move of everything into the package `p`. -/
def relocation (p : Text) : NodeChange :=
  { package := packageIn p
    qualified := fun name => p ++ ('.' : CodePoint) :: name }

@[simp] theorem properties_relocation (p : Text) (ps : Properties) :
    (relocation p).properties ps = ps := by
  simp [NodeChange.properties, relocation]

theorem unseen_relocation {p : Text} (hp : p ≠ []) : (relocation p).Unseen where
  shape table s := by
    have hid : ∀ t : Shape, t.withSchemas id = t := fun t => by cases t <;> rfl
    exact (hid _).symm
  schemaProperties s := by
    rw [funext (properties_relocation p), Option.map_id']
    rfl
  required _ := rfl
  preserveUnknownFields _ := rfl
  description _ := rfl
  enumUppercase _ := rfl
  prefixPolicy _ := rfl
  suffixPolicy _ := rfl
  package package name hname := packageIn_qualify hname package
  qualified := qualify_packageIn hp

/-! ## Types inside a package -/

/-- The second record is the first one inside the package `p`. -/
structure TypeRecord.Inside (p : Text) (table : TypeTable) (types : List TypeRecord)
    (r r' : TypeRecord) : Prop where
  name : r'.name = r.name
  qualifiedName : r'.qualifiedName = p ++ ('.' : CodePoint) :: r.qualifiedName
  moves : r.Moves (relocation p) table types r'

/-- The second types are the first ones inside the package `p`, in the same order. -/
structure Generated.Inside (p : Text) (table : TypeTable) (g g' : Generated) : Prop where
  topLevel : List.Forall₂ (TypeRecord.Inside p table g.topLevel) g.topLevel g'.topLevel
  nested : List.Forall₂ (TypeRecord.Inside p table g.topLevel) g.nested g'.nested

theorem TypeRecord.Moves.inside {p : Text} (hp : p ≠ []) {table : TypeTable}
    {types : List TypeRecord} {r r' : TypeRecord} (h : r.Moves (relocation p) table types r') :
    r.Inside p table types r' := by
  have hmoves := h
  cases h with
  | enum e => exact ⟨rfl, qualify_packageIn hp e.package e.name, hmoves⟩
  | @ofClass k k' hk =>
    refine ⟨hk.name, ?_, hmoves⟩
    change Java.qualify k'.package k'.name = _
    rw [hk.package, hk.name]
    exact qualify_packageIn hp k.package k.name

namespace ObjectNode

/-- Without a package and in the package `p` an object fails with the same error, or it gives the
same types with `p` in front of their names. -/
theorem resolve_inside (o : ObjectNode) {p : Text} (hp : p ≠ []) :
    SameOutcome
      (fun r r' => r'.reference = p ++ ('.' : CodePoint) :: r.reference ∧
        r.types.Inside p o.typeTable r'.types)
      (Node.object { o with package := none }).resolve.outcome
      (Node.object { o with package := some p }).resolve.outcome := by
  have hobject : (relocation p).object { o with package := none } =
      { o with package := some p } := by
    rw [NodeChange.object, properties_relocation]
    rfl
  have hc := unseen_relocation hp
  rw [← hobject]
  refine (hc.resolve { o with package := none }).mono fun r r' hr hr' h => ⟨?_, ?_, ?_⟩
  · obtain ⟨className, members, hname, -, rfl⟩ := resolve_eq_ok.1 hr
    obtain ⟨className', members', hname', -, rfl⟩ := resolve_eq_ok.1 hr'
    rw [hc.className, hname, Except.ok.injEq] at hname'
    subst hname'
    exact qualify_packageIn hp none className
  · exact h.types.topLevel.imp fun _ _ => TypeRecord.Moves.inside hp
  · exact h.types.nested.imp fun _ _ => TypeRecord.Moves.inside hp

/-- Objects in a list and in a map, and an enum, inside a package of two segments. -/
theorem resolve_inside_containers :
    let mode : Schema := { type := some "string", enum := some [.str "on", .str "off"] }
    let entry : Schema := { type := some "object", properties := some [("mode", mode)] }
    let list : Schema := { type := some "array", items := some entry }
    let map : Schema := { type := some "object", additionalProperties := some (.inr list) }
    let o : ObjectNode := { name := "root", properties := [("entries", list), ("by-name", map)] }
    let p : Text := "a.b"
    p ≠ [] ∧ ∃ r r', (Node.object { o with package := none }).resolve.outcome = .ok r ∧
      (Node.object { o with package := some p }).resolve.outcome = .ok r' ∧
      (r.types.topLevel ++ r.types.nested).map TypeRecord.qualifiedName =
        [("root.Entries" : Text), ("root.ByName" : Text), ("Root" : Text), ("root.Mode" : Text),
          ("root.Mode" : Text)] ∧
      r'.reference = ("a.b.Root" : Text) ∧ r.types.Inside p o.typeTable r'.types := by
  intro mode entry list map o p
  have hp : p ≠ [] := by decide
  obtain ⟨r, hr, hshown⟩ :
      ∃ r, (Node.object { o with package := none }).resolve.outcome = .ok r ∧
        (r.reference, (r.types.topLevel ++ r.types.nested).map TypeRecord.qualifiedName) =
          (("Root" : Text), [("root.Entries" : Text), ("root.ByName" : Text), ("Root" : Text),
            ("root.Mode" : Text), ("root.Mode" : Text)]) :=
    exists_eq_ok (by decide +kernel)
  obtain ⟨hreference, hnames⟩ := Prod.mk.inj hshown
  obtain ⟨r', hr', hreference', htypes⟩ := (resolve_inside o hp).exists_of_ok hr
  refine ⟨hp, r, r', hr, hr', hnames, ?_, htypes⟩
  rw [hreference', hreference]
  decide

end ObjectNode

end KubeJava
