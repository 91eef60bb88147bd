import KubeJava.Proofs.Versions

set_option autoImplicit false

/-! # References of nodes

A node tells which Java type it stands for, and tells it again when it is resolved. Both answers are
one: a node without a reference fails to resolve for the reason that it has none, and one that
resolves gives the reference that it had. Lists and maps only go around the reference of the node
inside them and leave its types alone. That innermost node ends its types with the one that it
refers to. -/

namespace KubeJava

/-! ## References -/

theorem ObjectNode.typeReference_of_className {o : ObjectNode} {className : Text}
    (h : o.className = .ok className) :
    o.typeReference = .ok (Java.qualify o.package className) := by
  rw [typeReference, h]
  rfl

theorem ResourceNode.typeReference_eq_error {r : ResourceNode} {err : GenerationError} :
    r.typeReference = .error err ↔ Java.ensureIdentifier r.kind r.kind = .error err := by
  rw [typeReference]
  cases Java.ensureIdentifier r.kind r.kind with
  | error e => exact Iff.rfl
  | ok name => constructor <;> intro h <;> cases h

theorem ResourceNode.typeReference_of_isIdentifier {r : ResourceNode}
    (h : Java.isIdentifier r.kind = true) :
    r.typeReference = .ok (Java.qualify r.package r.kind) := by
  rw [typeReference, Java.ensureIdentifier, if_pos h]
  rfl

namespace Node

variable {n : Node} {r core : Resolved} {err : GenerationError}

/-- A node refers to the type of its innermost node, with its lists and maps around it. -/
theorem typeReference_eq (n : Node) :
    n.typeReference = n.innermost.typeReference.map n.wrap := by
  -- Nodes that are neither lists nor maps are their own innermost nodes.
  have keep : ∀ x : Except GenerationError Text, x = x.map fun t => t := by
    intro x
    cases x <;> rfl
  induction n with
  | array element ih =>
    rw [typeReference, ih, innermost]
    cases element.innermost.typeReference <;> rfl
  | map value ih =>
    rw [typeReference, ih, innermost]
    cases value.innermost.typeReference <;> rfl
  | _ => exact keep _

/-- A node that has no reference fails to resolve for the reason that it has none. -/
theorem resolve_eq_error_of_typeReference (h : n.typeReference = .error err) :
    n.resolve.outcome = .error err := by
  -- Every innermost node asks for its reference or for its name before anything else.
  induction n with
  | primitive typeName => cases h
  | array element ih =>
    rcases bind_eq_error.1 h with helement | ⟨_, -, hok⟩
    · rw [resolve, Logged.outcome_bind, ih helement]
      rfl
    · cases hok
  | map value ih =>
    rcases bind_eq_error.1 h with hvalue | ⟨_, -, hok⟩
    · rw [resolve, Logged.outcome_bind, ih hvalue]
      rfl
    · cases hok
  | enum e =>
    have hname : e.typeReference = .error err := h
    rw [resolve, EnumNode.outcome_resolve, hname]
    rfl
  | object o =>
    have hname : o.typeReference = .error err := h
    rw [resolve, Logged.outcome_bind, outcome_liftM, hname]
    rfl
  | resource r =>
    rw [resolve, outcome_liftM, ResourceNode.resolve, ResourceNode.typeReference_eq_error.1 h]
    rfl

/-! ## Own types -/

/-- The types of a node that is neither a list nor a map, where the last is the node's own: an object
refers to it by its qualified name and puts all types below it first, the resource has no other type,
and an enum refers to its only type, a nested one, by the name alone. A Java type given by name comes
with no types. -/
inductive EndsWithOwnType : Node → Generated → Prop where
  | primitive (typeName : Text) : EndsWithOwnType (.primitive typeName) {}
  | enum {e : EnumNode} {own : TypeRecord} : e.typeReference = .ok own.name →
      EndsWithOwnType (.enum e) ⟨[], [own]⟩
  | object {o : ObjectNode} {below nested : List TypeRecord} {own : TypeRecord} :
      o.typeReference = .ok own.qualifiedName →
      EndsWithOwnType (.object o) ⟨below ++ [own], nested⟩
  | resource {r : ResourceNode} {own : TypeRecord} : r.typeReference = .ok own.qualifiedName →
      EndsWithOwnType (.resource r) ⟨[own], []⟩

/-- What an innermost node resolves to has its reference and ends with its own type. -/
theorem endsWithOwnType_of_resolve (h : n.innermost.resolve.outcome = .ok core) :
    n.innermost.typeReference = .ok core.reference ∧ n.innermost.EndsWithOwnType core.types := by
  induction n with
  | array element ih => exact ih h
  | map value ih => exact ih h
  | primitive typeName =>
    obtain rfl := resolve_primitive_eq_ok.1 h
    exact ⟨rfl, .primitive typeName⟩
  | enum e =>
    have hresolve : e.resolve.outcome = .ok core := by
      rwa [show (enum e).innermost = enum e from rfl, resolve] at h
    obtain ⟨name, constants, hname, -, rfl⟩ := EnumNode.resolve_eq_ok.1 hresolve
    exact ⟨hname, .enum hname⟩
  | object o =>
    obtain ⟨className, members, hname, -, rfl⟩ := ObjectNode.resolve_eq_ok.1 h
    have href := ObjectNode.typeReference_of_className hname
    exact ⟨href, .object href⟩
  | resource r =>
    have hresolve : r.resolve = .ok core := by
      rwa [show (resource r).innermost = resource r from rfl, resolve, outcome_liftM] at h
    obtain ⟨hkind, rfl⟩ := ResourceNode.resolve_eq_ok.1 hresolve
    have href := ResourceNode.typeReference_of_isIdentifier hkind
    exact ⟨href, .resource href⟩

/-- Whatever lists and maps there are around an innermost node, the reference of the whole and what it
resolves to agree: without a reference it fails to resolve for the same reason, and if it resolves, it
does so to its reference and to the types of the innermost node, which end with the type that one
refers to. -/
theorem resolve_agrees_typeReference (n : Node) :
    (∀ err, n.typeReference = .error err → n.resolve.outcome = .error err) ∧
      ∀ r, n.resolve.outcome = .ok r → n.typeReference = .ok r.reference ∧
        ∃ core, n.innermost.resolve.outcome = .ok core ∧ r.types = core.types ∧
          n.innermost.typeReference = .ok core.reference ∧
          n.innermost.EndsWithOwnType core.types := by
  constructor
  · intro err h
    exact resolve_eq_error_of_typeReference h
  · intro r h
    obtain ⟨core, hcore, rfl⟩ := resolve_eq_ok.1 h
    obtain ⟨href, hown⟩ := endsWithOwnType_of_resolve hcore
    refine ⟨?_, core, hcore, rfl, href, hown⟩
    rw [typeReference_eq, href]
    rfl

/-- A list of maps of objects that hold an enum, and a map of resources whose kind is a keyword. -/
theorem resolve_agrees_typeReference_layers :
    let mode : Schema := { type := some "string", enum := some [.str "A", .null] }
    let o : ObjectNode :=
      { name := "my-rule"
        package := some ("com.example" : Text)
        properties := [("mode", mode), ("target", { type := some "object" })] }
    let wrapper : ResourceNode :=
      { package := none, kind := "class", group := "test.org", version := "v1", specType := []
        statusType := [], flags := ⟨true, false, true, true⟩ }
    let n : Node := .array (.map (.object o))
    let failing : Node := .map (.resource wrapper)
    (∃ err, failing.typeReference = .error err ∧ failing.resolve.outcome = .error err) ∧
      ∃ r, n.resolve.outcome = .ok r ∧
        r.reference =
          "java.util.List<java.util.Map<java.lang.String, com.example.MyRule>>" ∧
        r.types.topLevel.map TypeRecord.qualifiedName =
          [("com.example.myrule.Target" : Text), ("com.example.MyRule" : Text)] ∧
        n.typeReference = .ok r.reference ∧
        ∃ core, n.innermost.resolve.outcome = .ok core ∧ r.types = core.types ∧
          n.innermost.typeReference = .ok core.reference ∧
          n.innermost.EndsWithOwnType core.types := by
  intro mode o wrapper n failing
  obtain ⟨r, hr, hparts⟩ : ∃ r, n.resolve.outcome = .ok r ∧
      (r.reference, r.types.topLevel.map TypeRecord.qualifiedName) =
        (("java.util.List<java.util.Map<java.lang.String, com.example.MyRule>>" : Text),
          [("com.example.myrule.Target" : Text), ("com.example.MyRule" : Text)]) :=
    exists_eq_ok (by decide +kernel)
  obtain ⟨href, hnames⟩ := Prod.mk.inj hparts
  have hfailing : failing.typeReference = .error (.invalidIdentifier "class" "class") := rfl
  exact ⟨⟨_, hfailing, (resolve_agrees_typeReference failing).1 _ hfailing⟩, r, hr, href, hnames,
    (resolve_agrees_typeReference n).2 r hr⟩

end Node

end KubeJava
