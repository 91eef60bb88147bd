import KubeJava.Proofs.Changes
import KubeJava.Proofs.Success

set_option autoImplicit false

/-! # Paths of unsupported schemas

The schemas of an object stand in one order: each before those inside it, and all inside one
property before the next property. If an object is refused for a schema, the path in the report is
the object's own path with the steps to that schema after it, the schema is unsupported for the
reason told, and none before it is unsupported. Two recursions build the path, one through items and
values and one through child objects, which are given the path that was reached so far. -/

namespace KubeJava

open Java (TypeTable)

/-! ## The order of the visit -/

theorem Schema.weight_properties_lt (s : Schema) :
    Properties.weight (s.properties.getD []) < s.weight := by
  rw [s.weight_eq]
  cases s.properties <;>
    simp only [propertiesWeight, Properties.weight, Option.getD_none, Option.getD_some] <;> omega

mutual

/-- The schemas visited from a schema, itself first, each with the steps that lead to it. -/
def Schema.visited (table : TypeTable) (s : Schema) : List (List Text × Schema) :=
  ([], s) ::
    match _h : s.shape table with
    | .array items => (items.visited table).map (Prod.map (ObjectNode.itemsStep :: ·) id)
    | .map value => (value.visited table).map (Prod.map (ObjectNode.valuesStep :: ·) id)
    | .object => Properties.visited table (s.properties.getD [])
    | _ => []
termination_by s.weight
decreasing_by
  · exact Schema.weight_of_shape_array _h
  · exact Schema.weight_of_shape_map _h
  · exact s.weight_properties_lt

/-- The schemas visited from properties, one property after the other; the step to a property is its
key. -/
def Properties.visited (table : TypeTable) (ps : Properties) : List (List Text × Schema) :=
  match ps with
  | [] => []
  | (key, s) :: rest =>
    (s.visited table).map (Prod.map (key :: ·) id) ++ Properties.visited table rest
termination_by Properties.weight ps
decreasing_by
  all_goals
    simp only [Properties.weight, propertyWeight]
    omega

end

def ObjectNode.visited (o : ObjectNode) : List (List Text × Schema) :=
  Properties.visited o.typeTable o.properties

theorem Schema.visited_eq (table : TypeTable) (s : Schema) : s.visited table = ([], s) ::
    match s.shape table with
    | .array items => (items.visited table).map (Prod.map (ObjectNode.itemsStep :: ·) id)
    | .map value => (value.visited table).map (Prod.map (ObjectNode.valuesStep :: ·) id)
    | .object => Properties.visited table (s.properties.getD [])
    | _ => [] := by
  rw [Schema.visited]
  split <;> simp_all

mutual

/-- What the order lists is what the dispatch visits. -/
theorem Schema.visits_of_mem_visited {table : TypeTable} {s : Schema} {p : List Text × Schema}
    (key : Text) (h : p ∈ s.visited table) : ∃ k, Schema.Visits table key s k p.2 := by
  rw [Schema.visited] at h
  rcases List.mem_cons.1 h with rfl | h
  · exact ⟨key, .here key s⟩
  split at h
  · next items hs =>
    obtain ⟨q, hq, rfl⟩ := List.mem_map.1 h
    obtain ⟨k, hk⟩ := Schema.visits_of_mem_visited key hq
    exact ⟨k, .items hs hk⟩
  · next value hs =>
    obtain ⟨q, hq, rfl⟩ := List.mem_map.1 h
    obtain ⟨k, hk⟩ := Schema.visits_of_mem_visited key hq
    exact ⟨k, .value hs hk⟩
  · next hs =>
    obtain ⟨e, he, k, hk⟩ := Properties.visits_of_mem_visited h
    exact ⟨k, .property hs he hk⟩
  · cases h
termination_by s.weight
decreasing_by
  · exact Schema.weight_of_shape_array ‹_›
  · exact Schema.weight_of_shape_map ‹_›
  · exact s.weight_properties_lt

theorem Properties.visits_of_mem_visited {table : TypeTable} {ps : Properties}
    {p : List Text × Schema} (h : p ∈ Properties.visited table ps) :
    ∃ e ∈ ps, ∃ k, Schema.Visits table e.1 e.2 k p.2 := by
  match ps with
  | [] =>
    rw [Properties.visited] at h
    cases h
  | (key, s) :: rest =>
    rw [Properties.visited] at h
    rcases List.mem_append.1 h with h | h
    · obtain ⟨q, hq, rfl⟩ := List.mem_map.1 h
      obtain ⟨k, hk⟩ := Schema.visits_of_mem_visited key hq
      exact ⟨(key, s), List.mem_cons_self, k, hk⟩
    · obtain ⟨e, he, hk⟩ := Properties.visits_of_mem_visited h
      exact ⟨e, List.mem_cons_of_mem _ he, hk⟩
termination_by Properties.weight ps
decreasing_by
  all_goals
    simp only [Properties.weight, propertyWeight]
    omega

end

/-! ## The first unsupported schema -/

/-- Of the listed schemas the one that these steps lead to is unsupported, for this reason and no
other, and none before it is unsupported. -/
def FirstUnsupported (table : TypeTable) (listed : List (List Text × Schema)) (steps : List Text)
    (reason : UnsupportedReason) : Prop :=
  ∃ before t after, listed = before ++ (steps, t) :: after ∧
    (∀ reason', t.UnsupportedFor table reason' ↔ reason' = reason) ∧
    ∀ p ∈ before, ¬p.2.Unsupported table

namespace FirstUnsupported

variable {table : TypeTable} {listed : List (List Text × Schema)} {steps : List Text}
  {reason : UnsupportedReason}

theorem head {s : Schema} (h : s.UnsupportedFor table reason)
    (rest : List (List Text × Schema)) :
    FirstUnsupported table (([], s) :: rest) [] reason :=
  ⟨[], s, rest, rfl, fun _ => ⟨h.unique, fun heq => heq ▸ h⟩, by simp⟩

theorem append_right (h : FirstUnsupported table listed steps reason)
    (rest : List (List Text × Schema)) :
    FirstUnsupported table (listed ++ rest) steps reason := by
  obtain ⟨before, t, after, rfl, hreason, hbefore⟩ := h
  exact ⟨before, t, after ++ rest, by simp, hreason, hbefore⟩

theorem append_left (h : FirstUnsupported table listed steps reason)
    (front : List (List Text × Schema)) (hfront : ∀ p ∈ front, ¬p.2.Unsupported table) :
    FirstUnsupported table (front ++ listed) steps reason := by
  obtain ⟨before, t, after, rfl, hreason, hbefore⟩ := h
  exact ⟨front ++ before, t, after, by simp, hreason, List.forall_mem_append.2 ⟨hfront, hbefore⟩⟩

theorem cons (h : FirstUnsupported table listed steps reason) {p : List Text × Schema}
    (hp : ¬p.2.Unsupported table) : FirstUnsupported table (p :: listed) steps reason :=
  h.append_left [p] (by simpa using hp)

/-- One more step in front of all. -/
theorem under (h : FirstUnsupported table listed steps reason) (step : Text) :
    FirstUnsupported table (listed.map (Prod.map (step :: ·) id)) (step :: steps) reason := by
  obtain ⟨before, t, after, rfl, hreason, hbefore⟩ := h
  refine ⟨before.map (Prod.map (step :: ·) id), t, after.map (Prod.map (step :: ·) id), by simp,
    hreason, ?_⟩
  intro p hp
  obtain ⟨q, hq, rfl⟩ := List.mem_map.1 hp
  exact hbefore q hq

end FirstUnsupported

namespace Schema

variable {table : TypeTable} {s t : Schema} {steps : List Text} {reason : UnsupportedReason}

theorem not_unsupported_of_shape (hreason : ∀ reason, s.shape table ≠ .unsupported reason)
    (henum : ∀ values, s.shape table ≠ .enum values) : ¬s.Unsupported table := by
  rw [Schema.unsupported_iff]
  rintro (⟨reason, hs⟩ | ⟨values, hs, -⟩)
  · exact hreason reason hs
  · exact henum values hs

theorem firstUnsupported_items {items : Schema} (hs : s.shape table = .array items)
    (h : FirstUnsupported table (items.visited table) steps reason) :
    FirstUnsupported table (s.visited table) (ObjectNode.itemsStep :: steps) reason := by
  rw [s.visited_eq, hs]
  exact (h.under _).cons (not_unsupported_of_shape (by simp [hs]) (by simp [hs]))

theorem firstUnsupported_value {value : Schema} (hs : s.shape table = .map value)
    (h : FirstUnsupported table (value.visited table) steps reason) :
    FirstUnsupported table (s.visited table) (ObjectNode.valuesStep :: steps) reason := by
  rw [s.visited_eq, hs]
  exact (h.under _).cons (not_unsupported_of_shape (by simp [hs]) (by simp [hs]))

theorem firstUnsupported_properties (hs : s.shape table = .object)
    (h : FirstUnsupported table (Properties.visited table (s.properties.getD [])) steps reason) :
    FirstUnsupported table (s.visited table) steps reason := by
  rw [s.visited_eq, hs]
  exact h.cons (not_unsupported_of_shape (by simp [hs]) (by simp [hs]))

theorem firstUnsupported_here (h : s.UnsupportedFor table reason) :
    FirstUnsupported table (s.visited table) [] reason := by
  rw [s.visited_eq]
  exact .head h _

/-- The first one inside the schema where the dispatch ends is the first one of the whole. -/
theorem LeadsTo.firstUnsupported {steps' : List Text} (h : s.LeadsTo table steps t)
    (ht : FirstUnsupported table (t.visited table) steps' reason) :
    FirstUnsupported table (s.visited table) (steps ++ steps') reason := by
  induction h with
  | here => exact ht
  | items hs _ ih => exact firstUnsupported_items hs (ih ht)
  | value hs _ ih => exact firstUnsupported_value hs (ih ht)

end Schema

/-! ## Failures of names -/

/-- All that can fail in the computation is a name. -/
def FailsForNames {α : Type} (x : Except GenerationError α) : Prop :=
  ∀ e, x = .error e → ∃ name source, e = .invalidIdentifier name source

namespace FailsForNames

variable {α β : Type} {x : Except GenerationError α}

theorem ok (a : α) : FailsForNames (.ok a) := fun _ h => by cases h

theorem invalidIdentifier (name source : Text) :
    FailsForNames (.error (.invalidIdentifier name source) : Except GenerationError α) :=
  fun _ h => ⟨name, source, (Except.error.inj h).symm⟩

theorem bind {f : α → Except GenerationError β} (hx : FailsForNames x)
    (hf : ∀ a, FailsForNames (f a)) : FailsForNames (x >>= f) := by
  intro e h
  rcases bind_eq_error.1 h with h | ⟨a, -, h⟩
  · exact hx e h
  · exact hf a e h

theorem ne_unsupportedSchema (hx : FailsForNames x) (q : List Text) (reason : UnsupportedReason) :
    x ≠ .error (.unsupportedSchema q reason) := by
  intro h
  obtain ⟨name, source, he⟩ := hx _ h
  cases he

end FailsForNames

theorem Java.failsForNames_ensureIdentifier (name source : Text) :
    FailsForNames (Java.ensureIdentifier name source) := by
  unfold ensureIdentifier
  split
  · exact .ok _
  · exact .invalidIdentifier _ _

theorem Java.failsForNames_fieldName (key : Text) : FailsForNames (Java.fieldName key) := by
  unfold fieldName
  split
  · exact .ok _
  · split
    · exact .invalidIdentifier _ _
    · exact Java.failsForNames_ensureIdentifier _ _

theorem Java.failsForNames_enumConstant (literal : Text) (uppercase : Bool) :
    FailsForNames (Java.enumConstant literal uppercase) := by
  unfold enumConstant
  generalize (if uppercase then literal.upper else literal) = cased
  dsimp only
  split
  · exact .invalidIdentifier _ _
  · exact Java.failsForNames_ensureIdentifier _ _

theorem failsForNames_enumConstants (settings : Settings) (used values : List Text) :
    FailsForNames (enumConstants settings used values) := by
  induction values generalizing used with
  | nil => exact .ok _
  | cons value rest ih =>
    rw [enumConstants]
    exact (Java.failsForNames_enumConstant _ _).bind fun _ => (ih _).bind fun _ => .ok _

theorem EnumNode.failsForNames_resolve (e : EnumNode) : FailsForNames e.resolve.outcome := by
  rw [e.outcome_resolve]
  refine .bind ?_ fun name => (failsForNames_enumConstants _ _ _).bind fun _ => .ok _
  exact (Java.failsForNames_ensureIdentifier _ _).bind fun _ =>
    Java.failsForNames_ensureIdentifier _ _

namespace ObjectNode

variable {o : ObjectNode} {key : Text} {s : Schema} {path q : List Text} {names : SiblingNames}
  {ps : Properties} {reason : UnsupportedReason}

theorem failsForNames_className (o : ObjectNode) : FailsForNames o.className :=
  (Java.failsForNames_ensureIdentifier _ _).bind fun _ => Java.failsForNames_ensureIdentifier _ _

theorem failsForNames_childObject (o : ObjectNode) (name : Text) (s : Schema) (path : List Text) :
    FailsForNames (o.childObject name s path) := by
  refine .bind ?_ fun _ => .ok _
  exact (Java.failsForNames_ensureIdentifier _ _).bind fun _ =>
    (Java.failsForNames_ensureIdentifier _ _).bind fun _ => .ok _

theorem failsForNames_uniqueTypeName (o : ObjectNode) (key : Text) (used : List Text) :
    FailsForNames (o.uniqueTypeName key used) := by
  have numbered : ∀ base fuel n, FailsForNames (o.numberedTypeName base used fuel n) := by
    intro base fuel
    induction fuel with
    | zero => exact fun n => (Java.failsForNames_ensureIdentifier _ _).bind fun _ => .ok _
    | succ fuel ih =>
      intro n
      rw [numberedTypeName]
      refine (Java.failsForNames_ensureIdentifier _ _).bind fun _ => ?_
      split
      · exact ih (n + 1)
      · exact .ok _
  refine (Java.failsForNames_ensureIdentifier _ _).bind fun base =>
    (Java.failsForNames_ensureIdentifier _ _).bind fun _ => ?_
  split
  · exact numbered _ _ _
  · exact .ok _

theorem failsForNames_add (m : Members) (child : Node) (resolved : Resolved) :
    FailsForNames (m.add o key s child names resolved) :=
  (Java.failsForNames_fieldName key).bind fun _ => .ok _

/-! ## Refused properties -/

/-- Classification reports the first unsupported schema that it meets. -/
theorem firstUnsupported_of_classifyAt
    (h : o.classifyAt key s path names = .error (.unsupportedSchema q reason)) :
    ∃ steps, q = path ++ steps ∧
      FirstUnsupported o.typeTable (s.visited o.typeTable) steps reason := by
  fun_induction classifyAt o key s path names with
  | case1 | case2 => cases h
  | case3 s path items hs ih =>
    rcases bind_eq_error.1 h with h | ⟨_, -, h⟩
    · obtain ⟨steps, rfl, hfirst⟩ := ih h
      exact ⟨itemsStep :: steps, by simp, Schema.firstUnsupported_items hs hfirst⟩
    · cases h
  | case4 s path value hs ih =>
    rcases bind_eq_error.1 h with h | ⟨_, -, h⟩
    · obtain ⟨steps, rfl, hfirst⟩ := ih h
      exact ⟨valuesStep :: steps, by simp, Schema.firstUnsupported_value hs hfirst⟩
    · cases h
  | case5 s path hs =>
    refine absurd h (FailsForNames.ne_unsupportedSchema ?_ q reason)
    exact (failsForNames_uniqueTypeName _ _ _).bind fun _ =>
      (failsForNames_childObject _ _ _ _).bind fun _ => .ok _
  | case6 s path values hs =>
    rcases bind_eq_error.1 h with h | ⟨name, -, h⟩
    · exact absurd h ((failsForNames_uniqueTypeName _ _ _).ne_unsupportedSchema q reason)
    split at h
    · next value hvalue =>
      have herror := Except.error.inj h
      unfold GenerationError.ofEnumValue at herror
      split at herror
      · cases herror
        exact ⟨[], by simp, Schema.firstUnsupported_here
          (Schema.unsupportedFor_iff.2 (.inr ⟨values, value, hs, hvalue, rfl⟩))⟩
      · cases herror
    · cases h
  | case7 s path reason' hs =>
    cases h
    exact ⟨[], by simp, Schema.firstUnsupported_here (Schema.unsupportedFor_iff.2 (.inl hs))⟩

/-- What a property has been classified as reports the first unsupported schema below it, if objects
do. -/
theorem firstUnsupported_of_resolve_child {child : Node} {names' : SiblingNames}
    (hc : o.classify key s names = .ok (child, names'))
    (h : child.resolve.outcome = .error (.unsupportedSchema q reason))
    (ih : ∀ c, child.innermost = .object c →
      (Node.object c).resolve.outcome = .error (.unsupportedSchema q reason) →
      ∃ steps, q = c.ownPath ++ steps ∧ FirstUnsupported c.typeTable c.visited steps reason) :
    ∃ steps, q = o.ownPath ++ key :: steps ∧
      FirstUnsupported o.typeTable (s.visited o.typeTable) steps reason := by
  obtain ⟨steps, t, hlead, hcl⟩ := classified_of_classifyAt hc
  have hinner : child.innermost.resolve.outcome = .error (.unsupportedSchema q reason) := by
    rw [Node.outcome_resolve] at h
    cases hcore : child.innermost.resolve.outcome with
    | error e => simpa [hcore, Except.map] using h
    | ok core => simp [hcore, Except.map] at h
  generalize child.innermost = inner at hcl hinner ih
  cases hcl with
  | primitive => rw [Node.resolve] at hinner; cases hinner
  | enum =>
    rw [Node.resolve] at hinner
    exact absurd hinner ((EnumNode.failsForNames_resolve _).ne_unsupportedSchema q reason)
  | @object name c hs hname hchild =>
    obtain ⟨steps', rfl, hfirst⟩ := ih c rfl hinner
    obtain ⟨package, -, rfl⟩ := childObject_eq_ok.1 hchild
    -- The child was given the path that was reached, so that is its own path.
    have hpath : (o.childIn package name.bare t (o.ownPath ++ [key] ++ steps)).ownPath =
        o.ownPath ++ [key] ++ steps := if_neg (by simp [childIn])
    exact ⟨steps ++ steps', by rw [hpath]; simp,
      hlead.firstUnsupported (Schema.firstUnsupported_properties hs hfirst)⟩

/-- Nothing below a property that resolves is unsupported. -/
theorem supported_of_resolved {child : Node} {names' : SiblingNames} {core : Resolved}
    {candidate : Text} (hc : o.classify key s names = .ok (child, names'))
    (hcore : child.innermost.resolve.outcome = .ok core)
    (hfield : Java.fieldName key = .ok candidate) :
    ∀ p ∈ s.visited o.typeTable, ¬p.2.Unsupported o.typeTable := by
  intro p hp
  obtain ⟨k, hk⟩ := Schema.visits_of_mem_visited key hp
  have hcollects : o.Collects [(key, s)] names [] _ := .cons hc hcore hfield (.nil _ _)
  exact (acceptable_of_mem hcollects List.mem_cons_self
    (fun c hinner => resolvable_of_resolve (hinner ▸ hcore)) hk).supported

/-- Properties that are refused report the first unsupported schema among them. -/
theorem firstUnsupported_of_resolveProperties {m : Members}
    (h : (o.resolveProperties ps m).outcome = .error (.unsupportedSchema q reason))
    (ih : ∀ p ∈ ps, ∀ names child names', o.classify p.1 p.2 names = .ok (child, names') →
      ∀ c, child.innermost = .object c →
      (Node.object c).resolve.outcome = .error (.unsupportedSchema q reason) →
      ∃ steps, q = c.ownPath ++ steps ∧ FirstUnsupported c.typeTable c.visited steps reason) :
    ∃ steps, q = o.ownPath ++ steps ∧
      FirstUnsupported o.typeTable (Properties.visited o.typeTable ps) steps reason := by
  induction ps generalizing m with
  | nil =>
    rw [outcome_resolveProperties_nil] at h
    cases h
  | cons p rest ihrest =>
    obtain ⟨key, s⟩ := p
    rw [List.forall_mem_cons] at ih
    simp only [Properties.visited]
    -- Either this property is refused, or it resolves and a later one is refused.
    have this_refused : (∃ steps, q = o.ownPath ++ key :: steps ∧
        FirstUnsupported o.typeTable (s.visited o.typeTable) steps reason) →
        ∃ steps, q = o.ownPath ++ steps ∧ FirstUnsupported o.typeTable
          ((s.visited o.typeTable).map (Prod.map (key :: ·) id) ++
            Properties.visited o.typeTable rest) steps reason := by
      rintro ⟨steps, hq, hfirst⟩
      exact ⟨key :: steps, hq, (hfirst.under key).append_right _⟩
    rw [outcome_resolveProperties_cons] at h
    rcases bind_eq_error.1 h with h | ⟨⟨child, names⟩, hc, h₁⟩
    · obtain ⟨steps, rfl, hfirst⟩ := firstUnsupported_of_classifyAt h
      exact this_refused ⟨steps, by simp, hfirst⟩
    rcases bind_eq_error.1 h₁ with h | ⟨resolved, hr, h₂⟩
    · exact this_refused (firstUnsupported_of_resolve_child hc h (ih.1 _ child names hc))
    rcases bind_eq_error.1 h₂ with h | ⟨m', hadd, hrest⟩
    · exact absurd h ((failsForNames_add m child resolved).ne_unsupportedSchema q reason)
    obtain ⟨core, hcore, rfl⟩ := Node.resolve_eq_ok.1 hr
    obtain ⟨candidate, hfield, -⟩ := add_eq_ok.1 hadd
    obtain ⟨steps, hq, hfirst⟩ := ihrest hrest ih.2
    refine ⟨steps, hq, hfirst.append_left _ fun p hp => ?_⟩
    obtain ⟨p', hp', rfl⟩ := List.mem_map.1 hp
    exact supported_of_resolved hc hcore hfield p' hp'

/-! ## Refused objects -/

/-- The path in the report of a computation that was refused for a schema. -/
def reportedPath? {α : Type} : Except GenerationError α → Option (List Text)
  | .error (.unsupportedSchema path _) => some path
  | _ => none

theorem reportedPath?_eq_some_iff {α : Type} {x : Except GenerationError α} :
    reportedPath? x = some q ↔ ∃ reason, x = .error (.unsupportedSchema q reason) := by
  constructor
  · intro h
    unfold reportedPath? at h
    split at h
    · next path reason =>
      cases h
      exact ⟨reason, rfl⟩
    · cases h
  · rintro ⟨reason, rfl⟩
    rfl

/-- An object that is refused for a schema is refused for the first one, in the order of the visit,
that is unsupported; the report tells its path, below that of the object, and why. -/
theorem reported_first_unsupported
    (h : (Node.object o).resolve.outcome = .error (.unsupportedSchema q reason)) :
    ∃ steps, q = o.ownPath ++ steps ∧
      FirstUnsupported o.typeTable o.visited steps reason := by
  -- Objects among the properties are smaller.
  induction hw : (Node.object o).weight using Nat.strongRecOn generalizing o with
  | ind w ih =>
    rw [outcome_resolve] at h
    rcases bind_eq_error.1 h with h | ⟨className, -, h⟩
    · exact absurd h ((failsForNames_className o).ne_unsupportedSchema q reason)
    rcases bind_eq_error.1 h with h | ⟨m, -, h⟩
    · refine firstUnsupported_of_resolveProperties h ?_
      intro p hp names child names' hc c hinner hrefused
      exact ih _ (hw ▸ weight_lt_of_classify hp hc hinner) hrefused rfl
    · cases h

/-- The enum is reported and not the array after it; the array, map and object around it are
supported. -/
theorem reported_first_unsupported_enum :
    let mode : Schema :=
      { type := some "string", enum := some [.str "on", .bool true, .bool false] }
    let entry : Schema := { type := some "object", properties := some [("mode", mode)] }
    let o : ObjectNode :=
      { name := "spec"
        properties := [
          ("size", { type := some "integer" }),
          ("parts", {
            type := some "array"
            items := some { type := some "object", additionalProperties := some (.inr entry) } }),
          ("rest", { type := some "array" })] }
    let q : List Text := ["spec", "parts", "items", "additionalProperties", "mode"]
    ∃ reason, (Node.object o).resolve.outcome = .error (.unsupportedSchema q reason) ∧
      ∃ steps, q = o.ownPath ++ steps ∧
        FirstUnsupported o.typeTable o.visited steps reason := by
  intro mode entry o q
  have hpath : reportedPath? (Node.object o).resolve.outcome = some q := by decide +kernel
  obtain ⟨reason, h⟩ := reportedPath?_eq_some_iff.1 hpath
  exact ⟨reason, h, reported_first_unsupported h⟩

end ObjectNode

end KubeJava
