import KubeJava.Proofs.Changes
import KubeJava.Proofs.Versions

set_option autoImplicit false

/-! # What generation looks at

Generation looks at a part of a definition only. Keywords without a field, `nullable`, options
without a field, the version of the interface, the names of the resource in the plural and singular,
and the flags of a version take no part in what it gives: with them left out it fails with the same
error, or gives the same sources under the same names, with the same warnings. -/

namespace KubeJava

open Java (TypeTable EnumDeclaration ClassDeclaration Field)

/-! ## Relevant parts -/

mutual

/-- The schema without the keywords that generation does not look at, at any depth. -/
def Schema.relevant : Schema → Schema
  | ⟨type, format, description, properties, required, items, additional, enum, _, preserve,
      intOrString, _⟩ =>
    { type
      format
      description
      properties := relevantProperties properties
      required
      items := relevantItems items
      additionalProperties := relevantAdditional additional
      enum
      preserveUnknownFields := preserve
      intOrString }

def relevantProperties : Option (List (Text × Schema)) → Option (List (Text × Schema))
  | none => none
  | some ps => some (Properties.relevant ps)

def Properties.relevant : List (Text × Schema) → List (Text × Schema)
  | [] => []
  | p :: ps => relevantProperty p :: Properties.relevant ps

def relevantProperty : Text × Schema → Text × Schema
  | (key, s) => (key, s.relevant)

def relevantItems : Option Schema → Option Schema
  | none => none
  | some s => some s.relevant

def relevantAdditional : Option (Bool ⊕ Schema) → Option (Bool ⊕ Schema)
  | none => none
  | some a => some (relevantArm a)

def relevantArm : Bool ⊕ Schema → Bool ⊕ Schema
  | .inl b => .inl b
  | .inr s => .inr s.relevant

end

@[simp] theorem Properties.relevant_eq_map (ps : Properties) :
    Properties.relevant ps = ps.map (Prod.map id Schema.relevant) := by
  induction ps with
  | nil => rfl
  | cons p ps ih =>
    rw [Properties.relevant, List.map_cons, ih, relevantProperty]
    rfl

theorem Schema.relevant_eq (s : Schema) : s.relevant =
    { s with
      properties := s.properties.map (List.map (Prod.map id Schema.relevant))
      items := s.items.map Schema.relevant
      additionalProperties := s.additionalProperties.map (Sum.map id Schema.relevant)
      nullable := none
      extra := [] } := by
  obtain ⟨_, _, _, properties, _, items, additional, _, _, _, _, _⟩ := s
  rw [Schema.relevant]
  congr 1
  · cases properties with
    | none => rfl
    | some ps => exact congrArg some (Properties.relevant_eq_map ps)
  · cases items <;> rfl
  · rcases additional with _ | b | s <;> rfl

def Settings.relevant (s : Settings) : Settings := { s with extra := [] }

def SchemaHolder.relevant (h : SchemaHolder) : SchemaHolder := ⟨h.openAPI.map Schema.relevant⟩

def Version.relevant (v : Version) : Version :=
  { name := v.name, validation := v.validation.map SchemaHolder.relevant }

def Definition.relevant (d : Definition) : Definition :=
  { d with
    apiVersion := []
    names := { kind := d.names.kind }
    versions := d.versions.map Version.relevant }

/-! ## Nodes -/

/-- Everything that generation does not look at left out. -/
def omission : NodeChange := { schema := Schema.relevant, settings := Settings.relevant }

@[simp] theorem shape_relevant (table : TypeTable) (s : Schema) :
    s.relevant.shape table = (s.shape table).withSchemas Schema.relevant := by
  rw [s.relevant_eq]
  simp only [Schema.shape]
  split
  · rfl
  · split
    · cases s.items <;> rfl
    · rw [Option.isSome_map]
      split
      · simp only [Schema.objectShape]
        rw [show ((s.properties.map (List.map (Prod.map id Schema.relevant))).getD []).isEmpty =
            (s.properties.getD []).isEmpty by cases s.properties <;> simp]
        split
        · rcases s.additionalProperties with _ | (_ | _) | value <;> rfl
        · rfl
      · simp only [Schema.scalarShape]
        split
        · split <;> rfl
        · split
          · rfl
          · split <;> rfl

@[simp] theorem properties_omission (ps : Properties) :
    omission.properties ps = ps.map (Prod.map id Schema.relevant) := rfl

theorem unseen_omission : omission.Unseen where
  shape := shape_relevant
  schemaProperties s := by
    rw [funext properties_omission]
    exact (congrArg Schema.properties s.relevant_eq :)
  required s := (congrArg Schema.required s.relevant_eq :)
  preserveUnknownFields s := (congrArg Schema.preserveUnknownFields s.relevant_eq :)
  description s := (congrArg Schema.description s.relevant_eq :)
  enumUppercase _ := rfl
  prefixPolicy _ := rfl
  suffixPolicy _ := rfl
  package _ _ _ := rfl
  qualified _ _ := rfl

/-! ## Types that stay where they are -/

section Moves

variable {c : NodeChange} (hpackage : c.package = id) (hqualified : c.qualified = id)
  {table : TypeTable} {types : List TypeRecord}

include hqualified

theorem Java.TypeMoves.eq {enums : List EnumDeclaration} {t t' : Text}
    (h : Java.TypeMoves c table enums types t t') : t' = t := by
  induction h with
  | supplied | enum => rfl
  | generated => rw [hqualified]; rfl
  | list _ ih => rw [ih]
  | map _ ih => rw [ih]

theorem Java.Field.Moves.eq {enums : List EnumDeclaration} {f f' : Field}
    (h : f.Moves c table enums types f') : f' = f := by
  obtain ⟨t, ht, rfl⟩ := h
  rw [ht.eq hqualified]

include hpackage

theorem Java.ClassDeclaration.Moves.eq {k k' : ClassDeclaration} (h : k.Moves c table types k') :
    k' = k := by
  have hfields : k.fields = k'.fields :=
    List.forall₂_eq_eq_eq ▸ h.fields.imp fun _ _ hf => (hf.eq hqualified).symm
  have henums : k'.enums = k.enums := by
    rw [h.enums]
    refine List.map_id'' (fun e => ?_) k.enums
    rw [Java.EnumDeclaration.moved, hpackage]
    rfl
  have hname := h.name
  have hdescription := h.description
  have hk := h.package
  rw [hpackage] at hk
  cases k
  cases k'
  simp_all

theorem TypeRecord.Moves.eq {r r' : TypeRecord} (h : r.Moves c table types r') : r' = r := by
  cases h with
  | enum e =>
    rw [Java.EnumDeclaration.moved, hpackage]
    rfl
  | ofClass hk => rw [hk.eq hpackage hqualified]

theorem Generated.Moves.eq {g g' : Generated} (h : g.Moves c table g') : g' = g := by
  have hall (rs rs' : List TypeRecord)
      (hrs : List.Forall₂ (TypeRecord.Moves c table g.topLevel) rs rs') : rs' = rs := by
    have hsame : rs = rs' :=
      List.forall₂_eq_eq_eq ▸ hrs.imp fun _ _ hr => (hr.eq hpackage hqualified).symm
    exact hsame.symm
  obtain ⟨htop, hnested⟩ := h
  cases g'
  exact congrArg₂ Generated.mk (hall _ _ htop) (hall _ _ hnested)

theorem Resolved.Moves.eq {r r' : Resolved} {enums : List EnumDeclaration}
    (h : r.Moves c table enums r') : r' = r := by
  obtain ⟨hreference, htypes⟩ := h
  cases r'
  exact congrArg₂ Resolved.mk (hreference.eq hqualified) (htypes.eq hpackage hqualified)

end Moves

/-- An object gives what it gives without all that generation does not look at. -/
theorem outcome_resolve_omission (o : ObjectNode) :
    (Node.object (omission.object o)).resolve.outcome = (Node.object o).resolve.outcome := by
  have h := (unseen_omission.resolve o).map_eq_map (f := id) (g := id)
    fun r r' hr => (hr.eq rfl rfl).symm
  rw [Except.map_id] at h
  exact h.symm

/-! ## Sections -/

theorem omission_sectionNode (settings : Settings) (kind package name : Text) (s : Schema) :
    omission.object (sectionNode settings kind package name s) =
      sectionNode settings.relevant kind package name s.relevant := by
  rw [s.relevant_eq]
  simp only [sectionNode, NodeChange.object, properties_omission]
  congr 1
  cases s.properties <;> rfl

theorem outcome_resolveSection_relevant (settings : Settings) (kind package name : Text)
    (s : Option Schema) :
    (resolveSection settings.relevant kind package name (s.map Schema.relevant)).outcome =
      (resolveSection settings kind package name s).outcome := by
  cases s with
  | none => rfl
  | some s =>
    simp only [Option.map_some, resolveSection]
    rw [← omission_sectionNode, outcome_resolve_omission]

@[simp] theorem Version.schema?_relevant (v : Version) :
    v.relevant.schema? = v.schema?.map Schema.relevant := by
  rw [Version.relevant, Version.schema?, Version.schema?]
  cases v.validation <;> rfl

@[simp] theorem Version.properties_relevant (v : Version) :
    v.relevant.properties = v.properties.map (Prod.map id Schema.relevant) := by
  rw [Version.properties, Version.properties, v.schema?_relevant]
  cases v.schema? with
  | none => rfl
  | some s =>
    rw [Option.map_some, Option.bind_some, Option.bind_some, s.relevant_eq]
    cases s.properties <;> rfl

theorem lookup_map_snd {α β : Type} (f : α → β) (ps : List (Text × α)) (name : Text) :
    (ps.map (Prod.map id f)).lookup name = (ps.lookup name).map f := by
  induction ps with
  | nil => rfl
  | cons p ps ih =>
    obtain ⟨key, a⟩ := p
    simp only [List.map_cons, Prod.map_apply, id_eq, List.lookup_cons, ih]
    split <;> rfl

/-! ## Definitions -/

/-- What others see of a generation: the qualified name and the source of each type, and the
warnings. -/
structure Listing where
  topLevel : List (Text × Text)
  nested : List (Text × Text)
  warnings : List Text

def TypeRecord.entry (r : TypeRecord) : Text × Text := (r.qualifiedName, r.source)

def Generation.listing (g : Generation) : Listing :=
  ⟨g.types.topLevel.map TypeRecord.entry, g.types.nested.map TypeRecord.entry, g.warnings⟩

/-- Both generations list the same. -/
def Generation.ListsAs (g g' : Generation) : Prop := g.listing = g'.listing

theorem Generation.ListsAs.merge {a a' b b' : Generation} (ha : a.ListsAs a') (hb : b.ListsAs b') :
    (a.merge b).ListsAs (a'.merge b') := by
  simp only [ListsAs, listing, Listing.mk.injEq] at ha hb
  obtain ⟨hat, han, haw⟩ := ha
  obtain ⟨hbt, hbn, hbw⟩ := hb
  simp [ListsAs, listing, hat, han, haw, hbt, hbn, hbw]

variable (settings : Settings) (d : Definition)

/-- The flags of a resource are written nowhere. -/
theorem listsAs_resolve_flags (r : ResourceNode) (flags : Java.ResourceFlags) (types : Generated)
    (warnings : List Text) :
    SameOutcome
      (fun a b =>
        Generation.ListsAs ⟨types.merge a.types, warnings⟩ ⟨types.merge b.types, warnings⟩)
      r.resolve { r with flags }.resolve := by
  simp only [ResourceNode.resolve, ResourceNode.typeReference]
  cases Java.ensureIdentifier r.kind r.kind with
  | error e => exact .error e
  | ok name =>
    refine .ok ?_
    simp only [Generation.ListsAs, Generation.listing, Generated.merge, List.map_append]
    rfl

theorem listsAs_generateVersion (base : Text) (v : Version) :
    SameOutcome Generation.ListsAs (generateVersion settings d base v).outcome
      (generateVersion settings.relevant d.relevant base v.relevant).outcome := by
  have hwarnings : (reportMissingSchema d.relevant.names.kind v.relevant).outcome =
      (reportMissingSchema d.names.kind v).outcome := by
    rw [reportMissingSchema, reportMissingSchema, v.schema?_relevant, Option.isSome_map]
    rfl
  have hsection (package name : Text) :
      (resolveSection settings.relevant d.relevant.names.kind package name
        (v.relevant.properties.lookup name)).outcome =
      (resolveSection settings d.names.kind package name (v.properties.lookup name)).outcome := by
    rw [v.properties_relevant, lookup_map_snd]
    exact outcome_resolveSection_relevant settings d.names.kind package name _
  have hisSome (name : Text) : (v.relevant.properties.lookup name).isSome =
      (v.properties.lookup name).isSome := by
    simp [lookup_map_snd]
  simp only [generateVersion, Logged.outcome_bind, Logged.outcome_pure, outcome_liftM, hwarnings,
    hsection, hisSome]
  refine (SameOutcome.refl _).bind fun warnings _ _ hw => ?_
  subst hw
  refine (SameOutcome.refl _).bind fun spec _ _ hspec => ?_
  subst hspec
  refine (SameOutcome.refl _).bind fun status _ _ hstatus => ?_
  subst hstatus
  -- Both wrap the same types; only the flags of the wrappers differ.
  exact (listsAs_resolve_flags _ _ _ _).bind fun a b _ hab => .ok hab

theorem listsAs_generateVersions (base : Text) (vs : List Version) :
    SameOutcome Generation.ListsAs (generateVersions settings d base vs).outcome
      (generateVersions settings.relevant d.relevant base (vs.map Version.relevant)).outcome := by
  induction vs with
  | nil => exact .ok rfl
  | cons v vs ih =>
    simp only [List.map_cons, generateVersions, Logged.outcome_bind, Logged.outcome_pure]
    refine (listsAs_generateVersion settings d base v).bind fun first _ _ hfirst => ?_
    exact ih.bind fun others _ _ hothers => .ok (hfirst.merge hothers)

/-- What a definition and its relevant part list is the same. -/
theorem map_listing_generateDefinition :
    (generateDefinition settings d).outcome.map Generation.listing =
      (generateDefinition settings.relevant d.relevant).outcome.map Generation.listing := by
  have h : SameOutcome Generation.ListsAs (generateDefinition settings d).outcome
      (generateDefinition settings.relevant d.relevant).outcome := by
    simp only [generateDefinition, Logged.outcome_bind, outcome_liftM, Logged.outcome_report]
    refine (SameOutcome.refl (Java.packageForGroup d.group)).bind fun base _ _ hbase => ?_
    subst hbase
    exact listsAs_generateVersions settings d base d.versions
  exact h.map_eq_map fun _ _ hg => hg

end KubeJava
