import KubeJava.Proofs.Relevance

set_option autoImplicit false

/-! # Documents that say the same

Two documents may differ in the keys that generation does not look at: those that no field has, and
those of the fields that it has no use for. If both are read as a definition, the definitions have
the same relevant part, so they generate the same. Schemas may lie inside one another without end,
so documents agree on them if they do down to every depth. -/

namespace KubeJava

/-! ## Two readings -/

/-- If both readings succeed, their values are the same under `f`. -/
def Checked.SameUnder {α β : Type} (f : α → β) (x y : Checked α) : Prop :=
  ∀ a b, x = .valid a → y = .valid b → f a = f b

namespace Checked

variable {α β γ : Type}

@[simp] theorem map_eq_valid {f : α → β} {x : Checked α} {b : β} :
    f <$> x = .valid b ↔ ∃ a, x = .valid a ∧ f a = b := by
  cases x with
  | valid a => exact ⟨fun h => ⟨a, rfl, Checked.valid.inj h⟩, by rintro ⟨_, ⟨⟩, rfl⟩; rfl⟩
  | faulty fs => exact ⟨nofun, by rintro ⟨_, ⟨⟩, _⟩⟩

@[simp] theorem seq_eq_valid {g : Checked (α → β)} {x : Checked α} {b : β} :
    g <*> x = .valid b ↔ ∃ f a, g = .valid f ∧ x = .valid a ∧ f a = b := by
  cases g <;> cases x
  · exact ⟨fun h => ⟨_, _, rfl, rfl, Checked.valid.inj h⟩, by rintro ⟨_, _, ⟨⟩, ⟨⟩, rfl⟩; rfl⟩
  all_goals exact ⟨nofun, by rintro ⟨_, _, h, h', _⟩; cases h <;> cases h'⟩

@[simp] theorem under_eq_valid {s : Segment} {x : Checked α} {a : α} :
    x.under s = .valid a ↔ x = .valid a := by
  cases x with
  | valid b => exact Iff.rfl
  | faulty fs => exact ⟨nofun, nofun⟩

/-- A value that evaluation finds was read. -/
theorem exists_eq_valid {x : Checked α} {f : α → β} {b : β}
    (h : x.toExcept.toOption.map f = some b) : ∃ a, x = .valid a ∧ f a = b := by
  cases x with
  | valid a => exact ⟨a, rfl, Option.some.inj h⟩
  | faulty fs => cases h

variable {f : α → γ} {x y : Checked α}

theorem SameUnder.refl (f : α → γ) (x : Checked α) : SameUnder f x x := by
  rintro a b ha hb
  rw [Checked.valid.inj (ha.symm.trans hb)]

theorem SameUnder.under (h : SameUnder f x y) (s : Segment) :
    SameUnder f (x.under s) (y.under s) :=
  fun a b ha hb => h a b (under_eq_valid.1 ha) (under_eq_valid.1 hb)

theorem SameUnder.cons {xs ys : Checked (List α)} (h : SameUnder f x y)
    (hs : SameUnder (List.map f) xs ys) :
    SameUnder (List.map f) (List.cons <$> x <*> xs) (List.cons <$> y <*> ys) := by
  intro _ _ hx hy
  obtain ⟨_, as, hfa, has, rfl⟩ := seq_eq_valid.1 hx
  obtain ⟨a, ha, rfl⟩ := map_eq_valid.1 hfa
  obtain ⟨_, bs, hfb, hbs, rfl⟩ := seq_eq_valid.1 hy
  obtain ⟨b, hb, rfl⟩ := map_eq_valid.1 hfb
  rw [List.map_cons, List.map_cons, h a b ha hb, hs as bs has hbs]

end Checked

open Checked (SameUnder map_eq_valid seq_eq_valid under_eq_valid)

/-! ## Fields of two mappings -/

/-- Each of the names is in both mappings, with related values, or in neither. -/
def Mapping.AgreesOn (R : Document → Document → Prop) (names : List Text) (m m' : Mapping) : Prop :=
  ∀ name ∈ names, Option.Rel R (Mapping.value? name m) (Mapping.value? name m')

namespace Mapping.AgreesOn

variable {R : Document → Document → Prop} {names : List Text} {m m' : Mapping} {α γ : Type}
  {f : α → γ} {read read' : Document → Checked α}

theorem mono {some : List Text} (h : AgreesOn R names m m') (hsome : some ⊆ names) :
    AgreesOn R some m m' :=
  fun name hname => h name (hsome hname)

theorem nil : AgreesOn R names [] [] := fun _ _ => .none

theorem cons {key : Text} {v v' : Document} (hv : R v v') (h : AgreesOn R names m m') :
    AgreesOn R names ((.str key, v) :: m) ((.str key, v') :: m') := by
  intro name hname
  rw [Mapping.value?, Mapping.value?]
  split
  · exact .some hv
  · exact h name hname

/-- Keys that are none of the names may differ. -/
theorem skip {key key' : Text} {v v' : Document} (hkey : key ∉ names) (hkey' : key' ∉ names)
    (h : AgreesOn R names m m') :
    AgreesOn R names ((.str key, v) :: m) ((.str key', v') :: m') := by
  intro name hname
  have hne : key ≠ name := fun heq => hkey (heq ▸ hname)
  have hne' : key' ≠ name := fun heq => hkey' (heq ▸ hname)
  rw [Mapping.value?, Mapping.value?, if_neg hne, if_neg hne']
  exact h name hname

theorem field? (h : AgreesOn R names m m') :
    Option.Rel (fun p p' => p.1 = p'.1 ∧ R p.2 p'.2) (Mapping.field? m names)
      (Mapping.field? m' names) := by
  induction names with
  | nil => exact .none
  | cons name rest ih =>
    have hname := h name List.mem_cons_self
    have hrest := ih (h.mono (List.subset_cons_self name rest))
    rw [Mapping.field?, Mapping.field?, List.findSome?_cons, List.findSome?_cons]
    generalize Mapping.value? name m = v, Mapping.value? name m' = v' at hname
    cases hname with
    | none => exact hrest
    | some hv => exact .some ⟨rfl, hv⟩

theorem sameUnder_fieldOr (h : AgreesOn R names m m') (absent : Checked α)
    (hread : ∀ d d', R d d' → SameUnder f (read d) (read' d')) :
    SameUnder f (Mapping.fieldOr m names absent read) (Mapping.fieldOr m' names absent read') := by
  have hfield := h.field?
  rw [Mapping.fieldOr, Mapping.fieldOr]
  generalize Mapping.field? m names = p, Mapping.field? m' names = p' at hfield
  cases hfield with
  | none => exact SameUnder.refl f _
  | @some p p' hp =>
    obtain ⟨name, d⟩ := p
    obtain ⟨_, d'⟩ := p'
    obtain ⟨rfl, hd⟩ := hp
    exact (hread d d' hd).under _

theorem sameUnder_nullable (h : AgreesOn R names m m')
    (hnull : ∀ d d', R d d' → (d = .null ↔ d' = .null))
    (hread : ∀ d d', R d d' → SameUnder f (read d) (read' d')) :
    SameUnder (Option.map f) (Mapping.nullable m names read)
      (Mapping.nullable m' names read') := by
  refine h.sameUnder_fieldOr (.valid none) fun d d' hd a b ha hb => ?_
  by_cases hdnull : d = .null
  · obtain rfl := (hnull d d' hd).1 hdnull
    subst hdnull
    rw [← Checked.valid.inj ha, ← Checked.valid.inj hb]
  · have hd'null : d' ≠ .null := fun hd' => hdnull ((hnull d d' hd).2 hd')
    have hsome {read : Document → Checked α} {d : Document} {a : Option α} (hd : d ≠ .null)
        (ha : Document.readNullable read d = .valid a) : ∃ b, read d = .valid b ∧ some b = a := by
      cases d <;> first | exact absurd rfl hd | exact map_eq_valid.1 ha
    obtain ⟨a, hra, rfl⟩ := hsome hdnull ha
    obtain ⟨b, hrb, rfl⟩ := hsome hd'null hb
    exact congrArg some (hread d d' hd a b hra hrb)

/-! A field whose values are the same is read as the same. -/

theorem field?_eq (h : AgreesOn Eq names m m') :
    Mapping.field? m names = Mapping.field? m' names := by
  have hfield := h.field?
  generalize Mapping.field? m names = p, Mapping.field? m' names = p' at hfield
  cases hfield with
  | none => rfl
  | some hp => rw [Prod.ext hp.1 hp.2]

theorem eq_of_fieldOr {absent : Checked α} {a b : α} (h : AgreesOn Eq names m m')
    (ha : Mapping.fieldOr m names absent read = .valid a)
    (hb : Mapping.fieldOr m' names absent read = .valid b) : a = b := by
  rw [Mapping.fieldOr, h.field?_eq] at ha
  exact Checked.valid.inj (ha.symm.trans hb)

end Mapping.AgreesOn

open Mapping (AgreesOn)

/-! ## Two documents -/

namespace Document

/-- Both documents are mappings, with related entries, or they are the same and no mappings. -/
def Alike (F : Mapping → Mapping → Prop) (d d' : Document) : Prop :=
  match d.exposed, d'.exposed with
  | .map m, .map m' => F m m'
  | _, _ => d = d'

/-- Both documents are lists, with related items, or they are the same and no lists. -/
def AlikeLists (R : Document → Document → Prop) (d d' : Document) : Prop :=
  match d.exposed, d'.exposed with
  | .list items, .list items' => List.Forall₂ R items items'
  | _, _ => d = d'

variable {F : Mapping → Mapping → Prop} {d d' : Document} {α γ : Type} {f : α → γ}

/-- Documents that are alike are mappings with related entries, or the same. -/
theorem Alike.cases (h : Alike F d d') :
    (∃ m m', d.exposed = .map m ∧ d'.exposed = .map m' ∧ F m m') ∨
      d = d' ∧ ∀ m, d.exposed ≠ .map m := by
  unfold Alike at h
  split at h
  · next m m' hm hm' => exact .inl ⟨m, m', hm, hm', h⟩
  · next hne =>
    subst h
    exact .inr ⟨rfl, fun m hm => hne m m hm hm⟩

theorem Alike.eq_null_iff (h : Alike F d d') : d = .null ↔ d' = .null := by
  rcases h.cases with ⟨m, m', hm, hm', -⟩ | ⟨rfl, -⟩
  · constructor
    · rintro rfl
      cases hm
    · rintro rfl
      cases hm'
  · exact Iff.rfl

theorem Alike.sameUnder {read read' : Mapping → Checked α} (h : Alike F d d')
    (hread : ∀ m m', F m m' → SameUnder f (read m) (read' m')) :
    SameUnder f (Document.readMapping read d) (Document.readMapping read' d') := by
  rcases h.cases with ⟨m, m', hm, hm', hF⟩ | ⟨rfl, hne⟩
  · rw [Document.readMapping, Document.readMapping, hm, hm']
    exact hread m m' hF
  · intro a b ha
    unfold Document.readMapping at ha
    split at ha
    · next m hm => exact absurd hm (hne m)
    · cases ha

theorem sameUnder_readItemsFrom {R : Document → Document → Prop} {read : Document → Checked α}
    (hread : ∀ d d', R d d' → SameUnder f (read d) (read d')) {ds ds' : List Document}
    (h : List.Forall₂ R ds ds') (start : Nat) :
    SameUnder (List.map f) (Document.readItemsFrom read start ds)
      (Document.readItemsFrom read start ds') := by
  induction h generalizing start with
  | nil => exact SameUnder.refl _ _
  | cons hd _ ih => exact ((hread _ _ hd).under _).cons (ih (start + 1))

theorem AlikeLists.sameUnder {R : Document → Document → Prop} {read : Document → Checked α}
    (h : AlikeLists R d d') (hread : ∀ d d', R d d' → SameUnder f (read d) (read d')) :
    SameUnder (List.map f) (Document.readList read d) (Document.readList read d') := by
  unfold AlikeLists at h
  split at h
  · next items items' hi hi' =>
    rw [Document.readList, Document.readList, hi, hi']
    exact sameUnder_readItemsFrom hread h 0
  · exact h ▸ SameUnder.refl _ _

end Document

open Document (Alike AlikeLists)

/-! ## Schemas -/

namespace Schema

/-- The names of the fields that generation looks at and that hold no schemas. -/
def plainNames : List Text :=
  ["type", "format", "description", "required", "enum", "x-kubernetes-preserve-unknown-fields",
    "preserve_unknown_fields", "x-kubernetes-int-or-string", "int_or_string"]

/-- The entries of two schemas agree if the schemas in them are related. -/
structure FieldsAgree (R : Document → Document → Prop) (m m' : Mapping) : Prop where
  plain : AgreesOn Eq plainNames m m'
  properties :
    AgreesOn (Alike (List.Forall₂ fun e e' => e.1 = e'.1 ∧ R e.2 e'.2)) ["properties"] m m'
  items : AgreesOn R ["items"] m m'
  additionalProperties : AgreesOn R ["additionalProperties", "additional_properties"] m m'

/-- Two documents say the same about a schema, down to a depth. -/
def AgreesTo : (depth : Nat) → Document → Document → Prop
  | 0 => fun _ _ => True
  | depth + 1 => Alike (FieldsAgree (AgreesTo depth))

/-- Two documents say the same about a schema. -/
def Agrees (d d' : Document) : Prop := ∀ depth, AgreesTo depth d d'

/-! ### Schemas inside a schema -/

@[simp] theorem map_putProperty (f : Schema → Schema) (name : Text) (s : Schema) (ps : Properties) :
    (putProperty name s ps).map (Prod.map id f) =
      putProperty name (f s) (ps.map (Prod.map id f)) := by
  induction ps with
  | nil => rfl
  | cons p ps ih =>
    simp only [putProperty, List.map_cons, Prod.map_fst, id_eq]
    split
    · rfl
    · rw [List.map_cons, ih]

theorem map_foldl_putProperty (f : Schema → Schema) (ps acc : Properties) :
    (ps.foldl (fun acc p => putProperty p.1 p.2 acc) acc).map (Prod.map id f) =
      (ps.map (Prod.map id f)).foldl (fun acc p => putProperty p.1 p.2 acc)
        (acc.map (Prod.map id f)) := by
  induction ps generalizing acc with
  | nil => rfl
  | cons p ps ih =>
    rw [List.foldl_cons, ih, List.map_cons, List.foldl_cons, map_putProperty]
    rfl

section Inside

variable {R : Document → Document → Prop} {F : Mapping → Mapping → Prop}
  {read read' : Document → Checked Schema} {d d' : Document} {m m' : Mapping}

theorem sameUnder_readEntries (hread : ∀ d d', R d d' → SameUnder relevant (read d) (read' d'))
    (h : List.Forall₂ (fun e e' => e.1 = e'.1 ∧ R e.2 e'.2) m m') :
    SameUnder (List.map (Prod.map id relevant)) (readEntries read m) (readEntries read' m') := by
  induction h with
  | nil => exact SameUnder.refl _ _
  | @cons e e' _ _ he _ ih =>
    refine SameUnder.cons ?_ ih
    obtain ⟨key, value⟩ := e
    obtain ⟨_, value'⟩ := e'
    obtain ⟨rfl, hvalue⟩ := he
    intro _ _ hx hy
    obtain ⟨_, s, hk, hs, rfl⟩ := seq_eq_valid.1 hx
    obtain ⟨_, s', hk', hs', rfl⟩ := seq_eq_valid.1 hy
    obtain ⟨name, hname, rfl⟩ := map_eq_valid.1 hk
    obtain ⟨name', hname', rfl⟩ := map_eq_valid.1 hk'
    obtain rfl := Checked.valid.inj (hname.symm.trans hname')
    have hsame := hread _ _ hvalue s s' (under_eq_valid.1 hs) (under_eq_valid.1 hs')
    rw [Prod.map_apply, Prod.map_apply, hsame]

theorem sameUnder_readProperties
    (hread : ∀ d d', R d d' → SameUnder relevant (read d) (read' d'))
    (h : Alike (List.Forall₂ fun e e' => e.1 = e'.1 ∧ R e.2 e'.2) d d') :
    SameUnder (List.map (Prod.map id relevant)) (readProperties read d)
      (readProperties read' d') := by
  rcases h.cases with ⟨m, m', hm, hm', hentries⟩ | ⟨rfl, hne⟩
  · rw [readProperties, readProperties, hm, hm']
    intro _ _ hx hy
    obtain ⟨ps, hps, rfl⟩ := map_eq_valid.1 hx
    obtain ⟨ps', hps', rfl⟩ := map_eq_valid.1 hy
    rw [map_foldl_putProperty, map_foldl_putProperty,
      sameUnder_readEntries hread hentries ps ps' hps hps']
  · intro _ _ hx
    unfold readProperties at hx
    split at hx
    · next m hm => exact absurd hm (hne m)
    · cases hx

theorem readBool_of_exposed (h : d.exposed = .map m) : d.readBool = Checked.fault .boolType := by
  cases d <;> first | rfl | cases h

/-- A truth value, or a schema where no truth value could be read. -/
theorem readAdditional_eq_valid {a : Bool ⊕ Schema} (h : readAdditional read d = .valid a) :
    (∃ b, d.readBool = .valid b ∧ a = .inl b) ∨
      ∃ s, read d = .valid s ∧ a = .inr s ∧
        ((∃ m, d.exposed = .map m) ∨ ∀ b, d.readBool ≠ .valid b) := by
  unfold readAdditional at h
  split at h
  · next s hmap hs =>
    refine .inr ⟨s, hs, (Checked.valid.inj h).symm, .inl ?_⟩
    unfold isMapping at hmap
    split at hmap
    · next m hm => exact ⟨m, hm⟩
    · cases hmap
  · next b hb _ => exact .inl ⟨b, hb, (Checked.valid.inj h).symm⟩
  · next s hb hs _ =>
    refine .inr ⟨s, hs, (Checked.valid.inj h).symm, .inr fun b hvalid => ?_⟩
    cases hb.symm.trans hvalid
  · cases h

theorem sameUnder_readAdditional
    (hread : ∀ d d', Alike F d d' → SameUnder relevant (read d) (read' d')) (h : Alike F d d') :
    SameUnder (Sum.map id relevant) (readAdditional read d) (readAdditional read' d') := by
  intro a a' ha ha'
  have hschema {s s' : Schema} (hs : read d = .valid s) (hs' : read' d' = .valid s') :
      Sum.map id relevant (.inr s : Bool ⊕ Schema) = Sum.map id relevant (.inr s') :=
    congrArg Sum.inr (hread d d' h s s' hs hs')
  rcases h.cases with ⟨m, m', hm, hm', -⟩ | ⟨rfl, hne⟩
  · -- A mapping is no truth value.
    have hb := readBool_of_exposed hm
    have hb' := readBool_of_exposed hm'
    rcases readAdditional_eq_valid ha with ⟨b, hvalid, -⟩ | ⟨s, hs, rfl, -⟩
    · cases hb.symm.trans hvalid
    rcases readAdditional_eq_valid ha' with ⟨b, hvalid, -⟩ | ⟨s', hs', rfl, -⟩
    · cases hb'.symm.trans hvalid
    exact hschema hs hs'
  · -- The same document holds a truth value on both sides, or on none.
    rcases readAdditional_eq_valid ha with ⟨b, hb, rfl⟩ | ⟨s, hs, rfl, hnone⟩ <;>
      rcases readAdditional_eq_valid ha' with ⟨b', hb', rfl⟩ | ⟨s', hs', rfl, hnone'⟩
    · rw [Checked.valid.inj (hb.symm.trans hb')]
    · rcases hnone' with ⟨m, hm⟩ | hnone'
      · exact absurd hm (hne m)
      · exact absurd hb (hnone' b)
    · rcases hnone with ⟨m, hm⟩ | hnone
      · exact absurd hm (hne m)
      · exact absurd hb' (hnone b')
    · exact hschema hs hs'

/-- What the fields of a schema are read as. -/
structure FieldsRead (read : Document → Checked Schema) (m : Mapping) (s : Schema) : Prop where
  type : Mapping.nullable m ["type"] Document.readText = .valid s.type
  format : Mapping.nullable m ["format"] Document.readText = .valid s.format
  description : Mapping.nullable m ["description"] Document.readText = .valid s.description
  properties : Mapping.nullable m ["properties"] (readProperties read) = .valid s.properties
  required :
    Mapping.nullable m ["required"] (Document.readList Document.readText) = .valid s.required
  items : Mapping.nullable m ["items"] read = .valid s.items
  additionalProperties :
    Mapping.nullable m ["additionalProperties", "additional_properties"] (readAdditional read) =
      .valid s.additionalProperties
  enum : Mapping.nullable m ["enum"] (Document.readList .valid) = .valid s.enum
  preserveUnknownFields :
    Mapping.nullable m ["x-kubernetes-preserve-unknown-fields", "preserve_unknown_fields"]
      Document.readBool = .valid s.preserveUnknownFields
  intOrString : Mapping.nullable m ["x-kubernetes-int-or-string", "int_or_string"]
    Document.readBool = .valid s.intOrString

theorem fieldsRead_of_readFields {s : Schema} (h : readFields read m = .valid s) :
    FieldsRead read m s := by
  simp only [readFields, seq_eq_valid, map_eq_valid] at h
  obtain ⟨_, _, h, -, rfl⟩ := h
  obtain ⟨_, _, h, intOrString, rfl⟩ := h
  obtain ⟨_, _, h, preserve, rfl⟩ := h
  obtain ⟨_, _, h, -, rfl⟩ := h
  obtain ⟨_, _, h, enum, rfl⟩ := h
  obtain ⟨_, _, h, additional, rfl⟩ := h
  obtain ⟨_, _, h, items, rfl⟩ := h
  obtain ⟨_, _, h, required, rfl⟩ := h
  obtain ⟨_, _, h, properties, rfl⟩ := h
  obtain ⟨_, _, h, description, rfl⟩ := h
  obtain ⟨_, _, h, format, rfl⟩ := h
  obtain ⟨_, type, rfl⟩ := h
  exact ⟨type, format, description, properties, required, items, additional, enum, preserve,
    intOrString⟩

theorem sameUnder_readFields
    (hread : ∀ d d', Alike F d d' → SameUnder relevant (read d) (read' d'))
    (h : FieldsAgree (Alike F) m m') :
    SameUnder relevant (readFields read m) (readFields read' m') := by
  intro s s' hs hs'
  have hm := fieldsRead_of_readFields hs
  have hm' := fieldsRead_of_readFields hs'
  have plain {α : Type} {names : List Text} {read : Document → Checked α} {a a' : Option α}
      (hnames : names ⊆ plainNames) (ha : Mapping.nullable m names read = .valid a)
      (ha' : Mapping.nullable m' names read = .valid a') : a = a' :=
    (h.plain.mono hnames).eq_of_fieldOr ha ha'
  have hproperties := h.properties.sameUnder_nullable (fun _ _ hd => hd.eq_null_iff)
    (fun _ _ hd => sameUnder_readProperties hread hd) _ _ hm.properties hm'.properties
  have hitems := h.items.sameUnder_nullable (fun _ _ hd => hd.eq_null_iff) hread _ _ hm.items
    hm'.items
  have hadditional := h.additionalProperties.sameUnder_nullable (fun _ _ hd => hd.eq_null_iff)
    (fun _ _ hd => sameUnder_readAdditional hread hd) _ _ hm.additionalProperties
    hm'.additionalProperties
  rw [s.relevant_eq, s'.relevant_eq, plain (by decide) hm.type hm'.type,
    plain (by decide) hm.format hm'.format, plain (by decide) hm.description hm'.description,
    plain (by decide) hm.required hm'.required, plain (by decide) hm.enum hm'.enum,
    plain (by decide) hm.preserveUnknownFields hm'.preserveUnknownFields,
    plain (by decide) hm.intOrString hm'.intOrString, hproperties, hitems, hadditional]

end Inside

/-- Schemas that are read from documents that say the same have the same relevant part, wherever the
documents lie. -/
theorem sameUnder_readAt (depth : Nat) (around around' : List Nat) {d d' : Document}
    (h : AgreesTo (depth + 1) d d') :
    SameUnder relevant (readAt depth around d) (readAt depth around' d') := by
  induction depth generalizing around around' d d' with
  | zero => exact fun _ _ hs => by cases hs
  | succ depth ih =>
    intro s s' hs hs'
    rw [readAt] at hs hs'
    -- Both are valid, so neither lies inside itself, and the keys of both are texts.
    split at hs
    · cases hs
    split at hs'
    · cases hs'
    refine Alike.sameUnder h (fun m m' hm => ?_) s s' hs hs'
    intro s s' hs hs'
    unfold Mapping.checkingKeys at hs hs'
    split at hs
    · cases hs
    split at hs'
    · cases hs'
    exact sameUnder_readFields (fun _ _ hd => ih _ _ hd) hm s s' hs hs'

end Schema

/-! ## Definitions -/

def SchemaHolder.Agrees : Document → Document → Prop :=
  Alike (AgreesOn Schema.Agrees ["openAPIV3Schema", "open_api_v3_schema"])

structure Version.FieldsAgree (m m' : Mapping) : Prop where
  name : AgreesOn Eq ["name"] m m'
  validation : AgreesOn SchemaHolder.Agrees ["schema", "validation"] m m'

def Version.Agrees : Document → Document → Prop := Alike Version.FieldsAgree

def ResourceNames.Agrees : Document → Document → Prop := Alike (AgreesOn Eq ["kind"])

structure Definition.SpecFieldsAgree (m m' : Mapping) : Prop where
  group : AgreesOn Eq ["group"] m m'
  names : AgreesOn ResourceNames.Agrees ["names"] m m'
  scope : AgreesOn Eq ["scope"] m m'
  versions : AgreesOn (AlikeLists Version.Agrees) ["versions"] m m'

/-- Two documents say the same about a definition: they differ in keys that no field has, and in
`apiVersion`, `plural`, `singular`, `served`, `storage` and `nullable`. -/
def Definition.Agrees : Document → Document → Prop :=
  Alike (AgreesOn (Alike Definition.SpecFieldsAgree) ["spec"])

variable {d d' : Document}

theorem SchemaHolder.sameUnder_read (h : SchemaHolder.Agrees d d') :
    SameUnder SchemaHolder.relevant (SchemaHolder.read d) (SchemaHolder.read d') := by
  refine Alike.sameUnder h fun m m' hm => ?_
  intro _ _ hx hy
  obtain ⟨s, hs, rfl⟩ := map_eq_valid.1 hx
  obtain ⟨s', hs', rfl⟩ := map_eq_valid.1 hy
  have hsame := hm.sameUnder_nullable (fun _ _ hd => Alike.eq_null_iff (hd 1))
    (fun _ _ hd => Schema.sameUnder_readAt _ [] [] (hd _)) s s' hs hs'
  rw [SchemaHolder.relevant, SchemaHolder.relevant, hsame]

theorem Version.sameUnder_read (h : Version.Agrees d d') :
    SameUnder Version.relevant (Version.read d) (Version.read d') := by
  refine Alike.sameUnder h fun m m' hm => ?_
  intro v v' hv hv'
  simp only [seq_eq_valid, map_eq_valid] at hv hv'
  obtain ⟨_, _, ⟨_, _, ⟨_, _, ⟨name, hname, rfl⟩, -, rfl⟩, -, rfl⟩, hvalidation, rfl⟩ := hv
  obtain ⟨_, _, ⟨_, _, ⟨_, _, ⟨name', hname', rfl⟩, -, rfl⟩, -, rfl⟩, hvalidation', rfl⟩ := hv'
  have hholder := hm.validation.sameUnder_nullable (fun _ _ hd => Alike.eq_null_iff hd)
    (fun _ _ hd => SchemaHolder.sameUnder_read hd) _ _ hvalidation hvalidation'
  rw [Version.relevant, Version.relevant, hholder, hm.name.eq_of_fieldOr hname hname']

theorem ResourceNames.sameUnder_read (h : ResourceNames.Agrees d d') :
    SameUnder ResourceNames.kind (ResourceNames.read d) (ResourceNames.read d') := by
  refine Alike.sameUnder h fun m m' hm => ?_
  intro _ _ hx hy
  simp only [seq_eq_valid, map_eq_valid] at hx hy
  obtain ⟨_, _, ⟨_, _, ⟨kind, hkind, rfl⟩, -, rfl⟩, -, rfl⟩ := hx
  obtain ⟨_, _, ⟨_, _, ⟨kind', hkind', rfl⟩, -, rfl⟩, -, rfl⟩ := hy
  exact hm.eq_of_fieldOr hkind hkind'

namespace Definition

theorem sameUnder_readSpec (apiVersion : Text) (h : Alike SpecFieldsAgree d d') :
    SameUnder relevant (readSpec apiVersion d) (readSpec apiVersion d') := by
  refine Alike.sameUnder h fun m m' hm => ?_
  intro _ _ hx hy
  simp only [seq_eq_valid, map_eq_valid] at hx hy
  obtain ⟨_, _, ⟨_, _, ⟨_, _, ⟨_, hgroup, rfl⟩, hnames, rfl⟩, hscope, rfl⟩, hversions, rfl⟩ := hx
  obtain ⟨_, _, ⟨_, _, ⟨_, _, ⟨_, hgroup', rfl⟩, hnames', rfl⟩, hscope', rfl⟩, hversions', rfl⟩ :=
    hy
  have hkind := hm.names.sameUnder_fieldOr _ (fun _ _ hd => ResourceNames.sameUnder_read hd) _ _
    hnames hnames'
  have hsame := hm.versions.sameUnder_fieldOr (.valid [])
    (fun _ _ hd => hd.sameUnder fun _ _ hv => Version.sameUnder_read hv) _ _ hversions hversions'
  simp only [relevant, hm.group.eq_of_fieldOr hgroup hgroup',
    hm.scope.eq_of_fieldOr hscope hscope', hkind, hsame]

/-- Definitions that are read from documents that say the same have the same relevant part. -/
theorem sameUnder_read (h : Definition.Agrees d d') :
    SameUnder relevant (Definition.read d) (Definition.read d') := by
  refine Alike.sameUnder h fun m m' hm => ?_
  intro _ _ hx hy
  simp only [seq_eq_valid, map_eq_valid] at hx hy
  obtain ⟨_, e, ⟨_, _, ⟨_, -, rfl⟩, -, rfl⟩, he, rfl⟩ := hx
  obtain ⟨_, e', ⟨_, _, ⟨_, -, rfl⟩, -, rfl⟩, he', rfl⟩ := hy
  have hsame := hm.sameUnder_fieldOr _ (fun _ _ hd => sameUnder_readSpec [] hd) e e' he he'
  simp only [relevant, mk.injEq] at hsame ⊢
  exact ⟨trivial, hsame.2⟩

end Definition

/-- Documents that say the same about a definition and are both valid generate the same under
settings that differ in options without a field only: both fail with the same error, or both list
the same types, with the same sources, and the same warnings. -/
theorem map_listing_generateDefinition_of_agrees {p p' : Document} {e e' : Definition}
    (h : Definition.Agrees p p') (he : Definition.read p = .valid e)
    (he' : Definition.read p' = .valid e') (s : Settings) (extra : List (Text × Document)) :
    (generateDefinition s e).outcome.map Generation.listing =
      (generateDefinition { s with extra } e').outcome.map Generation.listing := by
  rw [map_listing_generateDefinition, map_listing_generateDefinition { s with extra },
    Definition.sameUnder_read h e e' he he']
  rfl

/-- Another version of the interface, other flags and another plural, and a field that is nullable
in one document and has a bound in the other. -/
theorem map_listing_generateDefinition_of_agrees_nullable :
    let size : Document := .map [(.str "nullable", .bool true), (.str "type", .str "integer")]
    let size' : Document := .map [(.str "minimum", .int 1), (.str "type", .str "integer")]
    let object (ps : Mapping) : Document :=
      .map [(.str "properties", .map ps), (.str "type", .str "object")]
    let root (size : Document) := object [(.str "spec", object [(.str "size", size)])]
    let version (flag : Text) (size : Document) : Document :=
      .map [(.str flag, .bool false),
        (.str "schema", .map [(.str "openAPIV3Schema", root size)]), (.str "name", .str "v1")]
    let definition (apiVersion names : Text) (version : Document) : Document :=
      .map [(.str "apiVersion", .str apiVersion),
        (.str "spec", .map
          [(.str "names", .map [(.str names, .str "w"), (.str "kind", .str "Widget")]),
            (.str "versions", .list [version]), (.str "group", .str "test.org")]),
        (.str "kind", .str "CustomResourceDefinition")]
    let p := definition "v1" "plural" (version "served" size)
    let p' := definition "v1beta1" "singular" (version "storage" size')
    Definition.Agrees p p' ∧ ∃ e e', Definition.read p = .valid e ∧ Definition.read p' = .valid e' ∧
      (generateDefinition {} e).outcome.toOption.map
          (fun g => g.types.topLevel.map TypeRecord.qualifiedName) =
        some [("org.test.v1.WidgetSpec" : Text), ("org.test.v1.Widget" : Text)] ∧
      (generateDefinition {} e).outcome.map Generation.listing =
        (generateDefinition { extra := [("unknown", .null)] } e').outcome.map
          Generation.listing := by
  intro size size' object root version definition p p'
  have hsize : Schema.Agrees size size' := by
    rintro (_ | depth)
    · trivial
    · exact ⟨.skip (by decide) (by decide) (.cons rfl .nil),
        .skip (by decide) (by decide) (.skip (by decide) (by decide) .nil),
        .skip (by decide) (by decide) (.skip (by decide) (by decide) .nil),
        .skip (by decide) (by decide) (.skip (by decide) (by decide) .nil)⟩
  have hobject (key : Text) {d d' : Document} (h : Schema.Agrees d d') :
      Schema.Agrees (object [(.str key, d)]) (object [(.str key, d')]) := by
    rintro (_ | depth)
    · trivial
    · exact ⟨.skip (by decide) (by decide) (.cons rfl .nil),
        .cons (.cons ⟨rfl, h depth⟩ .nil) (.skip (by decide) (by decide) .nil),
        .skip (by decide) (by decide) (.skip (by decide) (by decide) .nil),
        .skip (by decide) (by decide) (.skip (by decide) (by decide) .nil)⟩
  have hversion : Version.Agrees (version "served" size) (version "storage" size') := by
    have hholder : SchemaHolder.Agrees (.map [(.str "openAPIV3Schema", root size)])
        (.map [(.str "openAPIV3Schema", root size')]) :=
      .cons (hobject _ (hobject _ hsize)) .nil
    exact ⟨.skip (by decide) (by decide) (.skip (by decide) (by decide) (.cons rfl .nil)),
      .skip (by decide) (by decide) (.cons hholder (.skip (by decide) (by decide) .nil))⟩
  have hkind : ResourceNames.Agrees (.map [(.str "plural", .str "w"), (.str "kind", .str "Widget")])
      (.map [(.str "singular", .str "w"), (.str "kind", .str "Widget")]) :=
    .skip (by decide) (by decide) (.cons rfl .nil)
  have hspec : Definition.SpecFieldsAgree
      [(.str "names", .map [(.str "plural", .str "w"), (.str "kind", .str "Widget")]),
        (.str "versions", .list [version "served" size]), (.str "group", .str "test.org")]
      [(.str "names", .map [(.str "singular", .str "w"), (.str "kind", .str "Widget")]),
        (.str "versions", .list [version "storage" size']), (.str "group", .str "test.org")] :=
    ⟨.skip (by decide) (by decide) (.skip (by decide) (by decide) (.cons rfl .nil)),
      .cons hkind (.skip (by decide) (by decide) (.skip (by decide) (by decide) .nil)),
      .skip (by decide) (by decide) (.skip (by decide) (by decide)
        (.skip (by decide) (by decide) .nil)),
      .skip (by decide) (by decide) (.cons (.cons hversion .nil)
        (.skip (by decide) (by decide) .nil))⟩
  have hagrees : Definition.Agrees p p' :=
    .skip (by decide) (by decide) (.cons hspec (.skip (by decide) (by decide) .nil))
  obtain ⟨e, he, hnames⟩ : ∃ e, Definition.read p = .valid e ∧
      (generateDefinition {} e).outcome.toOption.map
          (fun g => g.types.topLevel.map TypeRecord.qualifiedName) =
        some [("org.test.v1.WidgetSpec" : Text), ("org.test.v1.Widget" : Text)] :=
    Checked.exists_eq_valid (by decide +kernel)
  obtain ⟨e', he', -⟩ : ∃ e', Definition.read p' = .valid e' ∧ e'.apiVersion = ("v1beta1" : Text) :=
    Checked.exists_eq_valid (by decide +kernel)
  exact ⟨hagrees, e, e', he, he', hnames,
    map_listing_generateDefinition_of_agrees hagrees he he' {} _⟩

end KubeJava
