import KubeJava.Proofs.LoadFailures
import KubeJava.Proofs.Resolution
import Mathlib.Data.List.Forall2

set_option autoImplicit false

/-! # Definitions of a file

The documents of a file are taken one after the other. Blank ones give nothing but count; every
other one has to be a mapping that validates, and the first that does not ends the loading, whatever
comes after it. It is reported with its position among all documents. Without it the definitions of
the file are those of its documents that are not blank, in order, and there has to be one. -/

namespace KubeJava

/-! ## Documents -/

namespace Document

/-- A blank document, which holds nothing. -/
def isBlank (v : Document) : Bool :=
  match v.exposed with
  | .null => true
  | _ => false

def isMapping (v : Document) : Bool :=
  match v.exposed with
  | .map _ => true
  | _ => false

/-- The document is a mapping that validates as the definition. -/
structure Describes (v : Document) (d : Definition) : Prop where
  isMapping : v.isMapping = true
  read : Definition.read v = .valid d

/-- Whether the document describes a definition. -/
def isDefinition (v : Document) : Bool :=
  v.isMapping && match Definition.read v with
    | .valid _ => true
    | .faulty _ => false

/-- The failure for a document at a position that is neither blank nor describes a definition. -/
inductive RejectedAs (path : Path) (index : Nat) (v : Document) : LoadFailure → Prop where
  | noMapping : v.isBlank = false → v.isMapping = false →
      RejectedAs path index v (.definitionNoMapping index path v)
  | invalid {faults : List Fault} : v.isMapping = true → Definition.read v = .faulty faults →
      RejectedAs path index v (.definitionInvalid index path faults)

variable {v : Document} {d : Definition} {path : Path} {index : Nat} {f : LoadFailure}

theorem isBlank_of_isMapping (h : v.isMapping = true) : v.isBlank = false := by
  unfold isMapping at h
  unfold isBlank
  split at h
  · next hmap => rw [hmap]
  · cases h

theorem Describes.isBlank (h : v.Describes d) : v.isBlank = false :=
  isBlank_of_isMapping h.isMapping

theorem RejectedAs.isBlank (h : v.RejectedAs path index f) : v.isBlank = false := by
  cases h with
  | noMapping hblank => exact hblank
  | invalid hmap => exact isBlank_of_isMapping hmap

theorem exists_describes_iff : (∃ d, v.Describes d) ↔ v.isDefinition = true := by
  rw [isDefinition, Bool.and_eq_true]
  constructor
  · rintro ⟨d, hd⟩
    exact ⟨hd.isMapping, by rw [hd.read]⟩
  · rintro ⟨hmap, hread⟩
    cases h : Definition.read v with
    | valid d => exact ⟨d, hmap, h⟩
    | faulty faults => simp [h] at hread

/-- A document describes at most one definition, and none if it is rejected. -/
theorem Describes.unique {d' : Definition} (h : v.Describes d) (h' : v.Describes d') : d = d' :=
  Checked.valid.inj (h.read.symm.trans h'.read)

theorem RejectedAs.unique {f' : LoadFailure} (h : v.RejectedAs path index f)
    (h' : v.RejectedAs path index f') : f = f' := by
  cases h with
  | noMapping _ hmap =>
    cases h' with
    | noMapping => rfl
    | invalid hmap' => cases hmap.symm.trans hmap'
  | invalid hmap hread =>
    cases h' with
    | noMapping _ hmap' => cases hmap.symm.trans hmap'
    | invalid _ hread' =>
      obtain rfl := Checked.faulty.inj (hread.symm.trans hread')
      rfl

theorem RejectedAs.not_describes (h : v.RejectedAs path index f) : ¬v.Describes d := by
  intro hd
  cases h with
  | noMapping _ hmap => exact absurd hd.isMapping (by simp [hmap])
  | invalid _ hread => cases hd.read.symm.trans hread

/-- The position stands in what is said about the document. -/
theorem RejectedAs.message_eq (h : v.RejectedAs path index f) : f.message =
    if v.isMapping then
      "CRD validation failed for document " ++ Text.decimal index ++ " of " ++ path.text
    else
      "Document " ++ Text.decimal index ++ " of " ++ path.text ++
        " must deserialize to a mapping, got " ++ v.classText := by
  cases h with
  | noMapping _ hmap => simp [LoadFailure.message, hmap]
  | invalid hmap _ => simp [LoadFailure.message, hmap]

end Document

/-! ## One document after the other -/

variable {path : Path} {index : Nat} {value v : Document} {rest values : List Document}
  {d : Definition} {ds : List Definition} {f : LoadFailure}

/-- A document is blank, or describes a definition, or ends the loading. -/
theorem definitionsFrom_cons_cases (path : Path) (index : Nat) (value : Document)
    (rest : List Document) :
    (value.isBlank = true ∧
        definitionsFrom path index (value :: rest) = definitionsFrom path (index + 1) rest) ∨
      (∃ d, value.Describes d ∧ definitionsFrom path index (value :: rest) =
        definitionsFrom path (index + 1) rest >>= fun ds => .ok (d :: ds)) ∨
      ∃ f, value.RejectedAs path index f ∧
        definitionsFrom path index (value :: rest) = .error f := by
  rw [definitionsFrom]
  split
  · next hnull => exact .inl ⟨by simp [Document.isBlank, hnull], rfl⟩
  · next hmap =>
    have hmapping : value.isMapping = true := by simp [Document.isMapping, hmap]
    cases hread : Definition.read value with
    | faulty faults => exact .inr (.inr ⟨_, .invalid hmapping hread, rfl⟩)
    | valid d =>
      exact .inr (.inl ⟨d, ⟨hmapping, hread⟩, rfl⟩)
  · next hnull hmap =>
    refine .inr (.inr ⟨_, .noMapping ?_ ?_, rfl⟩)
    · unfold Document.isBlank
      split
      · next h => exact absurd h hnull
      · rfl
    · unfold Document.isMapping
      split
      · next h => exact absurd h (hmap _)
      · rfl

/-- Loading gives the definitions of all documents that are not blank, in order. -/
theorem definitionsFrom_eq_ok_iff : definitionsFrom path index values = .ok ds ↔
    List.Forall₂ Document.Describes (values.filter fun v => !v.isBlank) ds := by
  induction values generalizing index ds with
  | nil =>
    rw [List.filter_nil, List.forall₂_nil_left_iff, definitionsFrom, Except.ok.injEq, eq_comm]
  | cons value rest ih =>
    rcases definitionsFrom_cons_cases path index value rest with
      ⟨hblank, heq⟩ | ⟨d, hd, heq⟩ | ⟨f, hf, heq⟩
    · rw [heq, ih, List.filter_cons_of_neg (by simp [hblank])]
    · rw [heq, List.filter_cons_of_pos (by simp [hd.isBlank]), List.forall₂_cons_left_iff]
      simp only [bind_eq_ok, ih, Except.ok.injEq]
      constructor
      · rintro ⟨others, hothers, rfl⟩
        exact ⟨d, others, hd, hothers, rfl⟩
      · rintro ⟨d', others, hd', hothers, rfl⟩
        obtain rfl := hd.unique hd'
        exact ⟨others, hothers, rfl⟩
    · rw [heq, List.filter_cons_of_pos (by simp [hf.isBlank]), List.forall₂_cons_left_iff]
      simp [hf.not_describes]

/-- The first document that is neither blank nor describes a definition is rejected with the failure;
the positions of documents start at the given one. -/
def FirstRejected (path : Path) (index : Nat) (values : List Document) (f : LoadFailure) : Prop :=
  ∃ before v after, values = before ++ v :: after ∧
    (∀ u ∈ before, u.isBlank = true ∨ ∃ d, u.Describes d) ∧
    v.RejectedAs path (index + before.length) f

/-- One more document in front, which is passed over, only moves the positions. -/
theorem firstRejected_cons_iff (h : value.isBlank = true ∨ ∃ d, value.Describes d) :
    FirstRejected path index (value :: rest) f ↔ FirstRejected path (index + 1) rest f := by
  constructor
  · rintro ⟨before, v, after, heq, hbefore, hv⟩
    cases before with
    | nil =>
      obtain ⟨rfl, rfl⟩ := List.cons.inj heq
      rcases h with hblank | ⟨d, hd⟩
      · exact absurd hblank (by simp [hv.isBlank])
      · exact absurd hd hv.not_describes
    | cons u before =>
      obtain ⟨rfl, rfl⟩ := List.cons.inj heq
      refine ⟨before, v, after, rfl, (List.forall_mem_cons.1 hbefore).2, ?_⟩
      rwa [List.length_cons, show index + (before.length + 1) = index + 1 + before.length by omega]
        at hv
  · rintro ⟨before, v, after, rfl, hbefore, hv⟩
    refine ⟨value :: before, v, after, rfl, List.forall_mem_cons.2 ⟨h, hbefore⟩, ?_⟩
    rwa [List.length_cons, show index + (before.length + 1) = index + 1 + before.length by omega]

/-- Loading fails exactly for the first document that is neither blank nor describes a definition. -/
theorem definitionsFrom_eq_error_iff :
    definitionsFrom path index values = .error f ↔ FirstRejected path index values f := by
  induction values generalizing index with
  | nil => simp [definitionsFrom, FirstRejected]
  | cons value rest ih =>
    rcases definitionsFrom_cons_cases path index value rest with
      ⟨hblank, heq⟩ | ⟨d, hd, heq⟩ | ⟨f', hf', heq⟩
    · rw [heq, ih, firstRejected_cons_iff (.inl hblank)]
    · rw [heq, bind_eq_error, ih, firstRejected_cons_iff (.inr ⟨d, hd⟩)]
      simp
    · -- The loading ends here, and no split further on has this document before it.
      rw [heq, Except.error.injEq]
      constructor
      · rintro rfl
        exact ⟨[], value, rest, rfl, List.forall_mem_nil _, hf'⟩
      · rintro ⟨before, v, after, hsplit, hbefore, hv⟩
        cases before with
        | nil =>
          obtain ⟨rfl, rfl⟩ := List.cons.inj hsplit
          exact hf'.unique hv
        | cons u before =>
          obtain ⟨rfl, rfl⟩ := List.cons.inj hsplit
          rcases (List.forall_mem_cons.1 hbefore).1 with hblank | ⟨d, hd⟩
          · exact absurd hblank (by simp [hf'.isBlank])
          · exact absurd hd hf'.not_describes

/-! ## All documents of a file -/

theorem definitionsOf_eq_ok_iff : definitionsOf path values = .ok ds ↔
    ds ≠ [] ∧ List.Forall₂ Document.Describes (values.filter fun v => !v.isBlank) ds := by
  rw [definitionsOf, bind_eq_ok]
  simp only [definitionsFrom_eq_ok_iff]
  constructor
  · rintro ⟨ds', hds', h⟩
    cases ds' with
    | nil => cases h
    | cons d ds' =>
      cases h
      exact ⟨by simp, hds'⟩
  · rintro ⟨hne, h⟩
    obtain ⟨d, others, rfl⟩ := List.exists_cons_of_ne_nil hne
    exact ⟨_, h, rfl⟩

theorem definitionsFrom_eq_nil_iff :
    definitionsFrom path index values = .ok [] ↔ ∀ v ∈ values, v.isBlank = true := by
  rw [definitionsFrom_eq_ok_iff, List.forall₂_nil_right_iff, List.filter_eq_nil_iff]
  simp

theorem definitionsOf_eq_error_iff : definitionsOf path values = .error f ↔
    FirstRejected path 0 values f ∨
      (∀ v ∈ values, v.isBlank = true) ∧ f = .noDefinitions path := by
  rw [definitionsOf, bind_eq_error, definitionsFrom_eq_error_iff]
  have hnil : definitionsFrom path 0 values = .ok [] ↔ ∀ v ∈ values, v.isBlank = true :=
    definitionsFrom_eq_nil_iff
  rw [← hnil]
  refine or_congr Iff.rfl ?_
  constructor
  · rintro ⟨ds, hds, h⟩
    cases ds with
    | nil =>
      cases h
      exact ⟨hds, rfl⟩
    | cons d ds => cases h
  · rintro ⟨hds, rfl⟩
    exact ⟨[], hds, rfl⟩

theorem exists_forall₂_describes_iff :
    (∃ ds, List.Forall₂ Document.Describes values ds) ↔ ∀ v ∈ values, ∃ d, v.Describes d := by
  induction values with
  | nil => exact iff_of_true ⟨[], .nil⟩ (List.forall_mem_nil _)
  | cons value rest ih =>
    simp only [List.forall₂_cons_left_iff, List.forall_mem_cons, ← ih]
    constructor
    · rintro ⟨_, d, ds, hd, hds, rfl⟩
      exact ⟨⟨d, hd⟩, ds, hds⟩
    · rintro ⟨⟨d, hd⟩, ds, hds⟩
      exact ⟨_, d, ds, hd, hds, rfl⟩

/-- There are definitions to give exactly if some document is not blank and each such document
describes one. -/
theorem exists_definitionsOf_iff : (∃ ds, definitionsOf path values = .ok ds) ↔
    (∃ v ∈ values, v.isBlank = false) ∧
      ∀ v ∈ values, v.isBlank = false → ∃ d, v.Describes d := by
  have hall : (∃ ds, List.Forall₂ Document.Describes (values.filter fun v => !v.isBlank) ds) ↔
      ∀ v ∈ values, v.isBlank = false → ∃ d, v.Describes d := by
    rw [exists_forall₂_describes_iff]
    simp
  rw [← hall]
  simp only [definitionsOf_eq_ok_iff]
  constructor
  · rintro ⟨ds, hne, hds⟩
    refine ⟨?_, ds, hds⟩
    obtain ⟨d, others, rfl⟩ := List.exists_cons_of_ne_nil hne
    obtain ⟨v, rest, -, -, heq⟩ := List.forall₂_cons_right_iff.1 hds
    have hv : v ∈ values.filter fun v => !v.isBlank := by simp [heq]
    exact ⟨v, List.mem_of_mem_filter hv, by simpa using List.of_mem_filter hv⟩
  · rintro ⟨⟨v, hv, hblank⟩, ds, hds⟩
    refine ⟨ds, ?_, hds⟩
    rintro rfl
    have hnil := List.forall₂_nil_right_iff.1 hds
    exact absurd (List.filter_eq_nil_iff.1 hnil v hv) (by simp [hblank])

theorem run_loadDefinitions_of_documents {t : FileTree} {bytes : ByteArray}
    (hfile : t.readFile path = .ok bytes) (hread : Yaml.loadAll bytes = .ok values) :
    ((loadDefinitions path : StateM FileTree (Except LoadFailure (List Definition))).run t).1 =
      definitionsOf path values := by
  rw [run_loadDefinitions_eq, loadFrom_of_readFile hfile, hread]
  rfl

/-- A file whose content is well formed gives what its documents describe. There are definitions to
give exactly if some document is not blank and every such document is a mapping that validates; they
are then those of these documents, in order. Otherwise the failure is about the first document that
is neither blank nor validates, and its message names the position of that among all documents, or
it says that there is no definition, because all documents are blank. -/
theorem definitions_of_documents (path : Path) (values : List Document) :
    (∀ (t : FileTree) (bytes : ByteArray), t.readFile path = .ok bytes →
      Yaml.loadAll bytes = .ok values →
      ((loadDefinitions path : StateM FileTree (Except LoadFailure (List Definition))).run t).1 =
        definitionsOf path values) ∧
    ((∃ ds, definitionsOf path values = .ok ds) ↔
      (∃ v ∈ values, v.isBlank = false) ∧
        ∀ v ∈ values, v.isBlank = false → ∃ d, v.Describes d) ∧
    (∀ ds, definitionsOf path values = .ok ds →
      List.Forall₂ Document.Describes (values.filter fun v => !v.isBlank) ds) ∧
    (∀ f, definitionsOf path values = .error f ↔ FirstRejected path 0 values f ∨
      (∀ v ∈ values, v.isBlank = true) ∧ f = .noDefinitions path) ∧
    ∀ (v : Document) (index : Nat) (f : LoadFailure), v.RejectedAs path index f →
      f.message =
        if v.isMapping then
          "CRD validation failed for document " ++ Text.decimal index ++ " of " ++ path.text
        else
          "Document " ++ Text.decimal index ++ " of " ++ path.text ++
            " must deserialize to a mapping, got " ++ v.classText :=
  ⟨fun _ _ hfile hread => run_loadDefinitions_of_documents hfile hread, exists_definitionsOf_iff,
    fun _ h => (definitionsOf_eq_ok_iff.1 h).2, fun _ => definitionsOf_eq_error_iff,
    fun _ _ _ h => h.message_eq⟩

/-- A blank document, a definition, a list and another blank document: the list is the third. -/
theorem definitions_of_documents_blank :
    let path : Path := .ofText "crd.yaml"
    let text : String := "---\n---\napiVersion: v1\nkind: CustomResourceDefinition\nspec:\n" ++
      "  group: test.org\n  names:\n    kind: Foo\n---\n- 1\n---\n"
    let t : FileTree := FileTree.fresh.put ["work", "crd.yaml"] (.file text.toUTF8)
    ∃ (v : Document) (f : LoadFailure), v.RejectedAs path 2 f ∧
      ((loadDefinitions path : StateM FileTree (Except LoadFailure (List Definition))).run t).1 =
        .error f ∧
      f.message = "Document 2 of crd.yaml must deserialize to a mapping, got <class 'list'>" := by
  intro path text t
  have hfile : t.readFile path = .ok text.toUTF8 := rfl
  obtain ⟨values, hread, hvalues⟩ : ∃ values, Yaml.loadAll text.toUTF8 = .ok values ∧
      values.map (fun v => (v.isBlank, v.isMapping, v.isDefinition, v.classText)) =
        [(true, false, false, ("<class 'NoneType'>" : Text)),
          (false, true, true, ("<class 'dict'>" : Text)),
          (false, false, false, ("<class 'list'>" : Text)),
          (true, false, false, ("<class 'NoneType'>" : Text))] :=
    exists_eq_ok (by decide +kernel)
  simp only [List.map_eq_cons_iff, List.map_eq_nil_iff, Prod.mk.injEq] at hvalues
  obtain ⟨first, _, rfl, ⟨hblank, -⟩, second, _, rfl, ⟨-, -, hdefinition, -⟩, third, _, rfl,
    ⟨hsome, hlist, -, hclass⟩, last, _, rfl, -, rfl⟩ := hvalues
  obtain ⟨hrun, -, -, herror, hmessage⟩ :=
    definitions_of_documents path [first, second, third, last]
  have hrejected : third.RejectedAs path 2 (.definitionNoMapping 2 path third) :=
    .noMapping hsome hlist
  have hfirst : FirstRejected path 0 [first, second, third, last]
      (.definitionNoMapping 2 path third) := by
    refine ⟨[first, second], third, [last], rfl, ?_, hrejected⟩
    simp [hblank, Document.exists_describes_iff, hdefinition]
  refine ⟨third, _, hrejected, (hrun t _ hfile hread).trans ((herror _).2 (.inl hfirst)), ?_⟩
  rw [hmessage third 2 _ hrejected, if_neg (by simp [hlist]), hclass]
  decide +kernel

end KubeJava
