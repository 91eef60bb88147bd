import KubeJava.Loading
import KubeJava.Proofs.Utf8
import KubeJava.Proofs.Writing

set_option autoImplicit false

/-! # How loading fails

Loading tells every refusal of the operating system, malformed text and values that describe
nothing as failures of its own. What it does not foresee is a path that cannot be passed on at all,
and content with any other problem: bytes that are no UTF-8, or a scalar without a value of the type
that it claims. Bytes are decoded in chunks and looked at in blocks, so in a long file something
malformed may come first; a file of one chunk that is no UTF-8 always fails for that. -/

namespace KubeJava

open FileTree

/-! ## Bytes that are no text -/

namespace Yaml.Input

open Text.Utf8 (Unfinished decodePiece)

theorem length_uniformLineEnds_le (cs : List Char) :
    (uniformLineEnds cs).length ≤ cs.length := by
  fun_induction uniformLineEnds cs with
  | case1 rest ih =>
    simp only [List.length_cons]
    omega
  | case2 rest _ ih =>
    simp only [List.length_cons]
    omega
  | case3 c rest _ _ ih =>
    simp only [List.length_cons]
    omega
  | case4 => exact Nat.le_refl 0

namespace Decoder

variable {d : Decoder} {bytes : List UInt8} {u : Unfinished}

/-- When all bytes are decoded and a character is unfinished, nothing more can be decoded. -/
theorem fill_of_unfinished (hbytes : d.bytes = []) (hunfinished : d.unfinished = some u)
    (wanted fuel : Nat) :
    fill wanted (fuel + 1) d = if wanted ≤ d.ready.length then .ok d else .error .noText := by
  have hdone : d.isDone = false := by simp [isDone, hunfinished]
  have hchunk : ∀ wanted, d.readChunk wanted = .error .noText := by
    intro wanted
    simp [readChunk, hbytes, hunfinished, decodePiece]
  rw [fill]
  simp only [hdone, Bool.or_false, decide_eq_true_eq, hchunk]
  rfl

theorem readBlock_of_unfinished (hbytes : d.bytes = []) (hunfinished : d.unfinished = some u)
    (hready : d.ready.length < blockSize) : d.readBlock = .error .noText := by
  rw [readBlock, fill_of_unfinished hbytes hunfinished, if_neg (Nat.not_le.2 hready)]
  rfl

/-- The first chunk of a short file is the whole file. -/
theorem readChunk_start (hlength : bytes.length ≤ 8192) (hne : bytes ≠ []) :
    (decodePiece none bytes = none ∧ readChunk { bytes } blockSize = .error .noText) ∨
      ∃ cs u d, decodePiece none bytes = some (cs, u) ∧
        readChunk { bytes } blockSize = .ok d ∧ d.bytes = [] ∧ d.unfinished = u ∧
        d.ready.length ≤ cs.length := by
  have hsize : chunkSize { bytes } blockSize = 8192 := by simp [chunkSize, blockSize]
  have htake : bytes.take 8192 = bytes := List.take_of_length_le hlength
  have hdrop : bytes.drop 8192 = [] := List.drop_eq_nil_of_le hlength
  have hfinal : bytes.isEmpty = false := by simpa using hne
  cases hpiece : decodePiece none bytes with
  | none =>
    refine .inl ⟨rfl, ?_⟩
    simp only [readChunk, hsize, htake, hpiece]
  | some decoded =>
    obtain ⟨cs, u⟩ := decoded
    simp only [readChunk, hsize, htake, hdrop, hpiece, hfinal, Bool.false_and, Bool.false_eq_true,
      if_false, List.nil_append]
    refine .inr ⟨cs, u, _, rfl, rfl, rfl, rfl, Nat.le_trans (length_uniformLineEnds_le _) ?_⟩
    split <;> simp

theorem fill_start (hne : bytes ≠ []) (fuel : Nat) : fill blockSize (fuel + 1) { bytes } =
    readChunk { bytes } blockSize >>= fill blockSize fuel := by
  have hdone : isDone { bytes } = false := by simp [isDone, hne]
  rw [fill]
  simp only [hdone]
  rfl

/-- Of a short file that does not end with a whole character at most one block can be read. -/
theorem readBlock_start (hlength : bytes.length ≤ 8192)
    (hwhole : ∀ cs, decodePiece none bytes ≠ some (cs, none)) :
    readBlock { bytes } = .error .noText ∨
      ∃ first d, readBlock { bytes } = .ok (first, d) ∧ d.readBlock = .error .noText := by
  have hne : bytes ≠ [] := fun hnil => hwhole [] (by rw [hnil]; rfl)
  rw [readBlock, fill_start hne]
  rcases readChunk_start hlength hne with
    ⟨-, hchunk⟩ | ⟨cs, u, d, hpiece, hchunk, hbytes, hu, hready⟩
  · rw [hchunk]
    exact .inl rfl
  obtain ⟨v, rfl⟩ : ∃ v, u = some v :=
    Option.ne_none_iff_exists'.1 fun hnone => hwhole cs (hnone ▸ hpiece)
  -- The unfinished character has a byte of its own, so a second block is never full.
  obtain ⟨pending, hencoded, -, hpending⟩ := Text.Utf8.decodePiece_eq_some hpiece
  have hbegun := List.length_pos_iff.2 (hpending v rfl).begun
  have hcs := Text.Utf8.length_le_length_encoded cs
  rw [hencoded, List.length_append] at hlength
  rw [hchunk]
  simp only [bind, Except.bind, fill_of_unfinished hbytes hu]
  by_cases hfull : blockSize ≤ d.ready.length
  · rw [if_pos hfull]
    refine .inr ⟨_, _, rfl, readBlock_of_unfinished hbytes hu ?_⟩
    simp only [List.length_drop, blockSize]
    omega
  · rw [if_neg hfull]
    exact .inl rfl

end Decoder

/-- Nothing can be read of a short file that is no text: the two blocks that are read before any
character is looked at need all its bytes. -/
theorem ofBytes_of_not_isValidUTF8 {bytes : ByteArray} (hsize : bytes.size ≤ 8192)
    (hvalid : ¬bytes.IsValidUTF8) : ofBytes bytes = { chars := [], behind := some .noText } := by
  have hlength : bytes.toList.length ≤ 8192 := by rwa [Text.Utf8.length_toList]
  have hwhole : ∀ cs, decodePiece none bytes.toList ≠ some (cs, none) := fun cs hpiece =>
    hvalid (Text.Utf8.isValidUTF8_of_decodePiece hpiece)
  rw [ofBytes]
  rcases Decoder.readBlock_start hlength hwhole with hfirst | ⟨first, d, hfirst, hsecond⟩
  · simp only [bind, Except.bind, hfirst]
  · simp only [bind, Except.bind, hfirst, hsecond]

end Yaml.Input

theorem Yaml.loadAll_of_not_isValidUTF8 {bytes : ByteArray} (hsize : bytes.size ≤ 8192)
    (hvalid : ¬bytes.IsValidUTF8) : Yaml.loadAll bytes = .error .noText := by
  rw [loadAll, readBytes, Input.ofBytes_of_not_isValidUTF8 hsize hvalid]
  rfl

theorem Yaml.load_of_not_isValidUTF8 {bytes : ByteArray} (hsize : bytes.size ≤ 8192)
    (hvalid : ¬bytes.IsValidUTF8) : Yaml.load bytes = .error .noText := by
  rw [load, readBytes, Input.ofBytes_of_not_isValidUTF8 hsize hvalid]
  rfl

/-! ## Reading files -/

namespace Path

theorem isPassable_of_refusal {p : Path} (h : ∀ fault, p.refusal? = some fault →
    fault.isRefusal = true) : p.IsPassable := by
  cases hrefusal : p.refusal? with
  | none => exact isPassable_of_refusal?_eq_none hrefusal
  | some fault =>
    have hfault := h fault hrefusal
    unfold refusal? at hrefusal
    split at hrefusal
    · obtain rfl := Option.some.inj hrefusal
      cases hfault
    · next hbytes =>
      split at hrefusal
      · obtain rfl := Option.some.inj hrefusal
        cases hfault
      · next hzero => exact ⟨by simpa using hbytes, by simpa using hzero⟩

end Path

namespace FileTree

variable {t : FileTree} {p : Path} {fault : DiskFault}

theorem readFile_of_error (h : t.resolve true p = .error fault) :
    t.readFile p = .error fault := by
  rw [readFile, h]
  rfl

/-- The reading of a file is not refused, but fails, exactly if its path cannot be passed on. -/
theorem exists_readFile_eq_error_iff :
    (∃ fault, t.readFile p = .error fault ∧ fault.isRefusal = false) ↔ ¬p.IsPassable := by
  constructor
  · rintro ⟨fault, hread, hfault⟩
    rcases resolve_true_cases t p with
      ⟨fault', hresolve⟩ | ⟨place, hresolve⟩ | ⟨place, hresolve⟩ | ⟨place, content, hresolve⟩
    · rw [readFile_of_error hresolve] at hread
      obtain rfl := Except.error.inj hread
      rcases resolve_eq_error hresolve with hrefusal | ⟨-, rfl | rfl | rfl | rfl⟩
      · exact Path.not_isPassable_of_refusal? hrefusal hfault
      all_goals cases hfault
    · rw [readFile, hresolve] at hread
      obtain rfl := Except.error.inj hread
      cases hfault
    · rw [readFile, hresolve] at hread
      obtain rfl := Except.error.inj hread
      cases hfault
    · rw [readFile_of_file hresolve] at hread
      cases hread
  · intro h
    by_contra hnone
    refine h (Path.isPassable_of_refusal fun fault hrefusal => ?_)
    by_contra hfault
    exact hnone ⟨fault, readFile_of_error (resolve_of_refusal hrefusal), by simpa using hfault⟩

end FileTree

/-! ## Loading -/

/-- The failures that loading settings tells as its own. -/
def LoadFailure.isOfSettings : LoadFailure → Bool
  | .settingsUnreadable .. | .settingsMalformed _ | .settingsNoMapping .. | .settingsInvalid .. =>
    true
  | _ => false

/-- The failures that loading definitions tells as its own. -/
def LoadFailure.isOfDefinitions : LoadFailure → Bool
  | .definitionsUnreadable .. | .definitionsMalformed _ | .definitionNoMapping ..
  | .definitionInvalid .. | .noDefinitions _ => true
  | _ => false

variable {α β : Type} {path : Path} {t : FileTree}

/-- What loading does not foresee: the path cannot be passed on, or the content has a problem other
than being malformed. -/
inductive UnforeseenLoad (read : ByteArray → Yaml.Reading α) (path : Path) (t : FileTree) :
    Prop where
  | path : ¬path.IsPassable → UnforeseenLoad read path t
  | content {bytes : ByteArray} {problem : Yaml.Problem} : t.readFile path = .ok bytes →
      read bytes = .error problem → problem ≠ .malformed → UnforeseenLoad read path t

/-- The bytes of a file in a tree, as loading reads them. -/
def bytesIn (t : FileTree) (path : Path) (unreadable : DiskFailure → LoadFailure) :
    Except LoadFailure ByteArray :=
  (t.readFile path).mapError fun fault =>
    if fault.isRefusal then unreadable ⟨fault, path⟩ else .badPath ⟨fault, path⟩

@[simp] theorem run_readFile (path : Path) (unreadable : DiskFailure → LoadFailure) (t : FileTree) :
    (readFile path unreadable : StateM FileTree (Except LoadFailure ByteArray)).run t =
      (bytesIn t path unreadable, t) := by
  cases hread : t.readFile path with
  | error fault =>
    have hrun : (Disk.readFile path : StateM FileTree (Except DiskFault ByteArray)).run t =
        (.error fault, t) := congrArg (·, t) hread
    rw [readFile, run_bind_of_eq hrun, bytesIn, hread]
    rfl
  | ok bytes =>
    have hrun : (Disk.readFile path : StateM FileTree (Except DiskFault ByteArray)).run t =
        (.ok bytes, t) := congrArg (·, t) hread
    rw [readFile, run_bind_of_eq hrun, bytesIn, hread]
    rfl

/-- Loading from a tree: what is made of the values in a file. -/
def loadFrom (t : FileTree) (path : Path) (unreadable : DiskFailure → LoadFailure)
    (malformed : LoadFailure) (read : ByteArray → Yaml.Reading α)
    (finish : α → Except LoadFailure β) : Except LoadFailure β := do
  let bytes ← bytesIn t path unreadable
  let values ← (read bytes).mapError (.ofProblem malformed)
  finish values

@[simp] theorem run_loadSettings_eq (path : Path) (t : FileTree) :
    ((loadSettings path : StateM FileTree (Except LoadFailure Settings)).run t).1 =
      loadFrom t path (.settingsUnreadable path) (.settingsMalformed path) Yaml.load
        (settingsOf path) := by
  rw [loadSettings, run_bind_of_eq (run_readFile path _ t)]
  rfl

@[simp] theorem run_loadDefinitions_eq (path : Path) (t : FileTree) :
    ((loadDefinitions path : StateM FileTree (Except LoadFailure (List Definition))).run t).1 =
      loadFrom t path (.definitionsUnreadable path) (.definitionsMalformed path) Yaml.loadAll
        (definitionsOf path) := by
  rw [loadDefinitions, run_bind_of_eq (run_readFile path _ t)]
  rfl

section

variable {unreadable : DiskFailure → LoadFailure} {malformed : LoadFailure}
  {read : ByteArray → Yaml.Reading α} {finish : α → Except LoadFailure β}

theorem loadFrom_of_readFile_error {fault : DiskFault} (hfile : t.readFile path = .error fault) :
    loadFrom t path unreadable malformed read finish =
      .error (if fault.isRefusal then unreadable ⟨fault, path⟩ else .badPath ⟨fault, path⟩) := by
  rw [loadFrom, bytesIn, hfile]
  rfl

theorem loadFrom_of_readFile {bytes : ByteArray} (hfile : t.readFile path = .ok bytes) :
    loadFrom t path unreadable malformed read finish =
      (read bytes).mapError (.ofProblem malformed) >>= finish := by
  rw [loadFrom, bytesIn, hfile]
  rfl

theorem loadFrom_of_read_error {bytes : ByteArray} {problem : Yaml.Problem}
    (hfile : t.readFile path = .ok bytes) (hread : read bytes = .error problem)
    (hproblem : problem ≠ .malformed) :
    loadFrom t path unreadable malformed read finish = .error (.badContent problem) := by
  rw [loadFrom_of_readFile hfile, hread]
  simp only [Except.mapError, LoadFailure.ofProblem, if_neg hproblem]
  rfl

/-- If all that is told otherwise is of its own, loading fails with something else exactly where it
meets what it does not foresee. -/
theorem exists_loadFrom_eq_error_iff (own : LoadFailure → Bool)
    (hunreadable : ∀ cause, own (unreadable cause) = true) (hmalformed : own malformed = true)
    (hfinish : ∀ a f, finish a = .error f → own f = true)
    (hpath : ∀ cause, own (.badPath cause) = false)
    (hcontent : ∀ problem, own (.badContent problem) = false) :
    (∃ f, loadFrom t path unreadable malformed read finish = .error f ∧ own f = false) ↔
      UnforeseenLoad read path t := by
  have hnot : ∀ {f}, own f = true → ¬own f = false := by simp
  constructor
  · rintro ⟨f, hf, hown⟩
    cases hfile : t.readFile path with
    | error fault =>
      rw [loadFrom_of_readFile_error hfile] at hf
      obtain rfl := Except.error.inj hf
      refine .path (exists_readFile_eq_error_iff.1 ⟨fault, hfile, ?_⟩)
      by_contra hrefusal
      rw [if_pos (by simpa using hrefusal)] at hown
      exact hnot (hunreadable _) hown
    | ok bytes =>
      rw [loadFrom_of_readFile hfile] at hf
      cases hread : read bytes with
      | ok a =>
        rw [hread] at hf
        exact absurd hown (hnot (hfinish a f hf))
      | error problem =>
        refine .content hfile hread ?_
        rintro rfl
        rw [hread] at hf
        obtain rfl := Except.error.inj hf
        exact hnot hmalformed hown
  · rintro (himpassable | @⟨bytes, problem, hfile, hread, hproblem⟩)
    · obtain ⟨fault, hfile, hfault⟩ := exists_readFile_eq_error_iff.2 himpassable
      refine ⟨_, loadFrom_of_readFile_error hfile, ?_⟩
      rw [hfault]
      exact hpath _
    · exact ⟨_, loadFrom_of_read_error hfile hread hproblem, hcontent problem⟩

end

/-! ## From values -/

theorem isOfSettings_of_settingsOf {value : Document} {f : LoadFailure}
    (h : settingsOf path value = .error f) : f.isOfSettings = true := by
  unfold settingsOf at h
  split at h
  · cases h
  · split at h
    · cases h
    · obtain rfl := Except.error.inj h
      rfl
  · obtain rfl := Except.error.inj h
    rfl

theorem isOfDefinitions_of_definitionsFrom {index : Nat} {values : List Document}
    {f : LoadFailure} (h : definitionsFrom path index values = .error f) :
    f.isOfDefinitions = true := by
  induction values generalizing index with
  | nil =>
    rw [definitionsFrom] at h
    cases h
  | cons value rest ih =>
    rw [definitionsFrom] at h
    split at h
    · exact ih h
    · split at h
      · obtain rfl := Except.error.inj h
        rfl
      · rcases bind_eq_error.1 h with hrest | ⟨ds, -, hds⟩
        · exact ih hrest
        · cases hds
    · obtain rfl := Except.error.inj h
      rfl

theorem isOfDefinitions_of_definitionsOf {values : List Document} {f : LoadFailure}
    (h : definitionsOf path values = .error f) : f.isOfDefinitions = true := by
  rw [definitionsOf] at h
  rcases bind_eq_error.1 h with hfrom | ⟨ds, -, hds⟩
  · exact isOfDefinitions_of_definitionsFrom hfrom
  · cases ds with
    | nil =>
      obtain rfl := Except.error.inj hds
      rfl
    | cons d ds => cases hds

theorem ne_nil_of_definitionsOf {values : List Document} {ds : List Definition}
    (h : definitionsOf path values = .ok ds) : ds ≠ [] := by
  rintro rfl
  rw [definitionsOf] at h
  cases hfrom : definitionsFrom path 0 values with
  | error f =>
    rw [hfrom] at h
    cases h
  | ok ds =>
    rw [hfrom] at h
    cases ds <;> cases h

/-! ## Loading from files -/

/-- Loading definitions gives at least one of them or a failure of its own, and loading settings
gives settings or a failure of its own, unless the path cannot be passed on or the content has a
problem other than being malformed. A file of one chunk that is no UTF-8 always has such a
problem. -/
theorem load_failures_foreseen (path : Path) (t : FileTree) :
    (∀ ds, ((loadDefinitions path : StateM FileTree (Except LoadFailure (List Definition))).run
        t).1 = .ok ds → ds ≠ []) ∧
    ((∃ f, ((loadDefinitions path : StateM FileTree (Except LoadFailure (List Definition))).run
        t).1 = .error f ∧ f.isOfDefinitions = false) ↔ UnforeseenLoad Yaml.loadAll path t) ∧
    ((∃ f, ((loadSettings path : StateM FileTree (Except LoadFailure Settings)).run t).1 =
        .error f ∧ f.isOfSettings = false) ↔ UnforeseenLoad Yaml.load path t) ∧
    ∀ bytes, t.readFile path = .ok bytes → bytes.size ≤ 8192 → ¬bytes.IsValidUTF8 →
      ((loadDefinitions path : StateM FileTree (Except LoadFailure (List Definition))).run t).1 =
          .error (.badContent .noText) ∧
        ((loadSettings path : StateM FileTree (Except LoadFailure Settings)).run t).1 =
          .error (.badContent .noText) := by
  rw [run_loadDefinitions_eq, run_loadSettings_eq]
  refine ⟨?_, ?_, ?_, ?_⟩
  · intro ds h
    obtain ⟨bytes, -, h⟩ := bind_eq_ok.1 h
    obtain ⟨values, -, h⟩ := bind_eq_ok.1 h
    exact ne_nil_of_definitionsOf h
  · exact exists_loadFrom_eq_error_iff LoadFailure.isOfDefinitions (fun _ => rfl) rfl
      (fun _ _ => isOfDefinitions_of_definitionsOf) (fun _ => rfl) (fun _ => rfl)
  · exact exists_loadFrom_eq_error_iff LoadFailure.isOfSettings (fun _ => rfl) rfl
      (fun _ _ => isOfSettings_of_settingsOf) (fun _ => rfl) (fun _ => rfl)
  · intro bytes hfile hsize hvalid
    exact ⟨loadFrom_of_read_error hfile (Yaml.loadAll_of_not_isValidUTF8 hsize hvalid) (by decide),
      loadFrom_of_read_error hfile (Yaml.load_of_not_isValidUTF8 hsize hvalid) (by decide)⟩

/-- The one byte of a file is no UTF-8. -/
theorem not_forall_load_failures_foreseen :
    (¬∀ (path : Path) (t : FileTree) (f : LoadFailure), path.IsPassable →
      ((loadDefinitions path : StateM FileTree (Except LoadFailure (List Definition))).run t).1 =
        .error f → f.isOfDefinitions = true) ∧
    ¬∀ (path : Path) (t : FileTree) (f : LoadFailure), path.IsPassable →
      ((loadSettings path : StateM FileTree (Except LoadFailure Settings)).run t).1 =
        .error f → f.isOfSettings = true := by
  let path : Path := .ofText "crd.yaml"
  let t : FileTree := FileTree.fresh.put ["work", "crd.yaml"] (.file ⟨#[0xff]⟩)
  have hpassable : path.IsPassable := ⟨by decide +kernel, by decide +kernel⟩
  have hfile : t.readFile path = .ok ⟨#[0xff]⟩ := by decide +kernel
  have hvalid : ¬ByteArray.IsValidUTF8 ⟨#[0xff]⟩ := by
    rw [← ByteArray.validateUTF8_eq_true_iff]
    decide +kernel
  constructor
  · intro hall
    have hload : ((loadDefinitions path : StateM FileTree (Except LoadFailure
        (List Definition))).run t).1 = .error (.badContent .noText) := by
      rw [run_loadDefinitions_eq]
      exact loadFrom_of_read_error hfile (Yaml.loadAll_of_not_isValidUTF8 (by decide) hvalid)
        (by decide)
    exact absurd (hall path t _ hpassable hload) (by decide)
  · intro hall
    have hload : ((loadSettings path : StateM FileTree (Except LoadFailure Settings)).run t).1 =
        .error (.badContent .noText) := by
      rw [run_loadSettings_eq]
      exact loadFrom_of_read_error hfile (Yaml.load_of_not_isValidUTF8 (by decide) hvalid)
        (by decide)
    exact absurd (hall path t _ hpassable hload) (by decide)

end KubeJava
