import KubeJava.Proofs.Growth
import Mathlib.Logic.Relation

set_option autoImplicit false

/-! # Looking at entries and creating directories

Each operation on a tree is read off from what its path leads to. Creating a directory together with
those above it is a run of single creations, each at a path that leads up to the one asked for;
whatever one creation keeps, the run keeps. -/

namespace KubeJava

/-! ## Paths above -/

namespace Path

variable {p q r : Path}

/-- The path is the other one or leads to a directory above. -/
def LeadsUpTo (q p : Path) : Prop := q.anchor = p.anchor ∧ q.components <+: p.components

theorem LeadsUpTo.refl (p : Path) : p.LeadsUpTo p := ⟨rfl, List.prefix_rfl⟩

theorem LeadsUpTo.trans (h : q.LeadsUpTo p) (h' : p.LeadsUpTo r) : q.LeadsUpTo r :=
  ⟨h.1.trans h'.1, h.2.trans h'.2⟩

theorem leadsUpTo_parent (p : Path) : p.parent.LeadsUpTo p := ⟨rfl, List.dropLast_prefix _⟩

/-- What holds of a path if it holds of the one above it holds of every path. -/
theorem parent_induction {P : Path → Prop}
    (step : ∀ p, (p.components ≠ [] → P p.parent) → P p) (p : Path) : P p :=
  step p fun _ => parent_induction step p.parent
termination_by p.components.length
decreasing_by
  have := List.length_pos_iff.2 ‹_›
  simp only [Path.parent, List.length_dropLast]
  omega

theorem isPrefix_intercalate {α : Type} (sep : List α) {xs ys : List (List α)} (h : xs <+: ys) :
    sep.intercalate xs <+: sep.intercalate ys := by
  induction xs generalizing ys with
  | nil => exact List.nil_prefix
  | cons x xs ih =>
    cases ys with
    | nil => simp at h
    | cons y ys =>
      obtain ⟨rfl, hrest⟩ := List.cons_prefix_cons.1 h
      cases xs with
      | nil =>
        cases ys with
        | nil => exact List.prefix_rfl
        | cons y' ys =>
          rw [List.intercalate_singleton, List.intercalate_cons_cons, List.append_assoc]
          exact List.prefix_append _ _
      | cons x' xs =>
        cases ys with
        | nil => simp at hrest
        | cons y' ys =>
          rw [List.intercalate_cons_cons, List.intercalate_cons_cons]
          exact (List.prefix_append_right_inj _).2 (ih hrest)

theorem text_parent (p : Path) : p.parent.text = "." ∨ p.parent.text <+: p.text := by
  by_cases hempty : p.parent.anchor = [] ∧ p.parent.components = []
  · left
    rw [text, if_pos hempty]
  · right
    have hnonempty : ¬(p.anchor = [] ∧ p.components = []) := by
      rintro ⟨hanchor, hcomponents⟩
      exact hempty ⟨hanchor, by rw [parent, hcomponents]; rfl⟩
    rw [text, text, if_neg hempty, if_neg hnonempty]
    exact (List.prefix_append_right_inj _).2
      (isPrefix_intercalate _ (List.dropLast_prefix p.components))

theorem byteSize_le_of_isPrefix {a b : Text} (h : a <+: b) : byteSize a ≤ byteSize b := by
  obtain ⟨rest, rfl⟩ := h
  simp only [byteSize, List.foldl_append]
  generalize a.foldl _ 0 = size
  induction rest generalizing size with
  | nil => exact Nat.le_refl _
  | cons c rest ih => exact Nat.le_trans (Nat.le_add_right _ _) (ih _)

/-- The path can be passed to the operating system. -/
def IsPassable (p : Path) : Prop := hasBytes p.text = true ∧ ('\x00' : CodePoint) ∉ p.text

theorem IsPassable.parent (h : p.IsPassable) : p.parent.IsPassable := by
  obtain ⟨hbytes, hzero⟩ := h
  rcases text_parent p with hdot | hstart
  · rw [IsPassable, hdot]
    decide
  · refine ⟨?_, fun hmem => hzero (hstart.subset hmem)⟩
    rw [hasBytes, List.all_eq_true] at hbytes ⊢
    exact fun c hc => hbytes c (hstart.subset hc)

theorem refusal?_of_isPassable (h : p.IsPassable) : p.refusal? =
    if FileTree.maxPathBytes < byteSize p.text then some .nameTooLong else none := by
  obtain ⟨hbytes, hzero⟩ := h
  rw [refusal?, if_neg (by simp [hbytes]), if_neg (by simpa using hzero)]

theorem isPassable_of_refusal?_eq_none (h : p.refusal? = none) : p.IsPassable := by
  unfold refusal? at h
  split at h
  · cases h
  · next hbytes =>
    split at h
    · cases h
    · next hzero => exact ⟨by simpa using hbytes, by simpa using hzero⟩

/-- A path is refused for want of bytes, for a zero character or for its length. -/
theorem refusal?_cases {fault : DiskFault} (h : p.refusal? = some fault) :
    fault = .noEncoding ∨ fault = .zeroCharacter ∨ fault = .nameTooLong := by
  unfold refusal? at h
  split at h
  · exact .inl (Option.some.inj h).symm
  · split at h
    · exact .inr (.inl (Option.some.inj h).symm)
    · split at h
      · exact .inr (.inr (Option.some.inj h).symm)
      · cases h

/-- Only a path that cannot be passed on is refused by the program itself. -/
theorem not_isPassable_of_refusal? {fault : DiskFault} (h : p.refusal? = some fault)
    (hfault : fault.isRefusal = false) : ¬p.IsPassable := by
  intro hpassable
  rw [refusal?_of_isPassable hpassable] at h
  split at h
  · obtain rfl := Option.some.inj h
    cases hfault
  · cases h

/-- The path above one that is not refused is not refused either. -/
theorem refusal?_parent (h : p.refusal? = none) : p.parent.refusal? = none := by
  have hpassable := isPassable_of_refusal?_eq_none h
  rw [refusal?_of_isPassable hpassable] at h
  rw [refusal?_of_isPassable hpassable.parent, if_neg]
  rcases text_parent p with hdot | hstart
  · rw [hdot]
    decide
  · have hsize := byteSize_le_of_isPrefix hstart
    split at h
    · cases h
    · omega

end Path

/-- What a look at an entry tells that a path leads to. -/
def Entry.kind : Entry → EntryKind
  | .directory => .directory
  | _ => .file

namespace FileTree

open Relation (ReflTransGen)

variable {t t' : FileTree} {last existing : Bool} {p : Path} {place : Place} {e : Entry}
  {kind : EntryKind} {fault : DiskFault}

/-! ## Operations -/

/-- Why a path leads nowhere. -/
theorem resolve_eq_error (h : t.resolve last p = .error fault) :
    p.refusal? = some fault ∨ p.refusal? = none ∧ (fault = .nameTooLong ∨ fault = .noEntry ∨
      fault = .notDirectory ∨ fault = .tooManyLinks) := by
  cases hrefusal : p.refusal? with
  | some f =>
    rw [resolve_of_refusal hrefusal] at h
    obtain rfl := Except.error.inj h
    exact .inl rfl
  | none =>
    rw [resolve_of_accepted hrefusal] at h
    exact .inr ⟨rfl, endAt_eq_error h⟩

theorem kindOf_of_found (h : t.resolve true p = .ok (.found place e)) :
    t.kindOf p = .ok e.kind := by
  rw [kindOf, h]
  cases e <;> rfl

theorem kindOf_of_absent (h : t.resolve true p = .ok (.absent place)) :
    t.kindOf p = .error .noEntry := by
  rw [kindOf, h]
  rfl

theorem kindOf_of_error (h : t.resolve true p = .error fault) : t.kindOf p = .error fault := by
  rw [kindOf, h]
  rfl

theorem kindOf_eq_error (h : t.kindOf p = .error fault) :
    p.refusal? = some fault ∨ p.refusal? = none ∧ (fault = .nameTooLong ∨ fault = .noEntry ∨
      fault = .notDirectory ∨ fault = .tooManyLinks) := by
  cases hresolve : t.resolve true p with
  | error f =>
    rw [kindOf_of_error hresolve] at h
    obtain rfl := Except.error.inj h
    exact resolve_eq_error hresolve
  | ok target =>
    cases target with
    | found place e => simp [kindOf_of_found hresolve] at h
    | absent place =>
      rw [kindOf_of_absent hresolve] at h
      obtain rfl := Except.error.inj h
      exact .inr ⟨(resolve_eq_ok.1 hresolve).1, .inr (.inl rfl)⟩

theorem makeDirectory_of_error (h : t.resolve false p = .error fault) :
    t.makeDirectory p = .error fault := by
  rw [makeDirectory, h]
  rfl

theorem makeDirectory_of_found (h : t.resolve false p = .ok (.found place e)) :
    t.makeDirectory p = .error .entryExists := by
  rw [makeDirectory, h]
  rfl

theorem makeDirectory_of_absent (h : t.resolve false p = .ok (.absent place)) :
    t.makeDirectory p = .ok (t.put place .directory) := by
  rw [makeDirectory, h]
  rfl

theorem makeDirectory_eq_ok (h : t.makeDirectory p = .ok t') :
    ∃ place, t.resolve false p = .ok (.absent place) ∧ t' = t.put place .directory := by
  cases hresolve : t.resolve false p with
  | error fault => simp [makeDirectory_of_error hresolve] at h
  | ok target =>
    cases target with
    | found place e => simp [makeDirectory_of_found hresolve] at h
    | absent place =>
      rw [makeDirectory_of_absent hresolve] at h
      exact ⟨place, rfl, (Except.ok.inj h).symm⟩

theorem makeDirectory_eq_error (h : t.makeDirectory p = .error fault) :
    p.refusal? = some fault ∨ p.refusal? = none ∧ fault.isRefusal = true := by
  cases hresolve : t.resolve false p with
  | error f =>
    rw [makeDirectory_of_error hresolve] at h
    obtain rfl := Except.error.inj h
    rcases resolve_eq_error hresolve with hrefusal | ⟨hrefusal, rfl | rfl | rfl | rfl⟩
    · exact .inl hrefusal
    all_goals exact .inr ⟨hrefusal, rfl⟩
  | ok target =>
    cases target with
    | found place e =>
      rw [makeDirectory_of_found hresolve] at h
      obtain rfl := Except.error.inj h
      exact .inr ⟨(resolve_eq_ok.1 hresolve).1, rfl⟩
    | absent place => simp [makeDirectory_of_absent hresolve] at h

/-- The directory is there after it has been created. -/
theorem kindOf_of_makeDirectory (h : t.makeDirectory p = .ok t') : t'.kindOf p = .ok .directory := by
  obtain ⟨place, habsent, rfl⟩ := makeDirectory_eq_ok h
  have hput : (t.put place .directory).resolve true p = .ok (.found place .directory) :=
    resolve_put habsent nofun
  exact kindOf_of_found hput

/-! ## Runs of creations -/

/-- One directory has been created, at the path or above it. -/
def AddsUpTo (p : Path) (t t' : FileTree) : Prop := ∃ q, q.LeadsUpTo p ∧ t.makeDirectory q = .ok t'

variable {q : Path}

theorem reached_mono (hq : q.LeadsUpTo p) (h : ReflTransGen (AddsUpTo q) t t') :
    ReflTransGen (AddsUpTo p) t t' := by
  refine ReflTransGen.mono ?_ _ _ h
  rintro t t' ⟨r, hr, hmade⟩
  exact ⟨r, hr.trans hq, hmade⟩

/-- What is new after a run of creations is a directory at the path or above it. -/
theorem growsTo_of_reached (h : ReflTransGen (AddsUpTo p) t t') :
    t.GrowsTo (fun place e => e = .directory ∧
      ∃ q, q.LeadsUpTo p ∧ t'.resolve true q = .ok (.found place .directory)) t' := by
  induction h using ReflTransGen.head_induction_on with
  | refl => exact GrowsTo.refl _ _
  | head hstep hrun ih =>
    obtain ⟨q, hq, hmade⟩ := hstep
    obtain ⟨place, habsent, rfl⟩ := makeDirectory_eq_ok hmade
    refine ((growsTo_put (get?_of_resolve_eq_absent habsent)).mono ?_).trans ih
    rintro other e ⟨rfl, rfl⟩
    exact ⟨rfl, q, hq, ih.resolve_eq_found (resolve_put habsent nofun)⟩

/-! ## Looks at entries -/

theorem run_bind_of_eq {α β : Type} {action : StateM FileTree α} {next : α → StateM FileTree β}
    {a : α} (h : action.run t = (a, t')) : (action >>= next).run t = (next a).run t' := by
  rw [StateT.run_bind, h]
  rfl

@[simp] theorem run_kindOf (t : FileTree) (p : Path) :
    (Disk.kindOf p : StateM FileTree (Except DiskFault EntryKind)).run t = (t.kindOf p, t) := rfl

/-- What a look at an entry tells. -/
def look (t : FileTree) (test : EntryKind → Bool) (p : Path) : Except DiskFailure Bool :=
  match t.kindOf p with
  | .ok kind => .ok (test kind)
  | .error fault => if fault.meansAbsent then .ok false else .error ⟨fault, p⟩

@[simp] theorem run_leadsTo (t : FileTree) (test : EntryKind → Bool) (p : Path) :
    (Disk.leadsTo test p : StateM FileTree (Except DiskFailure Bool)).run t = (t.look test p, t) := by
  rw [Disk.leadsTo, run_bind_of_eq (run_kindOf t p), look]
  cases t.kindOf p with
  | ok kind => rfl
  | error fault => rfl

theorem look_eq_true {test : EntryKind → Bool} (h : t.look test p = .ok true) :
    ∃ kind, t.kindOf p = .ok kind ∧ test kind = true := by
  unfold look at h
  split at h
  · next kind hkind => exact ⟨kind, hkind, Except.ok.inj h⟩
  · split at h <;> simp at h

theorem look_eq_false {test : EntryKind → Bool} (h : t.look test p = .ok false) :
    (∃ kind, t.kindOf p = .ok kind ∧ test kind = false) ∨
      ∃ fault, t.kindOf p = .error fault ∧ fault.meansAbsent = true := by
  unfold look at h
  split at h
  · next kind hkind => exact .inl ⟨kind, hkind, Except.ok.inj h⟩
  · next fault hfault =>
    split at h
    · next habsent => exact .inr ⟨fault, hfault, habsent⟩
    · cases h

/-- A look fails only at a name or a path that is too long. -/
theorem look_eq_error_iff {test : EntryKind → Bool} {cause : DiskFailure} :
    t.look test p = .error cause ↔
      t.kindOf p = .error .nameTooLong ∧ cause = ⟨.nameTooLong, p⟩ := by
  constructor
  · intro h
    unfold look at h
    split at h
    · cases h
    · next fault hfault =>
      split at h
      · cases h
      · next habsent =>
        have hlong : fault = .nameTooLong := by
          rcases kindOf_eq_error hfault with hrefusal | ⟨-, rfl | rfl | rfl | rfl⟩
          · rcases Path.refusal?_cases hrefusal with rfl | rfl | rfl
            · exact absurd rfl habsent
            · exact absurd rfl habsent
            · rfl
          · rfl
          all_goals exact absurd rfl habsent
        subst hlong
        exact ⟨hfault, (Except.error.inj h).symm⟩
  · rintro ⟨hkind, rfl⟩
    rw [look, hkind]
    rfl

/-! ## Creating directories -/

theorem run_makeDirectory_of_ok (h : t.makeDirectory p = .ok t') :
    (Disk.makeDirectory p : StateM FileTree (Except DiskFault Unit)).run t = (.ok (), t') := by
  show step (fun t => t.makeDirectory p) t = _
  rw [step, h]

theorem run_makeDirectory_of_error (h : t.makeDirectory p = .error fault) :
    (Disk.makeDirectory p : StateM FileTree (Except DiskFault Unit)).run t = (.error fault, t) := by
  show step (fun t => t.makeDirectory p) t = _
  rw [step, h]

/-- How the creation of directories ends. -/
structure DirectoriesCreated (existing : Bool) (p : Path) (t : FileTree)
    (ended : Except DiskFailure Unit × FileTree) : Prop where
  reached : ReflTransGen (AddsUpTo p) t ended.2
  leads : ended.1 = .ok () → ended.2.kindOf p = .ok .directory
  /-- If no existing directory will do, the last step creates the one asked for. -/
  made : ended.1 = .ok () → existing = false →
    ∃ before, ReflTransGen (AddsUpTo p) t before ∧ before.makeDirectory p = .ok ended.2
  /-- Nothing is created at a path that is refused. -/
  refused : ∀ fault, p.refusal? = some fault → ended = (.error ⟨fault, p⟩, t)
  /-- Other than by the operating system nothing but the path itself is refused. -/
  refusal : ∀ cause, ended.1 = .error cause → cause.fault.isRefusal = false →
    p.refusal? = some cause.fault

theorem directoriesCreated_of_makeDirectory (h : t.makeDirectory p = .ok t') :
    DirectoriesCreated existing p t (.ok (), t') where
  reached := ReflTransGen.single ⟨p, Path.LeadsUpTo.refl p, h⟩
  leads _ := kindOf_of_makeDirectory h
  made _ _ := ⟨t, ReflTransGen.refl, h⟩
  refused fault hrefusal := by
    obtain ⟨place, hresolve, -⟩ := makeDirectory_eq_ok h
    simp [resolve_of_refusal hrefusal] at hresolve
  refusal _ hcause := nomatch hcause

theorem directoriesCreated_of_kindOf (h : t.kindOf p = .ok .directory) :
    DirectoriesCreated true p t (.ok (), t) where
  reached := ReflTransGen.refl
  leads _ := h
  made _ hnew := nomatch hnew
  refused fault hrefusal := by simp [kindOf_of_error (resolve_of_refusal hrefusal)] at h
  refusal _ hcause := nomatch hcause

theorem directoriesCreated_of_error
    (h : p.refusal? = some fault ∨ p.refusal? = none ∧ fault.isRefusal = true) :
    DirectoriesCreated existing p t (.error ⟨fault, p⟩, t) where
  reached := ReflTransGen.refl
  leads hok := nomatch hok
  made hok := nomatch hok
  refused fault' hrefusal := by
    rcases h with h | ⟨h, -⟩
    · obtain rfl := Option.some.inj (h.symm.trans hrefusal)
      rfl
    · simp [h] at hrefusal
  refusal cause hcause hfault := by
    obtain rfl := Except.error.inj hcause
    rcases h with h | ⟨-, h⟩
    · exact h
    · simp [h] at hfault

theorem directoriesCreated_acceptExisting (existing : Bool) (t : FileTree)
    (h : p.refusal? = some fault ∨ p.refusal? = none ∧ fault.isRefusal = true) :
    DirectoriesCreated existing p t
      ((Disk.acceptExisting existing p fault : StateM FileTree (Except DiskFailure Unit)).run t) := by
  rw [Disk.acceptExisting]
  split
  · exact directoriesCreated_of_error h
  · next haccept =>
    -- Whatever the refusal was, a directory that is there will do.
    rw [Disk.isDirectory, run_bind_of_eq (run_leadsTo t _ p)]
    cases hlook : t.look (· = .directory) p with
    | error cause =>
      obtain ⟨hlong, rfl⟩ := look_eq_error_iff.1 hlook
      refine directoriesCreated_of_error ((kindOf_eq_error hlong).imp_right ?_)
      exact fun hnone => ⟨hnone.1, rfl⟩
    | ok there =>
      cases there with
      | false => exact directoriesCreated_of_error h
      | true =>
        obtain ⟨kind, hkind, htest⟩ := look_eq_true hlook
        obtain rfl : kind = .directory := by simpa using htest
        obtain rfl : existing = true := by
          cases existing <;> simp_all
        exact directoriesCreated_of_kindOf hkind

/-- A missing entry is no reason to refuse the path. -/
theorem refusal?_of_makeDirectory_noEntry (h : t.makeDirectory p = .error .noEntry) :
    p.refusal? = none := by
  rcases makeDirectory_eq_error h with hrefusal | ⟨hrefusal, -⟩
  · rcases Path.refusal?_cases hrefusal with h | h | h <;> cases h
  · exact hrefusal

theorem directoriesCreated_createDirectory (existing : Bool) (p : Path) (t : FileTree) :
    DirectoriesCreated existing p t
      ((Disk.createDirectory existing p : StateM FileTree (Except DiskFailure Unit)).run t) := by
  rw [Disk.createDirectory]
  cases hmake : t.makeDirectory p with
  | ok t' =>
    rw [run_bind_of_eq (run_makeDirectory_of_ok hmake)]
    exact directoriesCreated_of_makeDirectory hmake
  | error fault =>
    rw [run_bind_of_eq (run_makeDirectory_of_error hmake)]
    split
    · contradiction
    · next hmissing =>
      cases hmissing
      exact directoriesCreated_of_error (.inr ⟨refusal?_of_makeDirectory_noEntry hmake, rfl⟩)
    · next hother =>
      cases hother
      exact directoriesCreated_acceptExisting existing t (makeDirectory_eq_error hmake)

/-- If the directories above the path cannot be created, neither is the one at the path. -/
theorem DirectoriesCreated.stopped {failure : DiskFailure} {above : FileTree}
    (h : DirectoriesCreated true p.parent t (.error failure, above)) (hrefusal : p.refusal? = none) :
    DirectoriesCreated existing p t (.error failure, above) := by
  refine ⟨reached_mono (Path.leadsUpTo_parent p) h.reached, nofun, nofun, ?_, ?_⟩
  · intro fault hfault
    simp [hrefusal] at hfault
  · intro cause hcause hfault
    -- The path above would be refused although the path itself is not.
    have hparent := h.refusal cause hcause hfault
    rw [Path.refusal?_parent hrefusal] at hparent
    cases hparent

/-- After the directories above the path the one at the path is created. -/
theorem DirectoriesCreated.below {above : FileTree}
    (h : DirectoriesCreated true p.parent t (.ok (), above)) (hrefusal : p.refusal? = none) :
    DirectoriesCreated existing p t ((Disk.createDirectory existing p :
      StateM FileTree (Except DiskFailure Unit)).run above) := by
  have hreached := reached_mono (Path.leadsUpTo_parent p) h.reached
  have hbelow := directoriesCreated_createDirectory existing p above
  refine ⟨hreached.trans hbelow.reached, hbelow.leads, ?_, ?_, hbelow.refusal⟩
  · intro hok hnew
    obtain ⟨before, hbefore, hmake⟩ := hbelow.made hok hnew
    exact ⟨before, hreached.trans hbefore, hmake⟩
  · intro fault hfault
    simp [hrefusal] at hfault

/-- Directories are created one after the other from the first missing one down. -/
theorem directoriesCreated_createDirectories (existing : Bool) (p : Path) (t : FileTree) :
    DirectoriesCreated existing p t
      ((Disk.createDirectories existing p : StateM FileTree (Except DiskFailure Unit)).run t) := by
  induction p using Path.parent_induction generalizing existing t with
  | step p ih =>
    rw [Disk.createDirectories]
    cases hmake : t.makeDirectory p with
    | ok t' =>
      rw [run_bind_of_eq (run_makeDirectory_of_ok hmake)]
      exact directoriesCreated_of_makeDirectory hmake
    | error fault =>
      rw [run_bind_of_eq (run_makeDirectory_of_error hmake)]
      split
      · contradiction
      · next hmissing =>
        cases hmissing
        have hrefusal := refusal?_of_makeDirectory_noEntry hmake
        split
        · exact directoriesCreated_of_error (.inr ⟨hrefusal, rfl⟩)
        · next hcomponents =>
          have habove := ih hcomponents true t
          cases hrun : (Disk.createDirectories true p.parent :
              StateM FileTree (Except DiskFailure Unit)).run t with
          | mk result above =>
            rw [hrun] at habove
            rw [run_bind_of_eq hrun]
            cases result with
            | error failure => exact habove.stopped hrefusal
            | ok => exact habove.below hrefusal
      · next hother =>
        cases hother
        exact directoriesCreated_acceptExisting existing t (makeDirectory_eq_error hmake)

end FileTree

end KubeJava
