import KubeJava.Output
import KubeJava.Proofs.Directories

set_option autoImplicit false

/-! # Writing records

How the creation of the output directory and the writing of one record can end, and from it what a
whole run of writing does to a tree. -/

namespace KubeJava

open FileTree
open Relation (ReflTransGen)

variable {t t' above : FileTree} {output p path : Path} {place : Place} {e : Entry}
  {r : TypeRecord} {records : List TypeRecord} {fault : DiskFault}

/-! ## Files -/

namespace FileTree

theorem writeFile_of_error {content : String} (h : t.resolve true p = .error fault) :
    t.writeFile p content = .error fault := by
  rw [writeFile, h]
  rfl

theorem writeFile_of_directory {content : String}
    (h : t.resolve true p = .ok (.found place .directory)) :
    t.writeFile p content = .error .isDirectory := by
  rw [writeFile, h]
  rfl

theorem writeFile_of_absent {content : String} (h : t.resolve true p = .ok (.absent place)) :
    t.writeFile p content = .ok (t.put place (.file content.toUTF8)) := by
  rw [writeFile, h]
  rfl

theorem writeFile_of_file {content : String} {old : ByteArray}
    (h : t.resolve true p = .ok (.found place (.file old))) :
    t.writeFile p content = .ok (t.put place (.file content.toUTF8)) := by
  rw [writeFile, h]
  rfl

/-- What a path can lead to when its last name is followed. -/
theorem resolve_true_cases (t : FileTree) (p : Path) :
    (∃ fault, t.resolve true p = .error fault) ∨
      (∃ place, t.resolve true p = .ok (.absent place)) ∨
      (∃ place, t.resolve true p = .ok (.found place .directory)) ∨
      ∃ place content, t.resolve true p = .ok (.found place (.file content)) := by
  cases hresolve : t.resolve true p with
  | error fault => exact .inl ⟨fault, rfl⟩
  | ok target =>
    cases target with
    | absent place => exact .inr (.inl ⟨place, rfl⟩)
    | found place e =>
      cases e with
      | directory => exact .inr (.inr (.inl ⟨place, rfl⟩))
      | file content => exact .inr (.inr (.inr ⟨place, content, rfl⟩))
      | link target => exact absurd (resolve_eq_ok.1 hresolve).2 endAt_ne_found_link

theorem writeFile_eq_ok {content : String} (h : t.writeFile p content = .ok t') :
    ∃ place, (t.resolve true p = .ok (.absent place) ∨
      ∃ old, t.resolve true p = .ok (.found place (.file old))) ∧
      t' = t.put place (.file content.toUTF8) := by
  rcases resolve_true_cases t p with
    ⟨fault, hresolve⟩ | ⟨place, hresolve⟩ | ⟨place, hresolve⟩ | ⟨place, old, hresolve⟩
  · simp [writeFile_of_error hresolve] at h
  · rw [writeFile_of_absent hresolve] at h
    exact ⟨place, .inl hresolve, (Except.ok.inj h).symm⟩
  · simp [writeFile_of_directory hresolve] at h
  · rw [writeFile_of_file hresolve] at h
    exact ⟨place, .inr ⟨old, hresolve⟩, (Except.ok.inj h).symm⟩

theorem writeFile_eq_error {content : String} (h : t.writeFile p content = .error fault) :
    p.refusal? = some fault ∨ fault.isRefusal = true := by
  rcases resolve_true_cases t p with
    ⟨fault', hresolve⟩ | ⟨place, hresolve⟩ | ⟨place, hresolve⟩ | ⟨place, old, hresolve⟩
  · rw [writeFile_of_error hresolve] at h
    obtain rfl := Except.error.inj h
    rcases resolve_eq_error hresolve with hrefusal | ⟨-, rfl | rfl | rfl | rfl⟩
    · exact .inl hrefusal
    all_goals exact .inr rfl
  · simp [writeFile_of_absent hresolve] at h
  · rw [writeFile_of_directory hresolve] at h
    obtain rfl := Except.error.inj h
    exact .inr rfl
  · simp [writeFile_of_file hresolve] at h

theorem readFile_of_file {content : ByteArray}
    (h : t.resolve true p = .ok (.found place (.file content))) : t.readFile p = .ok content := by
  rw [readFile, h]
  rfl

theorem readFile_eq_ok {content : ByteArray} (h : t.readFile p = .ok content) :
    ∃ place, t.resolve true p = .ok (.found place (.file content)) := by
  rcases resolve_true_cases t p with
    ⟨fault, hresolve⟩ | ⟨place, hresolve⟩ | ⟨place, hresolve⟩ | ⟨place, old, hresolve⟩
  · rw [readFile, hresolve] at h
    cases h
  · rw [readFile, hresolve] at h
    cases h
  · rw [readFile, hresolve] at h
    cases h
  · rw [readFile_of_file hresolve] at h
    exact ⟨place, Except.ok.inj h ▸ hresolve⟩

theorem run_writeFile_of_ok {content : String} (h : t.writeFile p content = .ok t') :
    (Disk.writeFile p content : StateM FileTree (Except DiskFault Unit)).run t = (.ok (), t') := by
  show step (fun t => t.writeFile p content) t = _
  rw [step, h]

theorem run_writeFile_of_error {content : String}
    (h : t.writeFile p content = .error fault) :
    (Disk.writeFile p content : StateM FileTree (Except DiskFault Unit)).run t =
      (.error fault, t) := by
  show step (fun t => t.writeFile p content) t = _
  rw [step, h]

end FileTree

/-! ## How a step can end -/

/-- The path leads to no entry, as far as a look at it tells. -/
def FileTree.LooksAbsent (t : FileTree) (p : Path) : Prop :=
  ∃ fault, t.kindOf p = .error fault ∧ fault.meansAbsent = true

theorem FileTree.LooksAbsent.ne_found (h : t.LooksAbsent p) :
    t.resolve true p ≠ .ok (.found place e) := by
  intro hfound
  obtain ⟨fault, hfault, -⟩ := h
  rw [kindOf_of_found hfound] at hfault
  cases hfault

/-- A look for an entry fails, finds one or finds none, and changes nothing. -/
theorem run_pathExists_cases (t : FileTree) (p : Path) :
    (t.kindOf p = .error .nameTooLong ∧
      (Disk.pathExists p : StateM FileTree (Except DiskFailure Bool)).run t =
        (.error ⟨.nameTooLong, p⟩, t)) ∨
    (∃ kind, t.kindOf p = .ok kind ∧
      (Disk.pathExists p : StateM FileTree (Except DiskFailure Bool)).run t = (.ok true, t)) ∨
    (t.LooksAbsent p ∧
      (Disk.pathExists p : StateM FileTree (Except DiskFailure Bool)).run t = (.ok false, t)) := by
  rw [Disk.pathExists, run_leadsTo]
  cases hlook : t.look (fun _ => true) p with
  | error cause =>
    obtain ⟨hkind, rfl⟩ := look_eq_error_iff.1 hlook
    exact .inl ⟨hkind, rfl⟩
  | ok there =>
    cases there with
    | true =>
      obtain ⟨kind, hkind, -⟩ := look_eq_true hlook
      exact .inr (.inl ⟨kind, hkind, rfl⟩)
    | false =>
      have habsent : t.LooksAbsent p :=
        (look_eq_false hlook).resolve_left fun ⟨_, _, htest⟩ => nomatch htest
      exact .inr (.inr ⟨habsent, rfl⟩)

/-- How the creation of the output directory can end. -/
inductive OutputEnded (output : Path) (t : FileTree) :
    Except WriteFailure Path × FileTree → Prop where
  | unseen : t.kindOf output = .error .nameTooLong →
      OutputEnded output t (.error (.disk ⟨.nameTooLong, output⟩), t)
  | occupied {kind : EntryKind} : t.kindOf output = .ok kind →
      OutputEnded output t (.error (.outputExists output), t)
  | notCreated {cause : DiskFailure} {t' : FileTree} : t.LooksAbsent output →
      DirectoriesCreated false output t (.error cause, t') →
      OutputEnded output t (.error (.expecting (.outputNotCreated output) cause), t')
  | created {t' : FileTree} : t.LooksAbsent output →
      DirectoriesCreated false output t (.ok (), t') → OutputEnded output t (.ok output, t')

theorem outputEnded_createOutput (output : Path) (t : FileTree) :
    OutputEnded output t
      ((createOutput output : StateM FileTree (Except WriteFailure Path)).run t) := by
  rw [createOutput]
  rcases run_pathExists_cases t output with
    ⟨hkind, hlook⟩ | ⟨kind, hkind, hlook⟩ | ⟨habsent, hlook⟩
  · rw [run_bind_of_eq hlook]
    exact .unseen hkind
  · rw [run_bind_of_eq hlook]
    exact .occupied hkind
  · rw [run_bind_of_eq hlook]
    have hcreated := directoriesCreated_createDirectories false output t
    cases hrun : (Disk.createDirectories false output :
        StateM FileTree (Except DiskFailure Unit)).run t with
    | mk result t' =>
      rw [hrun] at hcreated
      rw [run_bind_of_eq hrun]
      cases result with
      | error cause => exact .notCreated habsent hcreated
      | ok => exact .created habsent hcreated

/-- How the writing of a record can end. -/
inductive RecordEnded (output : Path) (r : TypeRecord) (t : FileTree) :
    Except WriteFailure Path × FileTree → Prop where
  | unseen : t.kindOf (sourcePath output r) = .error .nameTooLong →
      RecordEnded output r t (.error (.disk ⟨.nameTooLong, sourcePath output r⟩), t)
  | occupied {kind : EntryKind} : t.kindOf (sourcePath output r) = .ok kind →
      RecordEnded output r t (.error (.generatedTwice (sourcePath output r) r.qualifiedName), t)
  | noPackage {cause : DiskFailure} {t' : FileTree} : t.LooksAbsent (sourcePath output r) →
      DirectoriesCreated true (sourcePath output r).parent t (.error cause, t') →
      RecordEnded output r t
        (.error (.expecting (.packageNotCreated (sourcePath output r).parent) cause), t')
  | notWritten {fault : DiskFault} {content : String} {above : FileTree} :
      t.LooksAbsent (sourcePath output r) →
      DirectoriesCreated true (sourcePath output r).parent t (.ok (), above) →
      above.writeFile (sourcePath output r) content = .error fault →
      RecordEnded output r t
        (.error (.expecting (.fileNotWritten (sourcePath output r)) ⟨fault, sourcePath output r⟩),
          above)
  | noText {above t' : FileTree} : t.LooksAbsent (sourcePath output r) →
      DirectoriesCreated true (sourcePath output r).parent t (.ok (), above) →
      r.source.toString? = none → above.writeFile (sourcePath output r) "" = .ok t' →
      RecordEnded output r t (.error (.disk ⟨.noEncoding, sourcePath output r⟩), t')
  | written {source : String} {above t' : FileTree} : t.LooksAbsent (sourcePath output r) →
      DirectoriesCreated true (sourcePath output r).parent t (.ok (), above) →
      r.source.toString? = some source → above.writeFile (sourcePath output r) source = .ok t' →
      RecordEnded output r t (.ok (sourcePath output r), t')

/-- The text of a record is written where the directories of its package have been created. -/
theorem recordEnded_of_created (habsent : t.LooksAbsent (sourcePath output r))
    (hcreated : DirectoriesCreated true (sourcePath output r).parent t (.ok (), above))
    {next : Except DiskFault Unit → StateM FileTree (Except WriteFailure Path)}
    (hok : next (.ok ()) = pure (.ok (sourcePath output r)))
    (herror : ∀ fault, next (.error fault) = pure (.error
      (.expecting (.fileNotWritten (sourcePath output r)) ⟨fault, sourcePath output r⟩))) :
    RecordEnded output r t ((Disk.writeText (sourcePath output r) r.source >>= next).run above) := by
  rw [Disk.writeText]
  cases hsource : r.source.toString? with
  | some source =>
    cases hwrite : above.writeFile (sourcePath output r) source with
    | ok t' =>
      rw [run_bind_of_eq (run_writeFile_of_ok hwrite), hok]
      exact .written habsent hcreated hsource hwrite
    | error fault =>
      rw [run_bind_of_eq (run_writeFile_of_error hwrite), herror]
      exact .notWritten habsent hcreated hwrite
  | none =>
    -- The file is created, empty, before it turns out that there is nothing to write.
    rw [bind_assoc]
    cases hwrite : above.writeFile (sourcePath output r) "" with
    | ok t' =>
      rw [run_bind_of_eq (run_writeFile_of_ok hwrite), pure_bind, herror]
      exact .noText habsent hcreated hsource hwrite
    | error fault =>
      rw [run_bind_of_eq (run_writeFile_of_error hwrite), pure_bind, herror]
      exact .notWritten habsent hcreated hwrite

theorem recordEnded_writeRecord (output : Path) (r : TypeRecord) (t : FileTree) :
    RecordEnded output r t
      ((writeRecord output r : StateM FileTree (Except WriteFailure Path)).run t) := by
  rw [writeRecord]
  rcases run_pathExists_cases t (sourcePath output r) with
    ⟨hkind, hlook⟩ | ⟨kind, hkind, hlook⟩ | ⟨habsent, hlook⟩
  · rw [run_bind_of_eq hlook]
    exact .unseen hkind
  · rw [run_bind_of_eq hlook]
    exact .occupied hkind
  · rw [run_bind_of_eq hlook]
    have hcreated := directoriesCreated_createDirectories true (sourcePath output r).parent t
    cases hrun : (Disk.createDirectories true (sourcePath output r).parent :
        StateM FileTree (Except DiskFailure Unit)).run t with
    | mk result above =>
      rw [hrun] at hcreated
      rw [run_bind_of_eq hrun]
      cases result with
      | error cause => exact .noPackage habsent hcreated
      | ok => exact recordEnded_of_created habsent hcreated rfl fun _ => rfl

/-! ## Runs of writing -/

variable {rest done later : List TypeRecord} {failure : WriteFailure}

/-- All records are written, from the first tree to the second. -/
def WritesAll (output : Path) (records : List TypeRecord) (t t' : FileTree) : Prop :=
  (writeRecords output records : StateM FileTree WriteReport).run t =
    ({ written := records.map (sourcePath output) }, t')

theorem eq_sourcePath_of_writeRecord
    (h : (writeRecord output r : StateM FileTree (Except WriteFailure Path)).run t = (.ok path, t')) :
    path = sourcePath output r := by
  have hended := recordEnded_writeRecord output r t
  rw [h] at hended
  cases hended
  rfl

theorem run_writeRecords_cons_of_error
    (h : (writeRecord output r : StateM FileTree (Except WriteFailure Path)).run t =
      (.error failure, t')) :
    (writeRecords output (r :: rest) : StateM FileTree WriteReport).run t =
      ({ failure := some failure }, t') := by
  rw [writeRecords, run_bind_of_eq h]
  rfl

theorem run_writeRecords_cons_of_ok
    (h : (writeRecord output r : StateM FileTree (Except WriteFailure Path)).run t = (.ok path, t')) :
    (writeRecords output (r :: rest) : StateM FileTree WriteReport).run t =
      let ended := (writeRecords output rest : StateM FileTree WriteReport).run t'
      ({ ended.1 with written := path :: ended.1.written }, ended.2) := by
  rw [writeRecords, run_bind_of_eq h]
  rfl

theorem writesAll_nil : WritesAll output [] t t := rfl

theorem WritesAll.cons (hrest : WritesAll output rest above t')
    (h : (writeRecord output r : StateM FileTree (Except WriteFailure Path)).run t =
      (.ok path, above)) :
    WritesAll output (r :: rest) t t' := by
  rw [WritesAll, run_writeRecords_cons_of_ok h, hrest, eq_sourcePath_of_writeRecord h]
  rfl

theorem WritesAll.exists_of_cons (h : WritesAll output (r :: rest) t t') :
    ∃ above, (writeRecord output r : StateM FileTree (Except WriteFailure Path)).run t =
      (.ok (sourcePath output r), above) ∧ WritesAll output rest above t' := by
  cases hrun : (writeRecord output r : StateM FileTree (Except WriteFailure Path)).run t with
  | mk result above =>
    cases result with
    | error failure =>
      rw [WritesAll, run_writeRecords_cons_of_error hrun] at h
      cases h
    | ok path =>
      obtain rfl := eq_sourcePath_of_writeRecord hrun
      refine ⟨above, rfl, ?_⟩
      -- The report of the whole run is that of the rest with one path in front.
      rw [WritesAll, run_writeRecords_cons_of_ok hrun] at h
      rw [WritesAll]
      generalize (writeRecords output rest : StateM FileTree WriteReport).run above = ended at h ⊢
      obtain ⟨⟨written, failure⟩, after⟩ := ended
      obtain ⟨hreport, rfl⟩ := Prod.mk.inj h
      obtain ⟨hwritten, rfl⟩ := WriteReport.mk.inj hreport
      obtain rfl := (List.cons.inj hwritten).2
      rfl

/-- Where the writing of a record fails, that is the end of the run. -/
theorem WritesAll.run_append (h : WritesAll output done t above)
    (hfailure : (writeRecord output r : StateM FileTree (Except WriteFailure Path)).run above =
      (.error failure, t')) :
    (writeRecords output (done ++ r :: later) : StateM FileTree WriteReport).run t =
      ({ written := done.map (sourcePath output), failure := some failure }, t') := by
  induction done generalizing t with
  | nil =>
    obtain rfl : t = above := congrArg Prod.snd h
    exact run_writeRecords_cons_of_error hfailure
  | cons first done ih =>
    obtain ⟨next, hfirst, hdone⟩ := h.exists_of_cons
    rw [List.cons_append, run_writeRecords_cons_of_ok hfirst, ih hdone]
    rfl

/-- All records are written, or those before one that is not. -/
theorem writesAll_or_exists_failure (output : Path) (records : List TypeRecord) (t : FileTree) :
    (∃ t', WritesAll output records t t') ∨
      ∃ done r later before failure t', records = done ++ r :: later ∧
        WritesAll output done t before ∧
        (writeRecord output r : StateM FileTree (Except WriteFailure Path)).run before =
          (.error failure, t') := by
  induction records generalizing t with
  | nil => exact .inl ⟨t, writesAll_nil⟩
  | cons r rest ih =>
    cases hrun : (writeRecord output r : StateM FileTree (Except WriteFailure Path)).run t with
    | mk result next =>
      cases result with
      | error failure => exact .inr ⟨[], r, rest, t, failure, next, rfl, writesAll_nil, hrun⟩
      | ok path =>
        rcases ih next with ⟨t', hrest⟩ | ⟨done, r', later, before, failure, t', rfl, hdone, hfailure⟩
        · exact .inl ⟨t', hrest.cons hrun⟩
        · exact .inr ⟨r :: done, r', later, before, failure, t', rfl, hdone.cons hrun, hfailure⟩

theorem writesAll_of_failure_eq_none
    (h : ((writeRecords output records : StateM FileTree WriteReport).run t).1.failure = none) :
    WritesAll output records t
      ((writeRecords output records : StateM FileTree WriteReport).run t).2 := by
  rcases writesAll_or_exists_failure output records t with
    ⟨t', hall⟩ | ⟨done, r, later, before, failure, t', rfl, hdone, hfailure⟩
  · rw [hall]
    exact hall
  · rw [hdone.run_append hfailure] at h
    cases h

/-- A run fails as the first of its records does that is not written. -/
theorem failure_eq_some_iff :
    ((writeRecords output records : StateM FileTree WriteReport).run t).1.failure = some failure ↔
      ∃ done r later, records = done ++ r :: later ∧
        ((writeRecords output done : StateM FileTree WriteReport).run t).1.failure = none ∧
        ((writeRecord output r : StateM FileTree (Except WriteFailure Path)).run
          ((writeRecords output done : StateM FileTree WriteReport).run t).2).1 =
            .error failure := by
  constructor
  · intro h
    rcases writesAll_or_exists_failure output records t with
      ⟨t', hall⟩ | ⟨done, r, later, before, failure', t', rfl, hdone, hfailure⟩
    · rw [hall] at h
      cases h
    · rw [hdone.run_append hfailure] at h
      obtain rfl := Option.some.inj h
      refine ⟨done, r, later, rfl, ?_, ?_⟩
      · rw [hdone]
      · rw [hdone]
        exact congrArg Prod.fst hfailure
  · rintro ⟨done, r, later, rfl, hnone, hfailure⟩
    rw [(writesAll_of_failure_eq_none hnone).run_append (Prod.ext hfailure rfl)]

end KubeJava
