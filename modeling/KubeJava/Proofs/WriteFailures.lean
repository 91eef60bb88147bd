import KubeJava.CommandLine.Program
import KubeJava.Proofs.Writing

set_option autoImplicit false

/-! # How writing fails

Every refusal by the operating system is told as a failure of its own, except where the refusal is
the answer to a look: a name or a path that is too long ends a look without an answer, and so ends
the writing in a failure that nobody expects. -/

namespace KubeJava

open FileTree

variable {t t' above : FileTree} {output p : Path} {r : TypeRecord} {cause : DiskFailure}
  {fault : DiskFault} {existing : Bool}

/-! ## The output directory -/

theorem FileTree.refusal?_of_kindOf (h : t.kindOf p = .error fault)
    (hfault : fault.isRefusal = false) : p.refusal? = some fault := by
  rcases kindOf_eq_error h with hrefusal | ⟨-, rfl | rfl | rfl | rfl⟩
  · exact hrefusal
  all_goals cases hfault

theorem WriteFailure.expecting_eq_disk {wrap : DiskFailure → WriteFailure} {cause' : DiskFailure}
    (h : WriteFailure.expecting wrap cause = .disk cause')
    (hwrap : ∀ cause, wrap cause ≠ .disk cause') :
    cause' = cause ∧ cause.fault.isRefusal = false := by
  unfold WriteFailure.expecting at h
  split at h
  · exact absurd h (hwrap cause)
  · next hfault => exact ⟨(WriteFailure.disk.inj h).symm, by simpa using hfault⟩

theorem FileTree.LooksAbsent.isRefusal_eq_false (h : t.LooksAbsent p)
    (hfault : t.kindOf p = .error fault)
    (hcases : fault = .nameTooLong ∨ fault.isRefusal = false) : fault.isRefusal = false := by
  obtain ⟨fault', hfault', habsent⟩ := h
  obtain rfl := Except.error.inj (hfault.symm.trans hfault')
  refine hcases.resolve_left ?_
  rintro rfl
  cases habsent

/-- The creation of the output directory fails in a way that nobody expects exactly where a look at
it ends without an answer or its path cannot be passed on. -/
theorem createOutput_eq_disk_iff :
    ((createOutput output : StateM FileTree (Except WriteFailure Path)).run t).1 =
        .error (.disk cause) ↔
      cause.path = output ∧ t.kindOf output = .error cause.fault ∧
        (cause.fault = .nameTooLong ∨ cause.fault.isRefusal = false) := by
  have hended := outputEnded_createOutput output t
  generalize (createOutput output : StateM FileTree (Except WriteFailure Path)).run t = ended
    at hended ⊢
  cases hended with
  | unseen hkind =>
    rw [hkind]
    constructor
    · intro h
      obtain rfl := WriteFailure.disk.inj (Except.error.inj h)
      exact ⟨rfl, rfl, .inl rfl⟩
    · rintro ⟨rfl, hfault, -⟩
      rw [Except.error.inj hfault]
  | occupied hkind => simp [hkind]
  | created habsent hcreated =>
    constructor
    · intro h
      cases h
    · rintro ⟨rfl, hfault, hcause⟩
      have hrefusal := refusal?_of_kindOf hfault (habsent.isRefusal_eq_false hfault hcause)
      cases hcreated.refused _ hrefusal
  | @notCreated cause' t' habsent hcreated =>
    constructor
    · intro h
      have hdisk : WriteFailure.expecting (.outputNotCreated output) cause' = .disk cause :=
        Except.error.inj h
      obtain ⟨rfl, hrefused⟩ := WriteFailure.expecting_eq_disk hdisk fun _ => nofun
      have hrefusal := hcreated.refusal cause rfl hrefused
      obtain ⟨hsame, -⟩ := Prod.mk.inj (hcreated.refused _ hrefusal)
      refine ⟨congrArg DiskFailure.path (Except.error.inj hsame), ?_, .inr hrefused⟩
      exact kindOf_of_error (resolve_of_refusal hrefusal)
    · rintro ⟨rfl, hfault, hcause⟩
      have hrefused := habsent.isRefusal_eq_false hfault hcause
      have hrefusal := refusal?_of_kindOf hfault hrefused
      obtain ⟨hsame, -⟩ := Prod.mk.inj (hcreated.refused _ hrefusal)
      obtain rfl := Except.error.inj hsame
      rw [WriteFailure.expecting, if_neg (by simp [hrefused])]

/-! ## Records -/

/-- The operating system refuses in a way that nobody expects only the look at the file. -/
theorem writeRecord_eq_disk_iff (hfault : cause.fault.isRefusal = true) :
    ((writeRecord output r : StateM FileTree (Except WriteFailure Path)).run t).1 =
        .error (.disk cause) ↔
      t.kindOf (sourcePath output r) = .error .nameTooLong ∧
        cause = ⟨.nameTooLong, sourcePath output r⟩ := by
  have hended := recordEnded_writeRecord output r t
  generalize (writeRecord output r : StateM FileTree (Except WriteFailure Path)).run t = ended
    at hended ⊢
  constructor
  · intro h
    -- All endings but the first tell a refusal as a failure of their own.
    cases hended with
    | unseen hkind =>
      obtain rfl := WriteFailure.disk.inj (Except.error.inj h)
      exact ⟨hkind, rfl⟩
    | occupied hkind => cases h
    | noPackage habsent hcreated =>
      obtain ⟨rfl, hrefused⟩ :=
        WriteFailure.expecting_eq_disk (Except.error.inj h) fun _ => nofun
      simp [hrefused] at hfault
    | notWritten habsent hcreated hwrite =>
      obtain ⟨rfl, hrefused⟩ :=
        WriteFailure.expecting_eq_disk (Except.error.inj h) fun _ => nofun
      simp [hrefused] at hfault
    | noText habsent hcreated hsource hwrite =>
      obtain rfl := WriteFailure.disk.inj (Except.error.inj h)
      cases hfault
    | written habsent hcreated hsource hwrite => cases h
  · rintro ⟨hlong, rfl⟩
    have habsent : ¬t.LooksAbsent (sourcePath output r) := by
      rintro ⟨fault, hkind, hmeans⟩
      obtain rfl := Except.error.inj (hlong.symm.trans hkind)
      cases hmeans
    cases hended with
    | unseen => rfl
    | occupied hkind => simp [hlong] at hkind
    | noPackage h => exact absurd h habsent
    | notWritten h => exact absurd h habsent
    | noText h => exact absurd h habsent
    | written h => exact absurd h habsent

/-- Without a refusal it is the path or the text that cannot be passed on. -/
theorem not_isPassable_of_writeRecord (hfault : cause.fault.isRefusal = false)
    (h : ((writeRecord output r : StateM FileTree (Except WriteFailure Path)).run t).1 =
      .error (.disk cause)) :
    ¬(sourcePath output r).IsPassable ∨ r.source.toString? = none := by
  have hended := recordEnded_writeRecord output r t
  generalize (writeRecord output r : StateM FileTree (Except WriteFailure Path)).run t = ended
    at hended h
  cases hended with
  | unseen hkind =>
    obtain rfl := WriteFailure.disk.inj (Except.error.inj h)
    cases hfault
  | occupied hkind => cases h
  | noPackage habsent hcreated =>
    left
    obtain ⟨rfl, hrefused⟩ := WriteFailure.expecting_eq_disk (Except.error.inj h) fun _ => nofun
    -- What cannot be passed on in the path above cannot be passed on in the path either.
    have hparent := Path.not_isPassable_of_refusal? (hcreated.refusal _ rfl hrefused) hrefused
    exact fun hpassable => hparent hpassable.parent
  | notWritten habsent hcreated hwrite =>
    left
    obtain ⟨rfl, hrefused⟩ := WriteFailure.expecting_eq_disk (Except.error.inj h) fun _ => nofun
    refine Path.not_isPassable_of_refusal? ?_ hrefused
    exact (writeFile_eq_error hwrite).resolve_right (by simp_all)
  | noText habsent hcreated hsource hwrite => exact .inr hsource
  | written habsent hcreated hsource hwrite => cases h

/-! ## The program -/

open CommandLine

variable {argv : List Text} {a : Arguments} {base : Settings} {failure : RunFailure}
  {log : List Text}

theorem isForeseen_eq_false_of_failed {failure' : RunFailure}
    (h : failed log failure' = .error failure) : isForeseen failure = false := by
  unfold failed at h
  split at h
  · cases h
  · next hforeseen =>
    obtain rfl := Except.error.inj h
    simpa using hforeseen

theorem run_generate_of_failure {ended : Logged RunFailure RunResult}
    (hbase : (baseSettings a : StateM FileTree (Except LoadFailure Settings)).run t =
      (.ok base, above))
    (hrun : (runGeneration (a.override base) (.ofText a.input) (.ofText a.output) :
      StateM FileTree (Logged RunFailure RunResult)).run above = (ended, t'))
    (hfailure : ended.outcome = .error failure) :
    (generate a : StateM FileTree (Except RunFailure Outcome)).run t =
      (failed (printedLog a.verbose ended.log) failure, t') := by
  rw [generate, run_bind_of_eq hbase]
  simp only
  rw [run_bind_of_eq hrun]
  simp only [hfailure]
  rfl

/-- No foreseen failure leaves the program as an error of its own. -/
theorem isForeseen_eq_false_of_program
    (h : ((program argv : StateM FileTree (Except RunFailure Outcome)).run t).1 = .error failure) :
    isForeseen failure = false := by
  unfold program at h
  split at h
  · cases h
  · cases h
  · next a hread =>
    cases hbase : (baseSettings a : StateM FileTree (Except LoadFailure Settings)).run t with
    | mk result above =>
      cases result with
      | error f =>
        rw [generate, run_bind_of_eq hbase] at h
        exact isForeseen_eq_false_of_failed h
      | ok base =>
        cases hrun : (runGeneration (a.override base) (.ofText a.input) (.ofText a.output) :
            StateM FileTree (Logged RunFailure RunResult)).run above with
        | mk ended t' =>
          cases houtcome : ended.outcome with
          | error f =>
            rw [run_generate_of_failure hbase hrun houtcome] at h
            exact isForeseen_eq_false_of_failed h
          | ok result =>
            rw [generate, run_bind_of_eq hbase] at h
            simp only at h
            rw [run_bind_of_eq hrun] at h
            simp only [houtcome] at h
            cases h

theorem isForeseen_write_iff {f : WriteFailure} :
    isForeseen (.write f) = true ↔ ∀ cause, f ≠ .disk cause := by
  cases f <;> simp [isForeseen]

/-- A foreseen failure of a run is reported with exit code 2 and its message. -/
theorem exists_outcome_of_run {ended : Logged RunFailure RunResult}
    (hread : Request.read argv = .ok (.generate a))
    (hbase : (baseSettings a : StateM FileTree (Except LoadFailure Settings)).run t =
      (.ok base, above))
    (hrun : (runGeneration (a.override base) (.ofText a.input) (.ofText a.output) :
      StateM FileTree (Logged RunFailure RunResult)).run above = (ended, t'))
    (hfailure : ended.outcome = .error failure) (hforeseen : isForeseen failure = true) :
    ∃ outcome, ((program argv : StateM FileTree (Except RunFailure Outcome)).run t).1 =
        .ok outcome ∧ outcome.exitCode = 2 ∧ outcome.refusal = some failure.message := by
  have hprogram : (program argv : StateM FileTree (Except RunFailure Outcome)).run t =
      (failed (printedLog a.verbose ended.log) failure, t') := by
    unfold program
    rw [hread]
    exact run_generate_of_failure hbase hrun hfailure
  refine ⟨refuse (printedLog a.verbose ended.log) failure.message, ?_, rfl, rfl⟩
  rw [hprogram, failed, if_pos hforeseen]

/-! ## Writing -/

/-- A refusal by the operating system leaves the creation of the output directory and the writing of
records unforeseen exactly where the name or the path that is looked at is too long; otherwise a
failure is unforeseen for a path or a text that cannot be passed on. The program reports every other
failure with exit code 2. -/
theorem write_failures_foreseen (output : Path) (g : Generated) (t : FileTree) :
    (∀ cause,
      ((createOutput output : StateM FileTree (Except WriteFailure Path)).run t).1 =
          .error (.disk cause) ↔
        cause.path = output ∧ t.kindOf output = .error cause.fault ∧
          (cause.fault = .nameTooLong ∨ cause.fault.isRefusal = false)) ∧
    (∀ cause, cause.fault.isRefusal = true →
      (((writeTypes output g : StateM FileTree WriteReport).run t).1.failure =
          some (.disk cause) ↔
        ∃ done r later, g.topLevel = done ++ r :: later ∧
          ((writeRecords output done : StateM FileTree WriteReport).run t).1.failure = none ∧
          ((writeRecords output done : StateM FileTree WriteReport).run t).2.kindOf
            (sourcePath output r) = .error .nameTooLong ∧
          cause = ⟨.nameTooLong, sourcePath output r⟩)) ∧
    (∀ cause, cause.fault.isRefusal = false →
      ((writeTypes output g : StateM FileTree WriteReport).run t).1.failure = some (.disk cause) →
        ∃ r ∈ g.topLevel, ¬(sourcePath output r).IsPassable ∨ r.source.toString? = none) ∧
    (∀ argv a base above f, Request.read argv = .ok (.generate a) →
      (baseSettings a : StateM FileTree (Except LoadFailure Settings)).run t =
        (.ok base, above) →
      ((runGeneration (a.override base) (.ofText a.input) (.ofText a.output) :
        StateM FileTree (Logged RunFailure RunResult)).run above).1.outcome = .error (.write f) →
      (∀ cause, f ≠ .disk cause) →
        ∃ outcome, ((program argv : StateM FileTree (Except RunFailure Outcome)).run t).1 =
          .ok outcome ∧ outcome.exitCode = 2 ∧ outcome.refusal = some f.message) ∧
    ∀ argv f, ((program argv : StateM FileTree (Except RunFailure Outcome)).run t).1 =
      .error (.write f) → ∃ cause, f = .disk cause := by
  refine ⟨fun cause => createOutput_eq_disk_iff, ?_, ?_, ?_, ?_⟩
  · intro cause hfault
    rw [writeTypes, failure_eq_some_iff]
    simp only [writeRecord_eq_disk_iff hfault]
  · intro cause hfault h
    obtain ⟨done, r, later, hsplit, -, hfailure⟩ := failure_eq_some_iff.1 h
    refine ⟨r, ?_, not_isPassable_of_writeRecord hfault hfailure⟩
    rw [hsplit]
    simp
  · intro argv a base above f hread hbase hfailure hdisk
    exact exists_outcome_of_run hread hbase rfl hfailure (isForeseen_write_iff.2 hdisk)
  · intro argv f h
    have hunforeseen := isForeseen_eq_false_of_program h
    by_contra hdisk
    have hforeseen := isForeseen_write_iff.2 (not_exists.1 hdisk)
    rw [hunforeseen] at hforeseen
    cases hforeseen

/-- A look at a name of more than 255 bytes ends without an answer. -/
theorem not_forall_write_failures_foreseen :
    ¬∀ (output : Path) (t : FileTree) (f : WriteFailure), output.IsPassable →
      ((createOutput output : StateM FileTree (Except WriteFailure Path)).run t).1 = .error f →
        ∀ cause, f ≠ .disk cause := by
  intro hall
  let output : Path := { components := [List.replicate 256 'a'] }
  have hpassable : output.IsPassable := ⟨by decide +kernel, by decide +kernel⟩
  have hrun : ((createOutput output : StateM FileTree (Except WriteFailure Path)).run .fresh).1 =
      .error (.disk ⟨.nameTooLong, output⟩) := by decide +kernel
  exact hall output .fresh _ hpassable hrun _ rfl

end KubeJava
