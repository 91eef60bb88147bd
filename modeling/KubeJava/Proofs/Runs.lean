import KubeJava.Proofs.LoadFailures
import KubeJava.Run

set_option autoImplicit false

/-! # Rejected runs

A run loads its definitions before it touches the disk, but it creates the output directory before
it generates anything. So a run whose input is rejected leaves nothing behind if the input cannot be
loaded, and the output directory, as yet empty, if nothing can be generated from it. -/

namespace KubeJava

open FileTree
open Relation (ReflTransGen)

variable {t t' : FileTree} {settings : Settings} {input output : Path}
  {definitions : List Definition}

/-! ## How a run can end -/

/-- Loading changes nothing. -/
theorem run_loadDefinitions (input : Path) (t : FileTree) :
    ((loadDefinitions input : StateM FileTree (Except LoadFailure (List Definition))).run t).2 =
      t := by
  rw [loadDefinitions, run_bind_of_eq (run_readFile input _ t)]
  rfl

/-- Writing fails with write failures only. -/
theorem exists_write_of_writeGeneration {g : Generation} {failure : RunFailure}
    (h : ((writeGeneration output g : StateM FileTree (Logged RunFailure RunResult)).run t).1.outcome =
      .error failure) : ∃ f, failure = .write f := by
  cases hrun : (writeTypes output g.types : StateM FileTree WriteReport).run t with
  | mk report t' =>
    rw [writeGeneration, run_bind_of_eq hrun] at h
    cases hfailure : report.failure with
    | none =>
      simp only [hfailure] at h
      cases h
    | some f =>
      simp only [hfailure] at h
      exact ⟨f, (Except.error.inj h).symm⟩

/-- How a run can end that is rejected or does not get as far as writing. -/
inductive RunEnded (settings : Settings) (input output : Path) (t : FileTree) :
    Logged RunFailure RunResult × FileTree → Prop where
  | notLoaded {f : LoadFailure} :
      ((loadDefinitions input : StateM FileTree (Except LoadFailure (List Definition))).run t).1 =
        .error f →
      RunEnded settings input output t (.fail (.load f), t)
  | noOutput {definitions : List Definition} {f : WriteFailure} {t' : FileTree} :
      ((loadDefinitions input : StateM FileTree (Except LoadFailure (List Definition))).run t).1 =
        .ok definitions →
      OutputEnded output t (.error f, t') →
      RunEnded settings input output t (.fail (.write f), t')
  | notGenerated {definitions : List Definition} {e : GenerationError} {log : List Event}
      {t' : FileTree} :
      ((loadDefinitions input : StateM FileTree (Except LoadFailure (List Definition))).run t).1 =
        .ok definitions →
      OutputEnded output t (.ok output, t') →
      (generateAll settings definitions).outcome = .error e →
      RunEnded settings input output t (⟨log, .error (.generation e)⟩, t')
  | generated {definitions : List Definition} {g : Generation} {t' : FileTree}
      {ended : Logged RunFailure RunResult × FileTree} :
      ((loadDefinitions input : StateM FileTree (Except LoadFailure (List Definition))).run t).1 =
        .ok definitions →
      OutputEnded output t (.ok output, t') →
      (generateAll settings definitions).outcome = .ok g →
      (∀ failure, ended.1.outcome = .error failure → ∃ f, failure = .write f) →
      RunEnded settings input output t ended

theorem runEnded_runGeneration (settings : Settings) (input output : Path) (t : FileTree) :
    RunEnded settings input output t
      ((runGeneration settings input output :
        StateM FileTree (Logged RunFailure RunResult)).run t) := by
  have hloaded := run_loadDefinitions input t
  cases hload : (loadDefinitions input :
      StateM FileTree (Except LoadFailure (List Definition))).run t with
  | mk result loaded =>
    rw [hload] at hloaded
    obtain rfl : t = loaded := hloaded.symm
    rw [runGeneration, run_bind_of_eq hload]
    cases result with
    | error f => exact .notLoaded (congrArg Prod.fst hload)
    | ok definitions =>
      have hdefinitions := congrArg Prod.fst hload
      have hcreated := outputEnded_createOutput output t
      cases hcreate : (createOutput output : StateM FileTree (Except WriteFailure Path)).run t with
      | mk result created =>
        rw [hcreate] at hcreated
        simp only
        rw [run_bind_of_eq hcreate]
        cases result with
        | error f => exact .noOutput hdefinitions hcreated
        | ok path =>
          obtain rfl : path = output := by
            cases hcreated
            rfl
          cases hgenerate : (generateAll settings definitions).outcome with
          | error e => exact .notGenerated hdefinitions hcreated hgenerate
          | ok g =>
            refine .generated hdefinitions hcreated hgenerate ?_
            intro failure hfailure
            exact exists_write_of_writeGeneration hfailure

/-! ## What a rejected run leaves behind -/

theorem not_looksAbsent_of_kindOf {p : Path} {kind : EntryKind} (h : t.kindOf p = .ok kind) :
    ¬t.LooksAbsent p := by
  rintro ⟨fault, hfault, -⟩
  simp [h] at hfault

/-- A run into an output directory that exists is refused, whatever its input. -/
theorem runGeneration_of_exists {kind : EntryKind} (hkind : t.kindOf output = .ok kind)
    (hload : ((loadDefinitions input :
      StateM FileTree (Except LoadFailure (List Definition))).run t).1 = .ok definitions) :
    (runGeneration settings input output :
        StateM FileTree (Logged RunFailure RunResult)).run t =
      (.fail (.write (.outputExists output)), t) := by
  have hpresent := not_looksAbsent_of_kindOf hkind
  have hended := runEnded_runGeneration settings input output t
  generalize (runGeneration settings input output :
    StateM FileTree (Logged RunFailure RunResult)).run t = ended at hended ⊢
  -- Every ending but one needs the output directory to be absent.
  cases hended with
  | notLoaded hfailed => simp [hload] at hfailed
  | noOutput hloaded houtput =>
    cases houtput with
    | unseen hlong => simp [hkind] at hlong
    | occupied hexists => rfl
    | notCreated habsent => exact absurd habsent hpresent
  | notGenerated hloaded houtput =>
    cases houtput with
    | created habsent => exact absurd habsent hpresent
  | generated hloaded houtput =>
    cases houtput with
    | created habsent => exact absurd habsent hpresent

/-- The output directory is empty when it has been created. -/
theorem get?_of_created {place : Place}
    (h : DirectoriesCreated false output t (.ok (), t'))
    (hfound : t'.resolve true output = .ok (.found place .directory)) (name : Text) :
    t'.get? (place ++ [name]) = none := by
  obtain ⟨before, hreached, hmake⟩ := h.made rfl rfl
  obtain ⟨made, habsent, rfl⟩ := makeDirectory_eq_ok hmake
  have hput : (before.put made .directory).resolve true output = .ok (.found made .directory) :=
    resolve_put habsent nofun
  obtain rfl : made = place := by
    rw [hput] at hfound
    simpa using hfound
  -- Nothing lay below the place while it was free.
  rw [get?_put_of_ne (by simp)]
  exact get?_append_eq_none (get?_of_resolve_eq_absent habsent) [name]

/-- A run whose input cannot be loaded changes nothing. -/
theorem eq_of_load_error {f : LoadFailure}
    (h : ((runGeneration settings input output :
      StateM FileTree (Logged RunFailure RunResult)).run t).1.outcome = .error (.load f)) :
    ((runGeneration settings input output :
      StateM FileTree (Logged RunFailure RunResult)).run t).2 = t := by
  have hended := runEnded_runGeneration settings input output t
  generalize (runGeneration settings input output :
    StateM FileTree (Logged RunFailure RunResult)).run t = ended at hended h ⊢
  cases hended with
  | notLoaded => rfl
  | noOutput => cases h
  | notGenerated => cases h
  | generated hload houtput hgenerate hwrite =>
    obtain ⟨f', hf'⟩ := hwrite _ h
    cases hf'

/-- A run whose input nothing can be generated from has created the output directory. -/
theorem created_of_generation_error {e : GenerationError}
    (h : ((runGeneration settings input output :
      StateM FileTree (Logged RunFailure RunResult)).run t).1.outcome = .error (.generation e)) :
    t.LooksAbsent output ∧ DirectoriesCreated false output t (.ok (),
      ((runGeneration settings input output :
        StateM FileTree (Logged RunFailure RunResult)).run t).2) := by
  have hended := runEnded_runGeneration settings input output t
  generalize (runGeneration settings input output :
    StateM FileTree (Logged RunFailure RunResult)).run t = ended at hended h ⊢
  cases hended with
  | notLoaded => cases h
  | noOutput => cases h
  | notGenerated hload houtput hgenerate =>
    cases houtput with
    | created habsent hcreated => exact ⟨habsent, hcreated⟩
  | generated hload houtput hgenerate hwrite =>
    obtain ⟨f', hf'⟩ := hwrite _ h
    cases hf'

/-- A run whose input cannot be loaded leaves the tree as it was. One whose input nothing can be
generated from leaves directories up to the output directory, which is new and empty, and every
further run into it is refused. -/
theorem runGeneration_rejected (settings : Settings) (input output : Path) (t : FileTree) :
    let ended := (runGeneration settings input output :
      StateM FileTree (Logged RunFailure RunResult)).run t
    (∀ f, ended.1.outcome = .error (.load f) → ended.2 = t) ∧
    ∀ e, ended.1.outcome = .error (.generation e) →
      (∀ kind, t.kindOf output ≠ .ok kind) ∧ ended.2.kindOf output = .ok .directory ∧
      t.GrowsTo (fun place entry => entry = .directory ∧ ∃ p, p.LeadsUpTo output ∧
        ended.2.resolve true p = .ok (.found place .directory)) ended.2 ∧
      (∀ place, ended.2.resolve true output = .ok (.found place .directory) →
        ∀ name, ended.2.get? (place ++ [name]) = none) ∧
      ∀ settings' input' definitions,
        ((loadDefinitions input' :
          StateM FileTree (Except LoadFailure (List Definition))).run ended.2).1 =
            .ok definitions →
        (runGeneration settings' input' output :
            StateM FileTree (Logged RunFailure RunResult)).run ended.2 =
          (.fail (.write (.outputExists output)), ended.2) := by
  intro ended
  refine ⟨fun f => eq_of_load_error, ?_⟩
  intro e hfailure
  obtain ⟨habsent, hcreated⟩ := created_of_generation_error hfailure
  have hdirectory := hcreated.leads rfl
  refine ⟨?_, hdirectory, growsTo_of_reached hcreated.reached, ?_, ?_⟩
  · intro kind hkind
    exact not_looksAbsent_of_kindOf hkind habsent
  · intro place hfound name
    exact get?_of_created hcreated hfound name
  · intro settings' input' definitions hload
    exact runGeneration_of_exists hdirectory hload

/-- Whether nothing could be generated. -/
def failsToGenerate (ended : Logged RunFailure RunResult) : Bool :=
  match ended.outcome with
  | .error (.generation _) => true
  | _ => false

theorem exists_of_failsToGenerate {ended : Logged RunFailure RunResult}
    (h : failsToGenerate ended = true) : ∃ e, ended.outcome = .error (.generation e) := by
  unfold failsToGenerate at h
  split at h
  · next e hfailure => exact ⟨e, hfailure⟩
  · cases h

/-- A kind that cannot name a class is found out after the output directory has been created. -/
theorem not_forall_runGeneration_rejected :
    ¬∀ (settings : Settings) (input output : Path) (t : FileTree),
      let ended := (runGeneration settings input output :
        StateM FileTree (Logged RunFailure RunResult)).run t
      ∀ e, ended.1.outcome = .error (.generation e) → ended.2 = t := by
  intro hall
  let text : String :=
    "apiVersion: v1\nkind: CustomResourceDefinition\nspec:\n  group: test.org\n" ++
      "  names:\n    kind: \"9\"\n  versions:\n  - name: v1\n"
  let t : FileTree :=
    { entries := [(["work"], .directory), (["work", "crd.yaml"], .file text.toUTF8)]
      workDirectory := ["work"] }
  have hrejected : failsToGenerate ((runGeneration {} { components := ["crd.yaml"] }
      { components := ["out"] } : StateM FileTree (Logged RunFailure RunResult)).run t).1 = true := by
    decide +kernel
  obtain ⟨e, hfailure⟩ := exists_of_failsToGenerate hrejected
  obtain ⟨habsent, hcreated⟩ := created_of_generation_error hfailure
  rw [hall _ _ _ t e hfailure] at hcreated
  exact not_looksAbsent_of_kindOf (hcreated.leads rfl) habsent

end KubeJava
