import KubeJava.Proofs.Writing

set_option autoImplicit false

/-! # Writing keeps what is there

Where no path turns back behind a missing entry, writing adds directories and the files of the
records that it reports, and changes nothing else. -/

namespace KubeJava

open FileTree
open Relation (ReflTransGen)

variable {t t' above next : FileTree} {output p q : Path} {r : TypeRecord}
  {records rest : List TypeRecord} {content : String}

/-! ## One file -/

/-- A file has been written to a path that led nowhere before, and beyond it there is nothing new
but directories. -/
structure WritesFile (p : Path) (content : String) (t t' : FileTree) : Prop where
  fresh : ∀ place e, t.resolve true p ≠ .ok (.found place e)
  grows : t.GrowsTo (fun place e => e = .directory ∨
    e = .file content.toUTF8 ∧ t'.resolve true p = .ok (.found place e)) t'
  leads : ∃ place, t'.resolve true p = .ok (.found place (.file content.toUTF8))

/-- If the path never turns back, the directories above it do not bring it to a file. -/
theorem writesFile_of_writeFile (hback : t.NeverTurnsBack p)
    (habsent : t.LooksAbsent p) (hreached : ReflTransGen (AddsUpTo q) t above)
    (hwrite : above.writeFile p content = .ok t') : WritesFile p content t t' := by
  have hgrows := growsTo_of_reached hreached
  have hfresh : ∀ place e, t.resolve true p ≠ .ok (.found place e) :=
    fun place e => habsent.ne_found
  have hnolink : ∀ place target, ¬(Entry.link target = .directory ∧
      ∃ r, r.LeadsUpTo q ∧ above.resolve true r = .ok (.found place .directory)) := nofun
  obtain ⟨place, hresolve | ⟨old, hfound⟩, rfl⟩ := writeFile_eq_ok hwrite
  · have hput : (above.put place (.file content.toUTF8)).resolve true p =
        .ok (.found place (.file content.toUTF8)) := resolve_put hresolve nofun
    refine ⟨hfresh, ?_, place, hput⟩
    refine (hgrows.mono fun place e hnew => .inl hnew.1).trans ?_
    refine (growsTo_put (get?_of_resolve_eq_absent hresolve)).mono ?_
    rintro other e ⟨rfl, rfl⟩
    exact .inr ⟨rfl, hput⟩
  · -- What the path comes to is new, and so it is a directory.
    have hmissing := hback.get?_eq_none hgrows hnolink hfresh hfound
    have hthere := get?_of_resolve_eq_found hfound
    rcases hgrows.added _ _ hthere with hold | ⟨hdirectory, -⟩
    · rw [hmissing] at hold
      cases hold
    · cases hdirectory

/-! ## One record -/

theorem writesFile_of_writeRecord {path : Path}
    (hback : t.NeverTurnsBack (sourcePath output r))
    (h : (writeRecord output r : StateM FileTree (Except WriteFailure Path)).run t =
      (.ok path, t')) :
    ∃ source, r.source.toString? = some source ∧ WritesFile (sourcePath output r) source t t' := by
  have hended := recordEnded_writeRecord output r t
  rw [h] at hended
  cases hended with
  | written habsent hcreated hsource hwrite =>
    exact ⟨_, hsource, writesFile_of_writeFile hback habsent hcreated.reached hwrite⟩

/-- A record that is not written leaves new directories, and an empty file if its source has no
encoding. -/
theorem growsTo_of_writeRecord_error {failure : WriteFailure}
    (hback : t.NeverTurnsBack (sourcePath output r))
    (h : (writeRecord output r : StateM FileTree (Except WriteFailure Path)).run t =
      (.error failure, t')) :
    t.GrowsTo (fun place e => e = .directory ∨
      failure = .disk ⟨.noEncoding, sourcePath output r⟩ ∧ e = .file "".toUTF8 ∧
        t'.resolve true (sourcePath output r) = .ok (.found place e)) t' := by
  have hended := recordEnded_writeRecord output r t
  rw [h] at hended
  cases hended with
  | unseen => exact GrowsTo.refl _ _
  | occupied => exact GrowsTo.refl _ _
  | noPackage habsent hcreated =>
    exact (growsTo_of_reached hcreated.reached).mono fun place e hnew => .inl hnew.1
  | notWritten habsent hcreated =>
    exact (growsTo_of_reached hcreated.reached).mono fun place e hnew => .inl hnew.1
  | noText habsent hcreated hsource hwrite =>
    have hwrites := writesFile_of_writeFile hback habsent hcreated.reached hwrite
    refine hwrites.grows.mono ?_
    rintro place e (hdirectory | hfile)
    · exact .inl hdirectory
    · exact .inr ⟨rfl, hfile⟩

/-! ## All records -/

/-- The files of records have been written, and beyond them there is nothing new but directories. -/
structure WritesFiles (output : Path) (records : List TypeRecord) (t t' : FileTree) : Prop where
  fresh : ∀ r ∈ records, ∀ place e, t.resolve true (sourcePath output r) ≠ .ok (.found place e)
  distinct : (records.map (sourcePath output)).Nodup
  grows : t.GrowsTo (fun place e => e = .directory ∨
    ∃ r ∈ records, t'.resolve true (sourcePath output r) = .ok (.found place e)) t'
  leads : ∀ r ∈ records, ∃ source place, r.source.toString? = some source ∧
    t'.resolve true (sourcePath output r) = .ok (.found place (.file source.toUTF8))

theorem writesFiles_nil : WritesFiles output [] t t :=
  ⟨nofun, List.nodup_nil, GrowsTo.refl _ _, nofun⟩

/-- After a first file the files of further records are written. -/
theorem WritesFile.cons {source : String} (hsource : r.source.toString? = some source)
    (h : WritesFile (sourcePath output r) source t next)
    (hrest : WritesFiles output rest next t') : WritesFiles output (r :: rest) t t' := by
  obtain ⟨place, hleads⟩ := h.leads
  refine ⟨?_, ?_, ?_, ?_⟩
  · intro r' hr'
    rcases List.mem_cons.1 hr' with rfl | hmem
    · exact h.fresh
    · intro place e hfound
      exact hrest.fresh r' hmem place e (h.grows.resolve_eq_found hfound)
  · rw [List.map_cons, List.nodup_cons]
    refine ⟨?_, hrest.distinct⟩
    intro hmem
    -- A further record with the same path would have found the first file.
    obtain ⟨r', hr', hpath⟩ := List.mem_map.1 hmem
    rw [← hpath] at hleads
    exact hrest.fresh r' hr' _ _ hleads
  · refine (h.grows.mono ?_).trans (hrest.grows.mono ?_)
    · rintro place e (hdirectory | ⟨-, hfound⟩)
      · exact .inl hdirectory
      · exact .inr ⟨r, List.mem_cons_self, hrest.grows.resolve_eq_found hfound⟩
    · rintro place e (hdirectory | ⟨r', hr', hfound⟩)
      · exact .inl hdirectory
      · exact .inr ⟨r', List.mem_cons_of_mem _ hr', hfound⟩
  · intro r' hr'
    rcases List.mem_cons.1 hr' with rfl | hmem
    · exact ⟨source, place, hsource, hrest.grows.resolve_eq_found hleads⟩
    · exact hrest.leads r' hmem

theorem WritesFile.neverTurnsBack {p' : Path} (h : WritesFile p content t t')
    (hback : t.NeverTurnsBack p') : t'.NeverTurnsBack p' := by
  refine hback.mono h.grows ?_
  rintro place target (hlink | ⟨hlink, -⟩) <;> cases hlink

/-- A run that writes all records writes their files. -/
theorem WritesAll.writesFiles
    (hback : ∀ r ∈ records, t.NeverTurnsBack (sourcePath output r))
    (h : WritesAll output records t t') : WritesFiles output records t t' := by
  induction records generalizing t with
  | nil =>
    obtain rfl : t = t' := congrArg Prod.snd h
    exact writesFiles_nil
  | cons r rest ih =>
    obtain ⟨next, hfirst, hrest⟩ := h.exists_of_cons
    obtain ⟨source, hsource, hfile⟩ :=
      writesFile_of_writeRecord (hback r List.mem_cons_self) hfirst
    refine hfile.cons hsource (ih ?_ hrest)
    intro r' hr'
    exact hfile.neverTurnsBack (hback r' (List.mem_cons_of_mem _ hr'))

theorem WritesFiles.neverTurnsBack (h : WritesFiles output records t t')
    (hback : t.NeverTurnsBack p) : t'.NeverTurnsBack p := by
  refine hback.mono h.grows ?_
  rintro place target (hlink | ⟨r, hr, hfound⟩)
  · cases hlink
  · exact endAt_ne_found_link (resolve_eq_ok.1 hfound).2

/-- What is read from a path is read from it in the grown tree. -/
theorem FileTree.GrowsTo.readFile_eq_ok {new : Place → Entry → Prop} {bytes : ByteArray}
    (h : t.GrowsTo new t') (hread : t.readFile p = .ok bytes) : t'.readFile p = .ok bytes := by
  obtain ⟨place, hfound⟩ := FileTree.readFile_eq_ok hread
  exact readFile_of_file (h.resolve_eq_found hfound)

/-- After the files of records another step may add directories and entries of its own. -/
theorem WritesFiles.extend {last : Place → Entry → Prop} (h : WritesFiles output records t next)
    (hlast : next.GrowsTo (fun place e => e = .directory ∨ last place e) t') :
    (∀ r ∈ records, ∃ source, r.source.toString? = some source ∧
      t'.readFile (sourcePath output r) = .ok source.toUTF8) ∧
    t.GrowsTo (fun place e => e = .directory ∨
      (∃ r ∈ records, t'.resolve true (sourcePath output r) = .ok (.found place e)) ∨
      last place e) t' := by
  constructor
  · intro r hr
    obtain ⟨source, place, hsource, hfound⟩ := h.leads r hr
    exact ⟨source, hsource, readFile_of_file (hlast.resolve_eq_found hfound)⟩
  · refine (h.grows.mono ?_).trans (hlast.mono ?_)
    · rintro place e (hdirectory | ⟨r, hr, hfound⟩)
      · exact .inl hdirectory
      · exact .inr (.inl ⟨r, hr, hlast.resolve_eq_found hfound⟩)
    · rintro place e (hdirectory | hother)
      · exact .inl hdirectory
      · exact .inr (.inr hother)

/-- Whether or not it fails, writing keeps every entry; what it reports as written are the files of
the first records, at different paths, each with the text of its record; and beyond them there is
nothing new but directories and, if a source has no encoding, the empty file of its record. -/
theorem writeTypes_keeps (output : Path) (g : Generated) (t : FileTree)
    (hback : ∀ r ∈ g.topLevel, t.NeverTurnsBack (sourcePath output r)) :
    let ended := (writeTypes output g : StateM FileTree WriteReport).run t
    (∀ place e, t.get? place = some e → ended.2.get? place = some e) ∧
    (∀ p bytes, t.readFile p = .ok bytes → ended.2.readFile p = .ok bytes) ∧
    ∃ done later, g.topLevel = done ++ later ∧
      ended.1.written = done.map (sourcePath output) ∧ ended.1.written.Nodup ∧
      (ended.1.failure = none ↔ later = []) ∧
      (∀ r ∈ done, ∃ source, r.source.toString? = some source ∧
        ended.2.readFile (sourcePath output r) = .ok source.toUTF8) ∧
      ∀ place e, ended.2.get? place = some e → t.get? place = none → e = .directory ∨
        (∃ r ∈ done, ended.2.resolve true (sourcePath output r) = .ok (.found place e)) ∨
        ∃ r, later.head? = some r ∧
          ended.1.failure = some (.disk ⟨.noEncoding, sourcePath output r⟩) ∧
          e = .file "".toUTF8 ∧
          ended.2.resolve true (sourcePath output r) = .ok (.found place e) := by
  intro ended
  rcases writesAll_or_exists_failure output g.topLevel t with
    ⟨t', hall⟩ | ⟨done, r, later, before, failure, t', hsplit, hdone, hfailure⟩
  · have hended : ended = ({ written := g.topLevel.map (sourcePath output) }, t') := hall
    have hfiles := hall.writesFiles hback
    obtain ⟨hreads, hgrows⟩ := hfiles.extend (GrowsTo.refl t' fun _ e => e = .directory ∨ False)
    rw [hended]
    refine ⟨hgrows.kept, fun p bytes => hgrows.readFile_eq_ok, g.topLevel, [], by simp, rfl,
      hfiles.distinct, by simp, hreads, ?_⟩
    intro place e he hmissing
    rcases hgrows.added place e he with hold | hdirectory | hfile | hnothing
    · simp [hmissing] at hold
    · exact .inl hdirectory
    · exact .inr (.inl hfile)
    · exact hnothing.elim
  · have hended : ended =
        ({ written := done.map (sourcePath output), failure := some failure }, t') := by
      show (writeRecords output g.topLevel : StateM FileTree WriteReport).run t = _
      rw [hsplit]
      exact hdone.run_append hfailure
    rw [hsplit] at hback
    have hfiles := hdone.writesFiles fun r hr => hback r (List.mem_append_left _ hr)
    have hlast := hfiles.neverTurnsBack (hback r (by simp))
    obtain ⟨hreads, hgrows⟩ :=
      hfiles.extend (growsTo_of_writeRecord_error hlast hfailure)
    rw [hended]
    refine ⟨hgrows.kept, fun p bytes => hgrows.readFile_eq_ok, done, r :: later, hsplit, rfl,
      hfiles.distinct, by simp, hreads, ?_⟩
    intro place e he hmissing
    rcases hgrows.added place e he with hold | hdirectory | hfile | ⟨hfault, hempty⟩
    · simp [hmissing] at hold
    · exact .inl hdirectory
    · exact .inr (.inl hfile)
    · exact .inr (.inr ⟨r, rfl, congrArg some hfault, hempty⟩)

/-- A record of an enum without constants. -/
def recordOf (name : Text) (package : Option Text) (source : Text) : TypeRecord :=
  { name, package, declaration := .ofEnum { name, package, constants := [] }, source }

/-- Two records go into a directory that a link leads to, beside a file that stays. -/
theorem writeTypes_keeps_link :
    let t : FileTree :=
      { entries := [(["work"], .directory), (["work", "src"], .directory),
          (["work", "src", "Old.java"], .file "old".toUTF8), (["work", "gen"], .link "src"),
          (["work", "lost"], .link "nowhere")]
        workDirectory := ["work"] }
    let output : Path := { components := ["gen", "..", "gen"] }
    let g : Generated :=
      { topLevel := [recordOf "Old" (some "org.test") "old", recordOf "New" none "new"] }
    (∀ r ∈ g.topLevel, t.NeverTurnsBack (sourcePath output r)) ∧
      ((writeTypes output g : StateM FileTree WriteReport).run t).2.readFile
        { components := ["gen", "Old.java"] } = .ok "old".toUTF8 ∧
      ((writeTypes output g : StateM FileTree WriteReport).run t).1.failure = none ∧
      ((writeTypes output g : StateM FileTree WriteReport).run t).1.written.Nodup := by
  intro t output g
  have hback : ∀ r ∈ g.topLevel, t.NeverTurnsBack (sourcePath output r) := by decide +kernel
  have hread : t.readFile { components := ["gen", "Old.java"] } = .ok "old".toUTF8 := by
    decide +kernel
  have hnone : ((writeTypes output g : StateM FileTree WriteReport).run t).1.failure = none := by
    decide +kernel
  obtain ⟨-, hreads, done, later, -, -, hnodup, -⟩ := writeTypes_keeps output g t hback
  exact ⟨hback, hreads _ _ hread, hnone, hnodup⟩

/-- Behind a missing directory the way back leads to a file that was there all along. -/
theorem not_forall_writeTypes_keeps :
    ¬∀ (output : Path) (g : Generated) (t : FileTree),
      ∀ p bytes, t.readFile p = .ok bytes →
        ((writeTypes output g : StateM FileTree WriteReport).run t).2.readFile p = .ok bytes := by
  intro hall
  let t : FileTree :=
    { entries := [(["work"], .directory), (["work", "b"], .directory),
        (["work", "b", "X.java"], .file "old".toUTF8)]
      workDirectory := ["work"] }
  let r : TypeRecord := recordOf "X" none "new"
  have hread : t.readFile { components := ["b", "X.java"] } = .ok "old".toUTF8 := by
    decide +kernel
  have hkept := hall { components := ["a", "..", "b"] } { topLevel := [r] } t _ _ hread
  exact absurd hkept (by decide +kernel)

end KubeJava
