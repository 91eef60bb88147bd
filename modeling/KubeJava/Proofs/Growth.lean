import KubeJava.Proofs.Walks
import Mathlib.Data.List.Induction

set_option autoImplicit false

/-! # Growing file trees

Creating directories and files adds entries to a tree and leaves those that are there. In the grown
tree every path that led to an entry leads to the same entry. A path that stopped at a missing entry
may get further, and where a name behind the missing entry leads back it may even come to an entry
that was there all along; where no name leads back, it comes to new entries only. -/

namespace KubeJava

namespace FileTree

variable {t t' t'' : FileTree} {last : Bool} {p : Path} {place : Place} {e : Entry}

/-! ## Entries -/

@[simp] theorem get?_nil : t.get? [] = some .directory := rfl

@[simp] theorem workDirectory_put : (t.put place e).workDirectory = t.workDirectory := by
  rw [put]
  split <;> rfl

@[simp] theorem get?_put_self (h : t.Admits place e) : (t.put place e).get? place = some e := by
  rw [get?, put, dif_pos h]
  exact Entries.get?_put_self h.below

@[simp] theorem get?_put_of_ne {other : Place} (h : other ≠ place) :
    (t.put place e).get? other = t.get? other := by
  rw [get?, put]
  split
  · exact Entries.get?_put_of_ne h
  · rfl

/-- Whatever lies below a place lies in a directory. -/
theorem get?_of_get?_append {name : Text} (h : t.get? (place ++ [name]) = some e) :
    t.get? place = some .directory := by
  rw [get?, Entries.get?, if_neg (by simp)] at h
  obtain ⟨before, after, hsplit, -⟩ := List.lookup_eq_some_iff.1 h
  have haround := (t.within (place ++ [name], e) (by simp [hsplit])).2
  rwa [List.dropLast_concat] at haround

/-- Nothing lies below a missing entry. -/
theorem get?_append_eq_none (h : t.get? place = none) (rest : List Text) :
    t.get? (place ++ rest) = none := by
  induction rest using List.reverseRecOn with
  | nil => rwa [List.append_nil]
  | append_singleton rest name ih =>
    rw [← List.append_assoc]
    cases hsome : t.get? (place ++ rest ++ [name]) with
    | none => rfl
    | some e => simp [get?_of_get?_append hsome] at ih

/-! ## Growth -/

/-- The second tree has the entries of the first, and whatever else it has is as told by `new`. -/
structure GrowsTo (t : FileTree) (new : Place → Entry → Prop) (t' : FileTree) : Prop where
  workDirectory : t'.workDirectory = t.workDirectory
  kept : ∀ place e, t.get? place = some e → t'.get? place = some e
  added : ∀ place e, t'.get? place = some e → t.get? place = some e ∨ new place e

variable {new new' : Place → Entry → Prop}

theorem GrowsTo.refl (t : FileTree) (new : Place → Entry → Prop) : t.GrowsTo new t :=
  ⟨rfl, fun _ _ h => h, fun _ _ h => .inl h⟩

theorem GrowsTo.trans (h : t.GrowsTo new t') (h' : t'.GrowsTo new t'') : t.GrowsTo new t'' := by
  refine ⟨h'.workDirectory.trans h.workDirectory, ?_, ?_⟩
  · intro place e he
    exact h'.kept place e (h.kept place e he)
  · intro place e he
    rcases h'.added place e he with he | hnew
    · exact h.added place e he
    · exact .inr hnew

theorem GrowsTo.mono (h : t.GrowsTo new t') (hnew : ∀ place e, new place e → new' place e) :
    t.GrowsTo new' t' :=
  ⟨h.workDirectory, h.kept, fun place e he => (h.added place e he).imp_right (hnew place e)⟩

theorem growsTo_put (h : t.get? place = none) :
    t.GrowsTo (fun other e' => other = place ∧ e' = e) (t.put place e) := by
  refine ⟨workDirectory_put, ?_, ?_⟩
  · intro other e' he'
    have hother : other ≠ place := by
      rintro rfl
      simp [h] at he'
    rw [get?_put_of_ne hother, he']
  · intro other e' he'
    by_cases hadmits : t.Admits place e
    · by_cases hother : other = place
      · subst hother
        rw [get?_put_self hadmits, Option.some.injEq] at he'
        exact .inr ⟨rfl, he'.symm⟩
      · rw [get?_put_of_ne hother] at he'
        exact .inl he'
    · rw [put, dif_neg hadmits] at he'
      exact .inl he'

/-! ## Walks in grown trees -/

theorem GrowsTo.step (h : t.GrowsTo new t') {q r : Position} (hstep : t.Step last q r) :
    t'.Step last q r := by
  cases hstep with
  | back links directory rest => exact .back links directory rest
  | enter links rest hname hsize hentry => exact .enter links rest hname hsize (h.kept _ _ hentry)
  | follow links hname hsize hentry hlast =>
    exact .follow links hname hsize (h.kept _ _ hentry) hlast

/-- In the grown tree a walk goes on from where it stopped. -/
theorem GrowsTo.stop_eq (h : t.GrowsTo new t') (q : Position) :
    t'.stop last q = t'.stop last (t.stop last q) := by
  induction q using walk_induction t last with
  | stopped q hnone => rw [stop_of_stopped hnone]
  | step q r hsome ih =>
    have hsome' : t'.next? last q = some r :=
      next?_eq_some_iff.2 (h.step (next?_eq_some_iff.1 hsome))
    rw [stop_of_next? hsome, stop_of_next? hsome', ih]

theorem GrowsTo.stopOf_eq (h : t.GrowsTo new t') :
    t'.stopOf last p = t'.stop last (t.stopOf last p) := by
  rw [stopOf, startOf, h.workDirectory]
  exact h.stop_eq (t.startOf p)

/-- Whether and why a walk stops hangs on nothing but the entry that it is heading for, and before a
missing one it makes no difference whether the last name is followed. -/
theorem next?_congr {last' : Bool} {q : Position}
    (h : q.names ≠ [] → t'.get? q.heading = t.get? q.heading)
    (hlast : last' = last ∨ t.get? q.heading = none) :
    t'.next? last' q = t.next? last q ∧ t'.endAt last' q = t.endAt last q := by
  obtain ⟨links, directory, names⟩ := q
  cases names with
  | nil => exact ⟨rfl, rfl⟩
  | cons name rest =>
    have hentry : t'.get? (directory ++ [name]) = t.get? (directory ++ [name]) := h (by simp)
    simp only [next?, endAt, hentry]
    rcases hlast with rfl | hmissing
    · exact ⟨rfl, rfl⟩
    · have hnone : t.get? (directory ++ [name]) = none := hmissing
      simp [hnone]

/-- The walk along the path stops before a name that no entry has. -/
def MissesOn (t : FileTree) (last : Bool) (p : Path) : Prop :=
  (t.stopOf last p).names ≠ [] ∧ t.get? (t.stopOf last p).heading = none

instance : Decidable (t.MissesOn last p) :=
  decidable_of_iff
    ((t.stopOf last p).names ≠ [] ∧ (t.get? (t.stopOf last p).heading).isNone = true) <|
    and_congr_right fun _ => Option.isNone_iff_eq_none

theorem not_missesOn_of_found (h : t.resolve last p = .ok (.found place e)) :
    ¬t.MissesOn last p := by
  rintro ⟨hnames, hmissing⟩
  obtain ⟨rfl, ⟨hnil, -⟩ | he⟩ := endAt_eq_found (resolve_eq_ok.1 h).2
  · exact hnames hnil
  · rw [hmissing] at he
    cases he

/-- A walk that stops otherwise stops there in the grown tree. -/
theorem GrowsTo.stopOf_eq_self (h : t.GrowsTo new t') (hentry : ¬t.MissesOn last p) :
    t'.stopOf last p = t.stopOf last p ∧ ((t.stopOf last p).names ≠ [] →
      t'.get? (t.stopOf last p).heading = t.get? (t.stopOf last p).heading) := by
  have hget : (t.stopOf last p).names ≠ [] →
      t'.get? (t.stopOf last p).heading = t.get? (t.stopOf last p).heading := by
    intro hnames
    obtain ⟨e, he⟩ := Option.ne_none_iff_exists'.1 fun hmissing => hentry ⟨hnames, hmissing⟩
    rw [he]
    exact h.kept _ _ he
  refine ⟨?_, hget⟩
  rw [h.stopOf_eq]
  apply stop_of_stopped
  rw [(next?_congr hget (.inl rfl)).1]
  exact next?_stop (t.startOf p)

theorem GrowsTo.resolve_eq (h : t.GrowsTo new t') (hentry : ¬t.MissesOn last p) :
    t'.resolve last p = t.resolve last p := by
  obtain ⟨hstop, hget⟩ := h.stopOf_eq_self hentry
  cases hrefusal : p.refusal? with
  | some fault => rw [resolve_of_refusal hrefusal, resolve_of_refusal hrefusal]
  | none =>
    rw [resolve_of_accepted hrefusal, resolve_of_accepted hrefusal, hstop]
    exact (next?_congr hget (.inl rfl)).2

/-- What a path leads to it leads to in the grown tree. -/
theorem GrowsTo.resolve_eq_found (h : t.GrowsTo new t')
    (hfound : t.resolve last p = .ok (.found place e)) :
    t'.resolve last p = .ok (.found place e) := by
  rw [h.resolve_eq (not_missesOn_of_found hfound), hfound]

/-! ## Where walks end -/

/-- A walk is in a directory wherever it stands. -/
theorem get?_directory_stop {q : Position} (h : t.get? q.directory = some .directory) :
    t.get? (t.stop last q).directory = some .directory := by
  refine stop_preserves (P := fun q => t.get? q.directory = some .directory) ?_ h
  intro q r hnext hq
  cases next?_eq_some_iff.1 hnext with
  | back links directory rest =>
    rcases List.eq_nil_or_concat directory with rfl | ⟨around, name, rfl⟩
    · rfl
    · rw [List.concat_eq_append] at hq ⊢
      rw [List.dropLast_concat]
      exact get?_of_get?_append hq
  | enter links rest hname hsize hentry => exact hentry
  | follow links hname hsize hentry hlast =>
    simp only [linkStart]
    split
    · rfl
    · exact hq

theorem get?_directory_stopOf : t.get? (t.stopOf last p).directory = some .directory := by
  apply get?_directory_stop
  simp only [startOf]
  split
  · rfl
  · exact t.working

/-- What a path leads to is there. -/
theorem get?_of_resolve_eq_found (h : t.resolve last p = .ok (.found place e)) :
    t.get? place = some e := by
  obtain ⟨rfl, ⟨hnames, rfl⟩ | he⟩ := endAt_eq_found (resolve_eq_ok.1 h).2
  · rw [Position.heading, hnames]
    simpa using get?_directory_stopOf
  · exact he

theorem get?_of_resolve_eq_absent (h : t.resolve last p = .ok (.absent place)) :
    t.get? place = none :=
  (endAt_eq_absent (resolve_eq_ok.1 h).2).2.1

/-- A free name in a directory admits every entry. -/
theorem admits_of_resolve_eq_absent (h : t.resolve last p = .ok (.absent place)) :
    t.Admits place e := by
  obtain ⟨hplace, hmissing, name, hnames, -⟩ := endAt_eq_absent (resolve_eq_ok.1 h).2
  have hheading : place = (t.stopOf last p).directory ++ [name] := by
    rw [hplace, Position.heading, hnames]
    rfl
  refine ⟨by simp [hheading], ?_, ?_⟩
  · rw [hheading, List.dropLast_concat]
    exact get?_directory_stopOf
  · intro hdirectory
    simp [hmissing] at hdirectory

/-! ## Ahead of a missing entry -/

/-- If the walk along the path stops before a name that no entry has, no name behind it leads
back. -/
def NeverTurnsBack (t : FileTree) (p : Path) : Prop :=
  t.MissesOn true p → parentName ∉ (t.stopOf true p).names

instance : Decidable (t.NeverTurnsBack p) :=
  inferInstanceAs (Decidable (_ → _))

/-- A path without names that lead back never turns back where the links have none either. -/
theorem neverTurnsBack_of_not_mem (hp : parentName ∉ p.components)
    (hlinks : ∀ place target, t.get? place = some (.link target) →
      parentName ∉ (Path.ofText target).components) : t.NeverTurnsBack p := by
  intro _
  have hstop : parentName ∉ (t.stop true (t.startOf p)).names := by
    refine stop_preserves (P := fun q => parentName ∉ q.names) ?_ hp
    intro q r hnext hq
    cases next?_eq_some_iff.1 hnext with
    | back links directory rest => exact absurd List.mem_cons_self hq
    | enter links rest hname hsize hentry => exact fun hmem => hq (List.mem_cons_of_mem _ hmem)
    | follow links hname hsize hentry hlast =>
      intro hmem
      rcases List.mem_append.1 hmem with htarget | hrest
      · exact hlinks _ _ hentry htarget
      · exact hq (List.mem_cons_of_mem _ hrest)
  exact hstop

/-- The walk is heading for the place or below it, and no name that is left leads back. -/
def Position.Ahead (place : Place) (q : Position) : Prop :=
  place <+: q.heading ∧ parentName ∉ q.names

/-- Where a tree has no links, a walk ahead stays ahead. -/
theorem ahead_stop {q : Position}
    (hlink : ∀ rest target, t.get? (place ++ rest) ≠ some (.link target))
    (h : q.Ahead place) : (t.stop last q).Ahead place := by
  refine stop_preserves (P := Position.Ahead place) ?_ h
  intro q r hnext hq
  obtain ⟨hheading, hnames⟩ := hq
  cases next?_eq_some_iff.1 hnext with
  | back links directory rest => exact absurd List.mem_cons_self hnames
  | enter links rest hname hsize hentry =>
    refine ⟨hheading.trans ?_, fun hmem => hnames (List.mem_cons_of_mem _ hmem)⟩
    exact List.prefix_append _ _
  | follow links hname hsize hentry hlast =>
    obtain ⟨rest, hrest⟩ := hheading
    refine absurd hentry ?_
    have hplace : place ++ rest = _ ++ [_] := hrest
    rw [← hplace]
    exact hlink rest _

/-- Below an entry that was missing there are no links but new ones. -/
theorem GrowsTo.ahead_stopOf (h : t.GrowsTo new t')
    (hnew : ∀ place target, ¬new place (.link target)) (hmisses : t.MissesOn true p)
    (hback : t.NeverTurnsBack p) :
    (t'.stopOf true p).Ahead (t.stopOf true p).heading := by
  rw [h.stopOf_eq]
  refine ahead_stop ?_ ⟨List.prefix_rfl, hback hmisses⟩
  intro rest target hentry
  rcases h.added _ _ hentry with hold | hadded
  · rw [get?_append_eq_none hmisses.2 rest] at hold
    cases hold
  · exact hnew _ _ hadded

/-- A path that never turns back never does so in the grown tree either. -/
theorem NeverTurnsBack.mono (hback : t.NeverTurnsBack p) (h : t.GrowsTo new t')
    (hnew : ∀ place target, ¬new place (.link target)) : t'.NeverTurnsBack p := by
  intro hmisses'
  by_cases hmisses : t.MissesOn true p
  · exact (h.ahead_stopOf hnew hmisses hback).2
  · obtain ⟨hstop, hget⟩ := h.stopOf_eq_self hmisses
    rw [MissesOn, hstop] at hmisses'
    rw [hget hmisses'.1] at hmisses'
    exact absurd hmisses' hmisses

/-- A path that led to no entry and never turns back comes to nothing that was there before. -/
theorem NeverTurnsBack.get?_eq_none (hback : t.NeverTurnsBack p) (h : t.GrowsTo new t')
    (hnew : ∀ place target, ¬new place (.link target))
    (habsent : ∀ place e, t.resolve true p ≠ .ok (.found place e))
    (hfound : t'.resolve true p = .ok (.found place e)) : t.get? place = none := by
  by_cases hmisses : t.MissesOn true p
  · obtain ⟨rest, hrest⟩ := (h.ahead_stopOf hnew hmisses hback).1
    obtain ⟨rfl, -⟩ := endAt_eq_found (resolve_eq_ok.1 hfound).2
    rw [← hrest]
    exact get?_append_eq_none hmisses.2 rest
  · rw [h.resolve_eq hmisses] at hfound
    exact absurd hfound (habsent place e)

/-! ## What is put is found -/

theorem Step.following {q r : Position} (h : t.Step last q r) : t.Step true q r := by
  cases h with
  | back links directory rest => exact .back links directory rest
  | enter links rest hname hsize hentry => exact .enter links rest hname hsize hentry
  | follow links hname hsize hentry hlast =>
    exact .follow links hname hsize hentry fun _ => rfl

theorem stop_last_eq {q : Position} (h : t.get? (t.stop last q).heading = none) :
    t.stop true q = t.stop last q := by
  induction q using walk_induction t last with
  | stopped q hnone =>
    rw [stop_of_stopped hnone] at h ⊢
    apply stop_of_stopped
    rw [(next?_congr (fun _ => rfl) (.inr h)).1, hnone]
  | step q r hsome ih =>
    have hsome' : t.next? true q = some r :=
      next?_eq_some_iff.2 (next?_eq_some_iff.1 hsome).following
    rw [stop_of_next? hsome] at h ⊢
    rw [stop_of_next? hsome', ih h]

/-- A path that leads to nothing when the last name is not followed leads to nothing at all. -/
theorem resolve_true_of_absent (h : t.resolve last p = .ok (.absent place)) :
    t.resolve true p = .ok (.absent place) := by
  obtain ⟨hrefusal, hend⟩ := resolve_eq_ok.1 h
  obtain ⟨hplace, hmissing, -⟩ := endAt_eq_absent hend
  rw [hplace] at hmissing
  have hstop : t.stopOf true p = t.stopOf last p := stop_last_eq hmissing
  refine resolve_eq_ok.2 ⟨hrefusal, ?_⟩
  rw [hstop, (next?_congr (fun _ => rfl) (.inr hmissing)).2, hend]

/-- The path that led to nothing leads to the entry that is put there. -/
theorem resolve_put (h : t.resolve last p = .ok (.absent place))
    (he : ∀ target, e ≠ .link target) :
    (t.put place e).resolve true p = .ok (.found place e) := by
  obtain ⟨hrefusal, hend⟩ := resolve_eq_ok.1 (resolve_true_of_absent h)
  have hgrows := growsTo_put (e := e) (get?_of_resolve_eq_absent h)
  have hstop : (t.put place e).stopOf true p = (t.put place e).stop true (t.stopOf true p) :=
    hgrows.stopOf_eq
  have hnext : t.next? true (t.stopOf true p) = none := next?_stop _
  have hadmits : t.Admits place e := admits_of_resolve_eq_absent h
  refine resolve_eq_ok.2 ⟨hrefusal, ?_⟩
  rw [hstop]
  -- The walk in the new tree starts again before the name that was missing.
  generalize t.stopOf true p = q at hend hnext
  obtain ⟨hplace, hmissing, name, hnames, hsize⟩ := endAt_eq_absent hend
  obtain ⟨links, directory, names⟩ := q
  obtain rfl : names = [name] := hnames
  have hname : name ≠ parentName := by
    rintro rfl
    simp [next?] at hnext
  obtain rfl : place = directory ++ [name] := hplace
  have hput : (t.put (directory ++ [name]) e).get? (directory ++ [name]) = some e :=
    get?_put_self hadmits
  cases e with
  | directory =>
    have hstep : (t.put (directory ++ [name]) .directory).next? true ⟨links, directory, [name]⟩ =
        some ⟨links, directory ++ [name], []⟩ :=
      next?_eq_some_iff.2 (.enter links [] hname hsize hput)
    rw [stop_of_next? hstep, stop_of_stopped rfl]
    rfl
  | file content =>
    rw [stop_of_stopped (by simp [next?, hname, Nat.not_lt.2 hsize, hput])]
    simp [endAt, Nat.not_lt.2 hsize, hput]
  | link target => exact absurd rfl (he target)

end FileTree

end KubeJava
