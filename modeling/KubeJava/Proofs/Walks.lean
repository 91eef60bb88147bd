import KubeJava.Files.Tree

set_option autoImplicit false

/-! # Walks through file trees

A walk along a path goes from position to position until it stops, and what it leads to is read off
from where it stops. In a tree that has grown, a walk takes all the steps that it took before and
goes on from where it stopped. So whatever a path led to it still leads to, and a path that stopped
at a missing entry gets further only through what is new, unless a name behind the missing entry
leads back. -/

namespace KubeJava

namespace FileTree

variable {t t' : FileTree} {last : Bool} {p : Path} {place : Place} {e : Entry}

/-! ## Positions -/

/-- Where a walk stands: the number of links that it may still follow, the directory that it has
come to and the names that are left. -/
structure Position where
  links : Nat
  directory : Place
  names : List Text

/-- The place that the next name leads to, or the directory itself when no name is left. -/
def Position.heading (q : Position) : Place := q.directory ++ q.names.take 1

/-- The position after the next name, unless the walk stops before it. -/
def next? (t : FileTree) (last : Bool) : Position → Option Position
  | ⟨_, _, []⟩ => none
  | ⟨links, directory, name :: rest⟩ =>
    if name = parentName then some ⟨links, directory.dropLast, rest⟩
    else if maxNameBytes < Path.byteSize name then none
    else
      match t.get? (directory ++ [name]), links with
      | some .directory, _ => some ⟨links, directory ++ [name], rest⟩
      | some (.link target), links + 1 =>
        if rest.isEmpty && !last then none
        else
          let (start, names) := linkStart directory target
          some ⟨links, start, names ++ rest⟩
      | _, _ => none

/-- What a walk that stops at a position leads to. -/
def endAt (t : FileTree) (last : Bool) : Position → Except DiskFault Target
  | ⟨_, directory, []⟩ => .ok (.found directory .directory)
  | ⟨_, directory, name :: rest⟩ =>
    if maxNameBytes < Path.byteSize name then .error .nameTooLong
    else
      match t.get? (directory ++ [name]) with
      | none => if rest.isEmpty then .ok (.absent (directory ++ [name])) else .error .noEntry
      | some (.link target) =>
        if rest.isEmpty && !last then .ok (.found (directory ++ [name]) (.link target))
        else .error .tooManyLinks
      | some e => if rest.isEmpty then .ok (.found (directory ++ [name]) e) else .error .notDirectory

/-- The names that all links of a tree have together. -/
def linkNames (t : FileTree) : Nat :=
  (t.entries.flatMap fun x => match x.2 with
    | .link target => (Path.ofText target).components
    | _ => []).length

theorem length_linkStart_le {directory : Place} {target : Text}
    (h : t.get? place = some (.link target)) :
    (linkStart directory target).2.length ≤ t.linkNames := by
  show (Path.ofText target).components.length ≤ t.linkNames
  rw [get?, Entries.get?] at h
  split at h
  · cases h
  · obtain ⟨before, after, hsplit, -⟩ := List.lookup_eq_some_iff.1 h
    simp only [linkNames, hsplit, List.flatMap_append, List.flatMap_cons, List.length_append]
    omega

/-- Each step follows a link, for which there are as many more names as all links have, or uses up
a name. -/
def Position.weight (t : FileTree) (q : Position) : Nat :=
  q.links * (t.linkNames + 1) + q.names.length

theorem next?_decreases {q r : Position} (h : t.next? last q = some r) :
    r.weight t < q.weight t := by
  obtain ⟨links, directory, names⟩ := q
  cases names with
  | nil => simp [next?] at h
  | cons name rest =>
    simp only [next?] at h
    split at h
    · obtain rfl := Option.some.inj h
      simp [Position.weight]
    · split at h
      · cases h
      · split at h
        · obtain rfl := Option.some.inj h
          simp [Position.weight]
        · next target links' hentry =>
          split at h
          · cases h
          · obtain rfl := Option.some.inj h
            have hlength : (linkStart directory target).2.length ≤ t.linkNames :=
              length_linkStart_le hentry
            simp only [Position.weight, List.length_append, List.length_cons, Nat.succ_mul]
            omega
        · cases h

/-- Where a walk from a position stops. -/
def stop (t : FileTree) (last : Bool) (q : Position) : Position :=
  match _h : t.next? last q with
  | none => q
  | some r => t.stop last r
termination_by q.weight t
decreasing_by exact next?_decreases _h

theorem stop_of_next? {q r : Position} (h : t.next? last q = some r) :
    t.stop last q = t.stop last r := by
  rw [stop]
  split
  · next hnone => simp [hnone] at h
  · next r' hsome =>
    obtain rfl : r' = r := Option.some.inj (hsome.symm.trans h)
    rfl

theorem stop_of_stopped {q : Position} (h : t.next? last q = none) : t.stop last q = q := by
  rw [stop]
  split
  · rfl
  · next r hsome => simp [hsome] at h

/-- What holds where a walk stops, and before each step if it does after it, holds everywhere. -/
theorem walk_induction (t : FileTree) (last : Bool) {P : Position → Prop}
    (stopped : ∀ q, t.next? last q = none → P q)
    (step : ∀ q r, t.next? last q = some r → P r → P q) (q : Position) : P q := by
  induction q using stop.induct t last with
  | case1 q hnone => exact stopped q hnone
  | case2 q r hsome ih => exact step q r hsome ih

@[simp] theorem next?_stop (q : Position) : t.next? last (t.stop last q) = none := by
  induction q using walk_induction t last with
  | stopped q hnone => rw [stop_of_stopped hnone, hnone]
  | step q r hsome ih => rw [stop_of_next? hsome, ih]

/-- What each step keeps holds where the walk stops. -/
theorem stop_preserves {P : Position → Prop}
    (hstep : ∀ q r, t.next? last q = some r → P q → P r) {q : Position} (hq : P q) :
    P (t.stop last q) := by
  induction q using walk_induction t last with
  | stopped q hnone => rwa [stop_of_stopped hnone]
  | step q r hsome ih =>
    rw [stop_of_next? hsome]
    exact ih (hstep q r hsome hq)

/-! ## Steps and stops -/

/-- The steps of a walk: back to the directory around, into a directory, or along a link. -/
inductive Step (t : FileTree) (last : Bool) : Position → Position → Prop where
  | back (links : Nat) (directory : Place) (rest : List Text) :
      Step t last ⟨links, directory, parentName :: rest⟩ ⟨links, directory.dropLast, rest⟩
  | enter (links : Nat) {directory : Place} {name : Text} (rest : List Text) :
      name ≠ parentName → Path.byteSize name ≤ maxNameBytes →
      t.get? (directory ++ [name]) = some .directory →
      Step t last ⟨links, directory, name :: rest⟩ ⟨links, directory ++ [name], rest⟩
  | follow (links : Nat) {directory : Place} {name target : Text} {rest : List Text} :
      name ≠ parentName → Path.byteSize name ≤ maxNameBytes →
      t.get? (directory ++ [name]) = some (.link target) → (rest = [] → last = true) →
      Step t last ⟨links + 1, directory, name :: rest⟩
        ⟨links, (linkStart directory target).1, (linkStart directory target).2 ++ rest⟩

theorem next?_eq_some_iff {q r : Position} : t.next? last q = some r ↔ t.Step last q r := by
  constructor
  · intro h
    obtain ⟨links, directory, names⟩ := q
    cases names with
    | nil => simp [next?] at h
    | cons name rest =>
      simp only [next?] at h
      split at h
      · next hback =>
        obtain rfl := Option.some.inj h
        subst hback
        exact .back links directory rest
      · next hname =>
        split at h
        · cases h
        · next hsize =>
          split at h
          · next hentry =>
            obtain rfl := Option.some.inj h
            exact .enter _ rest hname (Nat.le_of_not_lt hsize) hentry
          · next target links' hentry =>
            split at h
            · cases h
            · next hlast =>
              obtain rfl := Option.some.inj h
              refine .follow links' hname (Nat.le_of_not_lt hsize) hentry ?_
              rintro rfl
              simpa using hlast
          · cases h
  · intro h
    cases h with
    | back links directory rest => simp [next?]
    | enter links rest hname hsize hentry =>
      simp [next?, hname, Nat.not_lt.2 hsize, hentry]
    | @follow links directory name target rest hname hsize hentry hlast =>
      have hfollowed : ¬(rest.isEmpty && !last) = true := by
        cases rest with
        | nil => simp [hlast rfl]
        | cons => simp
      simp only [next?, if_neg hname, if_neg (Nat.not_lt.2 hsize), hentry, if_neg hfollowed]

/-- A walk stops when no name is left, or before a name that leads nowhere, to a file, or to a link
that is not followed. -/
theorem stopped_cases {q : Position} (h : t.next? last q = none) :
    q.names = [] ∨ ∃ name rest, q.names = name :: rest ∧ name ≠ parentName ∧
      (maxNameBytes < Path.byteSize name ∨ t.get? (q.directory ++ [name]) = none ∨
        (∃ content, t.get? (q.directory ++ [name]) = some (.file content)) ∨
        ∃ target, t.get? (q.directory ++ [name]) = some (.link target) ∧
          (rest = [] ∧ last = false ∨ q.links = 0)) := by
  obtain ⟨links, directory, names⟩ := q
  cases names with
  | nil => exact .inl rfl
  | cons name rest =>
    refine .inr ⟨name, rest, rfl, ?_, ?_⟩
    · rintro rfl
      simp [next?] at h
    · by_cases hsize : maxNameBytes < Path.byteSize name
      · exact .inl hsize
      · right
        cases hentry : t.get? (directory ++ [name]) with
        | none => exact .inl rfl
        | some e =>
          right
          by_cases hname : name = parentName
          · simp [next?, hname] at h
          · cases e with
            | directory => simp [next?, hname, hsize, hentry] at h
            | file content => exact .inl ⟨content, rfl⟩
            | link target =>
              refine .inr ⟨target, rfl, ?_⟩
              cases links with
              | zero => exact .inr rfl
              | succ links =>
                simp only [next?, if_neg hname, if_neg hsize, hentry] at h
                split at h
                · next hlast =>
                  left
                  simpa using hlast
                · cases h

/-! ## Walks by positions -/

theorem walk_eq_of_step {q r : Position} (h : t.Step last q r) :
    t.walk last q.links q.directory q.names = t.walk last r.links r.directory r.names := by
  cases h with
  | back links directory rest =>
    cases links <;> simp [walk, walkWith]
  | enter links rest hname hsize hentry =>
    cases links <;> simp [walk, walkWith, hname, Nat.not_lt.2 hsize, hentry]
  | @follow links directory name target rest hname hsize hentry hlast =>
    have hfollowed : ¬(rest.isEmpty && !last) = true := by
      cases rest with
      | nil => simp [hlast rfl]
      | cons => simp
    simp only [walk, walkWith, if_neg hname, if_neg (Nat.not_lt.2 hsize), hentry, if_neg hfollowed]

theorem walk_eq_of_stopped {q : Position} (h : t.next? last q = none) :
    t.walk last q.links q.directory q.names = t.endAt last q := by
  obtain ⟨links, directory, names⟩ := q
  rcases stopped_cases h with hnames | ⟨name, rest, hnames, hname, hstop⟩
  · obtain rfl : names = [] := hnames
    cases links <;> rfl
  · obtain rfl : names = name :: rest := hnames
    rcases hstop with hsize | hmissing | ⟨content, hfile⟩ | ⟨target, hlink, hend⟩
    · cases links <;> simp [walk, walkWith, endAt, hname, hsize]
    · cases links <;> simp [walk, walkWith, endAt, hname, hmissing]
    · cases links <;> simp [walk, walkWith, endAt, hname, hfile]
    · rcases hend with ⟨rfl, rfl⟩ | hlinks
      · cases links <;> simp [walk, walkWith, endAt, hname, hlink]
      · obtain rfl : links = 0 := hlinks
        simp [walk, walkWith, endAt, hname, hlink]

/-- A walk leads to what is read off from where it stops. -/
theorem walk_eq_endAt (q : Position) :
    t.walk last q.links q.directory q.names = t.endAt last (t.stop last q) := by
  induction q using walk_induction t last with
  | stopped q hnone => rw [stop_of_stopped hnone, walk_eq_of_stopped hnone]
  | step q r hsome ih => rw [stop_of_next? hsome, walk_eq_of_step (next?_eq_some_iff.1 hsome), ih]

/-! ## Where walks end -/

/-- How a walk that stops can end: in the directory that it has come to, at the entry that it is
heading for, before the free name that is its last one, or with a refusal. -/
inductive EndsAt (t : FileTree) (last : Bool) (q : Position) : Except DiskFault Target → Prop where
  | inside : q.names = [] → EndsAt t last q (.ok (.found q.heading .directory))
  | found {e : Entry} : t.get? q.heading = some e → (∀ target, e = .link target → last = false) →
      EndsAt t last q (.ok (.found q.heading e))
  | absent {name : Text} : q.names = [name] → Path.byteSize name ≤ maxNameBytes →
      t.get? q.heading = none → EndsAt t last q (.ok (.absent q.heading))
  | refused {fault : DiskFault} :
      fault = .nameTooLong ∨ fault = .noEntry ∨ fault = .notDirectory ∨ fault = .tooManyLinks →
      EndsAt t last q (.error fault)

theorem endsAt_endAt (t : FileTree) (last : Bool) (q : Position) :
    t.EndsAt last q (t.endAt last q) := by
  obtain ⟨links, directory, names⟩ := q
  cases names with
  | nil =>
    have hinside : t.EndsAt last ⟨links, directory, []⟩
        (.ok (.found (Position.heading ⟨links, directory, []⟩) .directory)) := .inside rfl
    simpa [Position.heading, endAt] using hinside
  | cons name rest =>
    by_cases hsize : maxNameBytes < Path.byteSize name
    · rw [endAt, if_pos hsize]
      exact .refused (.inl rfl)
    · cases hentry : t.get? (directory ++ [name]) with
      | none =>
        cases rest with
        | nil =>
          simp only [endAt, if_neg hsize, hentry]
          exact .absent rfl (Nat.le_of_not_lt hsize) hentry
        | cons next rest =>
          simp only [endAt, if_neg hsize, hentry]
          exact .refused (.inr (.inl rfl))
      | some e =>
        cases e with
        | directory =>
          simp only [endAt, if_neg hsize, hentry]
          split
          · exact .found hentry nofun
          · exact .refused (.inr (.inr (.inl rfl)))
        | file content =>
          simp only [endAt, if_neg hsize, hentry]
          split
          · exact .found hentry nofun
          · exact .refused (.inr (.inr (.inl rfl)))
        | link target =>
          simp only [endAt, if_neg hsize, hentry]
          split
          · next hlast =>
            refine .found hentry fun _ _ => ?_
            simpa using (Bool.and_eq_true_iff.1 hlast).2
          · exact .refused (.inr (.inr (.inr rfl)))

/-- What an absent place is: the one that the last name would have. -/
theorem endAt_eq_absent {q : Position} (h : t.endAt last q = .ok (.absent place)) :
    place = q.heading ∧ t.get? place = none ∧
      ∃ name, q.names = [name] ∧ Path.byteSize name ≤ maxNameBytes := by
  have hends := t.endsAt_endAt last q
  rw [h] at hends
  cases hends with
  | absent hnames hsize hmissing => exact ⟨rfl, hmissing, _, hnames, hsize⟩

/-- What is found is where the walk was heading. -/
theorem endAt_eq_found {q : Position} (h : t.endAt last q = .ok (.found place e)) :
    place = q.heading ∧ (q.names = [] ∧ e = .directory ∨ t.get? place = some e) := by
  have hends := t.endsAt_endAt last q
  rw [h] at hends
  cases hends with
  | inside hnil => exact ⟨rfl, .inl ⟨hnil, rfl⟩⟩
  | found hentry _ => exact ⟨rfl, .inr hentry⟩

/-- A link is found only by a walk that does not follow the last name. -/
theorem endAt_ne_found_link {q : Position} {target : Text} :
    t.endAt true q ≠ .ok (.found place (.link target)) := by
  intro h
  have hends := t.endsAt_endAt true q
  rw [h] at hends
  cases hends with
  | found _ hlast => cases hlast target rfl

/-- A walk refuses for one of four reasons. -/
theorem endAt_eq_error {q : Position} {fault : DiskFault} (h : t.endAt last q = .error fault) :
    fault = .nameTooLong ∨ fault = .noEntry ∨ fault = .notDirectory ∨ fault = .tooManyLinks := by
  have hends := t.endsAt_endAt last q
  rw [h] at hends
  cases hends with
  | refused hfault => exact hfault

/-! ## Paths -/

/-- Where the walk along a path starts. -/
def startOf (t : FileTree) (p : Path) : Position :=
  ⟨maxLinks, if p.isAbsolute then [] else t.workDirectory, p.components⟩

/-- Where the walk along a path stops. -/
def stopOf (t : FileTree) (last : Bool) (p : Path) : Position := t.stop last (t.startOf p)

end FileTree

/-- The fault of a path that no tree takes. -/
def Path.refusal? (p : Path) : Option DiskFault :=
  if Path.hasBytes p.text = false then some .noEncoding
  else if p.text.contains '\x00' then some .zeroCharacter
  else if FileTree.maxPathBytes < Path.byteSize p.text then some .nameTooLong
  else none

namespace FileTree

variable {t : FileTree} {last : Bool} {p : Path}

theorem resolve_of_refusal {fault : DiskFault} (h : p.refusal? = some fault) :
    t.resolve last p = .error fault := by
  rw [resolve]
  unfold Path.refusal? at h
  split at h
  · next hbytes => simp_all
  · next hbytes =>
    split at h
    · next hzero => simp_all
    · next hzero =>
      split at h
      · next hsize => simp_all
      · cases h

theorem resolve_of_accepted (h : p.refusal? = none) :
    t.resolve last p = t.endAt last (t.stopOf last p) := by
  unfold Path.refusal? at h
  split at h
  · cases h
  · next hbytes =>
    split at h
    · cases h
    · next hzero =>
      split at h
      · cases h
      · next hsize =>
        rw [resolve, if_neg (by simpa using hbytes), if_neg hzero, if_neg hsize]
        exact walk_eq_endAt (t.startOf p)

/-- What a path leads to is read off from where the walk along it stops. -/
theorem resolve_eq_ok {target : Target} : t.resolve last p = .ok target ↔
    p.refusal? = none ∧ t.endAt last (t.stopOf last p) = .ok target := by
  cases h : p.refusal? with
  | none => simp [resolve_of_accepted h]
  | some fault => simp [resolve_of_refusal h]

end FileTree

end KubeJava
