import KubeJava.Proofs.Numbering
import Mathlib.Data.Finset.Card

set_option autoImplicit false

/-! # Names given out in turn

A name that is used already is numbered by a loop that tries one number after the other and knows no
bound. It ends because no two of its candidates are one name, so that the used names run out first;
the plain name is used as well and is no candidate, which spares a step. Where the loop ends depends
on which names are used, not on how they are listed. Names that are given out one after the other,
each of them used from then on, are distinct and were all free at the start. -/

namespace KubeJava

namespace Java

/-! ## The loop -/

section Search

variable {candidate : Nat → Text} {used used' : List Text} {n steps steps' k k' : Nat}

/-- From the number `n` on the loop goes on for some steps, passing used candidates, and ends at the
number `k`, whose candidate is free. -/
inductive SearchEnds (candidate : Nat → Text) (used : List Text) : (n steps k : Nat) → Prop where
  | free {n : Nat} : candidate n ∉ used → SearchEnds candidate used n 0 n
  | taken {n steps k : Nat} : candidate n ∈ used → SearchEnds candidate used (n + 1) steps k →
      SearchEnds candidate used n (steps + 1) k

/-- Each step goes on by one number. -/
theorem SearchEnds.eq_add (h : SearchEnds candidate used n steps k) : k = n + steps := by
  induction h with
  | free => rfl
  | taken _ _ ih => omega

/-- The loop ends at the least number whose candidate is free. -/
theorem SearchEnds.least (h : SearchEnds candidate used n steps k) :
    candidate k ∉ used ∧ ∀ m, n ≤ m → m < k → candidate m ∈ used := by
  induction h with
  | free hfree => exact ⟨hfree, fun m _ _ => by omega⟩
  | taken hused _ ih =>
    refine ⟨ih.1, ?_⟩
    intro m hm hmk
    rcases Nat.lt_or_eq_of_le hm with hlt | rfl
    · exact ih.2 m hlt hmk
    · exact hused

theorem searchEnds_of_least (hfree : candidate (n + steps) ∉ used)
    (hused : ∀ m, n ≤ m → m < n + steps → candidate m ∈ used) :
    SearchEnds candidate used n steps (n + steps) := by
  induction steps generalizing n with
  | zero => exact .free hfree
  | succ steps ih =>
    have hshift : n + (steps + 1) = n + 1 + steps := by omega
    rw [hshift] at hfree hused ⊢
    exact .taken (hused n (by omega) (by omega)) (ih hfree fun m hm => hused m (by omega))

/-- The loop runs in one way only. -/
theorem SearchEnds.unique (h : SearchEnds candidate used n steps k)
    (h' : SearchEnds candidate used n steps' k') : steps = steps' ∧ k = k' := by
  induction h generalizing steps' with
  | free hfree =>
    cases h' with
    | free => exact ⟨rfl, rfl⟩
    | taken hused => exact absurd hused hfree
  | taken hused _ ih =>
    cases h' with
    | free hfree => exact absurd hused hfree
    | taken _ hrest =>
      obtain ⟨rfl, rfl⟩ := ih hrest
      exact ⟨rfl, rfl⟩

/-- Only the question which names are used counts. -/
theorem SearchEnds.congr (hsame : ∀ t, t ∈ used ↔ t ∈ used')
    (h : SearchEnds candidate used n steps k) : SearchEnds candidate used' n steps k := by
  induction h with
  | free hfree => exact .free (mt (hsame _).2 hfree)
  | taken hused _ ih => exact .taken ((hsame _).1 hused) ih

end Search

/-! ## Numbered names -/

variable {candidate : Text} {used used' : List Text}

/-- A candidate that is used gets the number at which the loop ends. -/
theorem searchEnds_uniqueName (hused : candidate ∈ used) : ∃ steps k, steps < used.length ∧
    SearchEnds (numbered candidate) used 2 steps k ∧
      uniqueName candidate used = numbered candidate k := by
  obtain ⟨k, hk, hlt, heq, hfree, hleast⟩ := firstFree_free (numbered candidate)
    (fun _ _ => numbered_injective candidate) hused (numbered_ne candidate) 2
  obtain ⟨steps, rfl⟩ := Nat.exists_eq_add_of_le hk
  refine ⟨steps, 2 + steps, by omega, searchEnds_of_least hfree hleast, ?_⟩
  rw [uniqueName, if_pos (by simpa using hused)]
  exact heq

/-- The name that is given out depends on which names are used, and on nothing else about them. -/
theorem uniqueName_congr (hsame : ∀ t, t ∈ used ↔ t ∈ used') :
    uniqueName candidate used = uniqueName candidate used' := by
  by_cases hused : candidate ∈ used
  · obtain ⟨_, k, -, hends, heq⟩ := searchEnds_uniqueName hused
    obtain ⟨_, k', -, hends', heq'⟩ := searchEnds_uniqueName ((hsame candidate).1 hused)
    obtain ⟨-, rfl⟩ := (hends.congr hsame).unique hends'
    rw [heq, heq']
  · rw [uniqueName, uniqueName, if_neg (by simpa using hused),
      if_neg (by simpa [← hsame] using hused)]

/-- The loop takes fewer steps than there are different used names. -/
theorem searchEnds_uniqueName_card (hused : candidate ∈ used) :
    ∃ steps k, steps < used.toFinset.card ∧
      SearchEnds (numbered candidate) used 2 steps k ∧
        uniqueName candidate used = numbered candidate k := by
  -- Names listed twice count once, so the loop is looked at where each is listed once.
  have hsame : ∀ t, t ∈ used.dedup ↔ t ∈ used := fun t => List.mem_dedup
  obtain ⟨steps, k, hlt, hends, heq⟩ := searchEnds_uniqueName ((hsame candidate).2 hused)
  rw [← List.card_toFinset] at hlt
  exact ⟨steps, k, hlt, hends.congr hsame, uniqueName_congr hsame ▸ heq⟩

/-! ## One name after the other -/

/-- The names for some candidates in turn, each of which is used from then on. -/
def uniqueNames : (used candidates : List Text) → List Text
  | _, [] => []
  | used, candidate :: rest =>
    uniqueName candidate used :: uniqueNames (uniqueName candidate used :: used) rest

/-- Names that are given out in turn are distinct, and none of them was used before. -/
theorem nodup_uniqueNames (used candidates : List Text) :
    (uniqueNames used candidates).Nodup ∧ ∀ name ∈ uniqueNames used candidates, name ∉ used := by
  -- The name given out first is one of the used names for all others.
  induction candidates generalizing used with
  | nil => simp [uniqueNames]
  | cons candidate rest ih =>
    obtain ⟨hnodup, hfree⟩ := ih (uniqueName candidate used :: used)
    simp only [List.mem_cons, not_or] at hfree
    exact ⟨List.nodup_cons.2 ⟨fun hmem => (hfree _ hmem).1 rfl, hnodup⟩, List.forall_mem_cons.2
      ⟨uniqueName_not_mem candidate used, fun name hname => (hfree name hname).2⟩⟩

/-- A candidate gets a name that is free: its own if that is, and otherwise the one with the least
number from 2 on that is. The loop over the numbers ends there, after fewer steps than there are used
names. So names given out in turn are distinct, and none of them was used before. -/
theorem uniqueName_least (candidate : Text) (used : List Text) :
    uniqueName candidate used ∉ used ∧
      (candidate ∉ used → uniqueName candidate used = candidate) ∧
      (candidate ∈ used → ∃ steps k, steps < used.toFinset.card ∧
        SearchEnds (numbered candidate) used 2 steps k ∧
        uniqueName candidate used = numbered candidate k ∧ 2 ≤ k ∧
        numbered candidate k ∉ used ∧ ∀ m, 2 ≤ m → m < k → numbered candidate m ∈ used) ∧
      ∀ candidates, (uniqueNames used candidates).Nodup ∧
        ∀ name ∈ uniqueNames used candidates, name ∉ used := by
  refine ⟨uniqueName_not_mem candidate used, ?_, ?_, nodup_uniqueNames used⟩
  · intro hfree
    rw [uniqueName, if_neg (by simpa using hfree)]
  · intro hused
    obtain ⟨steps, k, hlt, hends, heq⟩ := searchEnds_uniqueName_card hused
    obtain ⟨hfree, hleast⟩ := hends.least
    have hk : 2 ≤ k := by
      rw [hends.eq_add]
      exact Nat.le_add_right 2 steps
    exact ⟨steps, k, hlt, hends, heq, hk, hfree, hleast⟩

/-- A used name among numbered ones, with a gap between their numbers and one listed twice. -/
theorem uniqueName_least_gap :
    let used : List Text := ["item_2", "item", "item_4", "item"]
    ("item" : Text) ∈ used ∧ uniqueName "item" used = "item_3" ∧
      ∃ steps k, steps < used.toFinset.card ∧ SearchEnds (numbered "item") used 2 steps k ∧
        uniqueName "item" used = numbered "item" k ∧ 2 ≤ k ∧ numbered "item" k ∉ used ∧
        ∀ m, 2 ≤ m → m < k → numbered "item" m ∈ used := by
  intro used
  have hused : ("item" : Text) ∈ used := by decide
  exact ⟨hused, by decide +kernel, (uniqueName_least "item" used).2.2.1 hused⟩

end Java

end KubeJava
