import KubeJava.Text.Lines

set_option autoImplicit false

/-! # Places in lists and splitting at separators

Where a place in a concatenation lies, and what splitting a text at a separator gives for a text
that is put together from parts. -/

namespace KubeJava

/-! ## Places -/

/-- Where a place in two lists put together lies. -/
theorem append_eq_append_cons {α : Type} {as bs earlier later : List α} {x : α}
    (h : as ++ bs = earlier ++ x :: later) :
    (∃ rest, as = earlier ++ x :: rest ∧ later = rest ++ bs) ∨
      ∃ before, bs = before ++ x :: later ∧ earlier = as ++ before := by
  rcases List.append_eq_append_iff.1 h with ⟨before, rfl, hbs⟩ | ⟨rest, rfl, hrest⟩
  · exact .inr ⟨before, hbs, rfl⟩
  · cases rest with
    | nil => exact .inr ⟨[], by simpa using hrest.symm, by simp⟩
    | cons y ys =>
      obtain ⟨rfl, rfl⟩ := List.cons.inj hrest
      exact .inl ⟨ys, rfl, rfl⟩

/-- Where a place in the concatenation of lists lies. -/
theorem flatMap_eq_append_cons {α β : Type} {f : α → List β} {as : List α}
    {earlier later : List β} {x : β} (h : as.flatMap f = earlier ++ x :: later) :
    ∃ as₁ a as₂ before after, as = as₁ ++ a :: as₂ ∧ f a = before ++ x :: after ∧
      earlier = as₁.flatMap f ++ before ∧ later = after ++ as₂.flatMap f := by
  induction as generalizing earlier with
  | nil => simp at h
  | cons a as₂ ih =>
    rw [List.flatMap_cons] at h
    rcases append_eq_append_cons h with ⟨after, ha, rfl⟩ | ⟨before, hbefore, rfl⟩
    · exact ⟨[], a, as₂, earlier, after, rfl, ha, rfl, rfl⟩
    · obtain ⟨as₁, b, as₃, before', after, rfl, hb, rfl, rfl⟩ := ih hbefore
      exact ⟨a :: as₁, b, as₃, before', after, rfl, hb, by simp, rfl⟩

/-- Two lists that go on after their first separator agree before and after it. -/
theorem append_cons_inj_of_not_mem {α : Type} {sep : α} {as bs as' bs' : List α} (ha : sep ∉ as)
    (ha' : sep ∉ as') (h : as ++ sep :: bs = as' ++ sep :: bs') : as = as' ∧ bs = bs' := by
  rcases append_eq_append_cons h with ⟨rest, rfl, -⟩ | ⟨before, hbefore, rfl⟩
  · exact absurd (by simp) ha
  · cases before with
    | nil => simp_all
    | cons b _ =>
      obtain ⟨rfl, -⟩ := List.cons.inj hbefore
      exact absurd (by simp) ha'

/-! ## Splitting -/

namespace Text

variable {α : Type} [DecidableEq α] {sep : α}

@[simp] theorem partsAt_of_not_mem {as : List α} (h : sep ∉ as) : partsAt sep as = [as] := by
  induction as with
  | nil => rfl
  | cons a as ih =>
    rw [List.mem_cons, not_or] at h
    simp only [partsAt, if_neg (Ne.symm h.1), ih h.2]

/-- No part has a separator, and the parts have no other members than the list. -/
theorem mem_partsAt {as part : List α} (h : part ∈ partsAt sep as) :
    sep ∉ part ∧ ∀ a ∈ part, a ∈ as := by
  induction as generalizing part with
  | nil =>
    obtain rfl := List.mem_singleton.1 h
    simp
  | cons a as ih =>
    rw [partsAt] at h
    by_cases ha : a = sep
    · rw [if_pos ha] at h
      rcases List.mem_cons.1 h with rfl | h
      · simp
      · exact ⟨(ih h).1, fun b hb => List.mem_cons_of_mem a ((ih h).2 b hb)⟩
    · obtain ⟨first, rest, has⟩ := List.exists_cons_of_ne_nil (partsAt_ne_nil sep as)
      rw [if_neg ha, has] at h
      rw [has] at ih
      rcases List.mem_cons.1 h with rfl | h
      · obtain ⟨hsep, hsub⟩ := ih List.mem_cons_self
        refine ⟨by simp [Ne.symm ha, hsep], List.forall_mem_cons.2 ⟨List.mem_cons_self, ?_⟩⟩
        exact fun b hb => List.mem_cons_of_mem a (hsub b hb)
      · obtain ⟨hsep, hsub⟩ := ih (List.mem_cons_of_mem first h)
        exact ⟨hsep, fun b hb => List.mem_cons_of_mem a (hsub b hb)⟩

/-- A separator ends the part before it. -/
@[simp] theorem partsAt_append_cons (as bs : List α) :
    partsAt sep (as ++ sep :: bs) = partsAt sep as ++ partsAt sep bs := by
  induction as with
  | nil => simp [partsAt]
  | cons a as ih =>
    rw [List.cons_append, partsAt, partsAt, ih]
    by_cases ha : a = sep
    · simp [ha]
    · obtain ⟨part, parts, has⟩ := List.exists_cons_of_ne_nil (partsAt_ne_nil sep as)
      simp [ha, has]

/-- Parts without separators are what their joining splits into. -/
theorem partsAt_intercalate_of_not_mem {parts : List (List α)} (h : parts ≠ [])
    (hsep : ∀ part ∈ parts, sep ∉ part) : partsAt sep ([sep].intercalate parts) = parts := by
  induction parts with
  | nil => exact absurd rfl h
  | cons part rest ih =>
    obtain ⟨hpart, hrest⟩ := List.forall_mem_cons.1 hsep
    cases rest with
    | nil => simp [hpart]
    | cons next rest => simp [List.intercalate_cons_cons, hpart, ih (by simp) hrest]

/-- Parts that are ended by the separator split one by one, and an empty part follows them. -/
theorem partsAt_intercalate {parts : List (List α)} (h : parts ≠ []) :
    partsAt sep ([sep].intercalate parts ++ [sep]) = parts.flatMap (partsAt sep) ++ [[]] := by
  induction parts with
  | nil => exact absurd rfl h
  | cons part rest ih =>
    cases rest with
    | nil => simp [partsAt]
    | cons next rest =>
      have hrest := ih (by simp)
      simp [List.intercalate_cons_cons, hrest]

@[simp] theorem dotParts_of_not_mem {t : Text} (h : ('.' : CodePoint) ∉ t) : t.dotParts = [t] :=
  partsAt_of_not_mem h

@[simp] theorem dotParts_append_cons (t u : Text) :
    (t ++ ('.' : CodePoint) :: u).dotParts = t.dotParts ++ u.dotParts :=
  partsAt_append_cons t u

@[simp] theorem dotParts_ne_nil (t : Text) : t.dotParts ≠ [] := partsAt_ne_nil _ _

end Text

end KubeJava
