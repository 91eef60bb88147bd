import KubeJava.Proofs.Classification

set_option autoImplicit false

/-! # Unsupported schemas

A schema is left without a Java type for one of four reasons, each of which is said here of the
schema alone. No schema is unsupported for two of them: the dispatch gives the one that holds, and
for an enum the first value that is neither text nor null. -/

namespace KubeJava

open Java (TypeTable)

/-! ## Reasons -/

/-- What can be a value of an enum: a text, or null, which only marks that the value may be
absent. -/
def Document.IsTextOrNull (d : Document) : Prop := d = .null ∨ ∃ t, d = .str t

/-- What leaves a schema without a Java type, with the reason to tell. -/
inductive Schema.UnfitFor (table : TypeTable) (s : Schema) : UnsupportedReason → Prop where
  | arrayWithoutItems : s.type = some ("array" : Text) → s.items = none →
      UnfitFor table s .arrayWithoutItems
  | noType : s.type = none → s.properties = none → s.preserveUnknownFields ≠ some true →
      UnfitFor table s .noType
  /-- The first value of an enum that is no text is told. -/
  | nonStringEnumValue {before after : List Document} {v : Document} :
      s.type = some ("string" : Text) → s.enum = some (before ++ v :: after) →
      (∀ u ∈ before, u.IsTextOrNull) → ¬v.IsTextOrNull → UnfitFor table s (.nonStringEnumValue v)
  | unknownType {type : Text} : s.type = some type → type ≠ "array" → type ≠ "object" →
      ¬(type = "string" ∧ s.enum.isSome) → table.lookup type s.format = none →
      UnfitFor table s (.unknownType type)

/-- A schema that is marked as an integer or a text is always supported. -/
def Schema.UnsupportedFor (table : TypeTable) (s : Schema) (reason : UnsupportedReason) : Prop :=
  s.intOrString ≠ some true ∧ s.UnfitFor table reason

/-! ## Literals -/

theorem textLiterals_cons_of_isTextOrNull {d : Document} (h : d.IsTextOrNull)
    (rest : List Document) : ∃ f : List Text → List Text,
      textLiterals (d :: rest) = (textLiterals rest).map f := by
  rcases h with rfl | ⟨t, rfl⟩
  · refine ⟨id, ?_⟩
    rw [textLiterals]
    cases textLiterals rest <;> rfl
  · exact ⟨(t :: ·), by rw [textLiterals]⟩

theorem textLiterals_cons_of_not_isTextOrNull {d : Document} (h : ¬d.IsTextOrNull)
    (rest : List Document) : textLiterals (d :: rest) = .error d := by
  unfold textLiterals
  split
  · next heq => cases heq
  · next heq =>
    obtain ⟨rfl, -⟩ := List.cons.inj heq
    exact absurd (.inl rfl) h
  · next t _ heq =>
    obtain ⟨rfl, -⟩ := List.cons.inj heq
    exact absurd (.inr ⟨t, rfl⟩) h
  · next heq =>
    obtain ⟨rfl, -⟩ := List.cons.inj heq
    rfl

/-- Literals are refused for the first value that is neither text nor null. -/
theorem textLiterals_eq_error_iff {values : List Document} {v : Document} :
    textLiterals values = .error v ↔ ∃ before after, values = before ++ v :: after ∧
      (∀ u ∈ before, u.IsTextOrNull) ∧ ¬v.IsTextOrNull := by
  induction values with
  | nil => simp [textLiterals]
  | cons d rest ih =>
    by_cases hd : d.IsTextOrNull
    · obtain ⟨f, hf⟩ := textLiterals_cons_of_isTextOrNull hd rest
      have hrest : textLiterals (d :: rest) = .error v ↔ textLiterals rest = .error v := by
        rw [hf]
        cases textLiterals rest <;> simp [Except.map]
      rw [hrest, ih]
      constructor
      · rintro ⟨before, after, rfl, hbefore, hv⟩
        exact ⟨d :: before, after, rfl, List.forall_mem_cons.2 ⟨hd, hbefore⟩, hv⟩
      · rintro ⟨before, after, heq, hbefore, hv⟩
        cases before with
        | nil =>
          obtain ⟨rfl, -⟩ := List.cons.inj heq
          exact absurd hd hv
        | cons u before =>
          obtain ⟨-, rfl⟩ := List.cons.inj heq
          exact ⟨before, after, rfl, (List.forall_mem_cons.1 hbefore).2, hv⟩
    · rw [textLiterals_cons_of_not_isTextOrNull hd]
      constructor
      · intro h
        obtain rfl := Except.error.inj h
        exact ⟨[], rest, rfl, by simp, hd⟩
      · rintro ⟨before, after, heq, hbefore, -⟩
        cases before with
        | nil =>
          obtain ⟨rfl, -⟩ := List.cons.inj heq
          rfl
        | cons u before =>
          obtain ⟨rfl, -⟩ := List.cons.inj heq
          exact absurd (hbefore _ List.mem_cons_self) hd

theorem exists_textLiterals_iff {values : List Document} :
    (∃ literals, textLiterals values = .ok literals) ↔
      ∀ v ∈ values, v = .null ∨ ∃ t, v = .str t := by
  fun_induction textLiterals values with
  | case1 => simp
  | case2 rest ih => simpa using ih
  | case3 t rest ih =>
    rw [List.forall_mem_cons, ← ih]
    cases textLiterals rest <;> simp [Except.map]
  | case4 d rest hnull hstr =>
    refine iff_of_false (by simp) fun h => ?_
    rcases h d List.mem_cons_self with rfl | ⟨t, rfl⟩
    · exact hnull rfl
    · exact hstr t rfl

/-! ## Shapes -/

namespace Schema

variable {table : TypeTable} {s : Schema}

theorem objectShape_cases (s : Schema) : (∃ value, s.objectShape = .map value) ∨
    s.objectShape = .openMap ∨ s.objectShape = .object := by
  unfold objectShape
  repeat' split
  all_goals simp

/-- The enum shape is that of a schema of type string with listed values. -/
theorem shape_eq_enum_iff {values : List Document} : s.shape table = .enum values ↔
    s.intOrString ≠ some true ∧ s.type = some ("string" : Text) ∧ s.enum = some values := by
  constructor
  · intro h
    unfold shape at h
    by_cases hint : s.intOrString = some true
    · simp [hint] at h
    rw [if_neg hint] at h
    refine ⟨hint, ?_⟩
    by_cases harray : s.type = some ("array" : Text)
    · rw [if_pos harray] at h
      cases hitems : s.items <;> simp [hitems] at h
    rw [if_neg harray] at h
    split at h
    · rcases s.objectShape_cases with ⟨v, hs⟩ | hs | hs <;> simp [hs] at h
    · unfold scalarShape at h
      split at h
      · split at h <;> cases h
      · next type htype =>
        split at h
        · next henum =>
          obtain ⟨rfl, hsome⟩ := henum
          obtain ⟨values', hvalues⟩ := Option.isSome_iff_exists.1 hsome
          cases h
          exact ⟨htype, by simp [hvalues]⟩
        · split at h <;> cases h
  · rintro ⟨hint, htype, henum⟩
    have hne : ("string" : Text) ≠ "array" ∧ ("string" : Text) ≠ "object" := by decide
    simp [shape, hint, htype, hne, scalarShape, henum]

/-- A schema without a shape, and why. -/
theorem shape_eq_unsupported_iff {reason : UnsupportedReason} :
    s.shape table = .unsupported reason ↔
      s.UnsupportedFor table reason ∧ ∀ v, reason ≠ .nonStringEnumValue v := by
  constructor
  · -- The tests of the dispatch, in its order, leave only the three kinds of schemas.
    intro h
    unfold shape at h
    by_cases hint : s.intOrString = some true
    · simp [hint] at h
    rw [if_neg hint] at h
    by_cases harray : s.type = some ("array" : Text)
    · rw [if_pos harray] at h
      cases hitems : s.items with
      | none =>
        simp only [hitems, Shape.unsupported.injEq] at h
        subst h
        exact ⟨⟨hint, .arrayWithoutItems harray hitems⟩, nofun⟩
      | some items => simp [hitems] at h
    rw [if_neg harray] at h
    by_cases hobject : s.type = some ("object" : Text) ∨ (s.type = none ∧ s.properties.isSome)
    · rw [if_pos hobject] at h
      rcases s.objectShape_cases with ⟨v, hs⟩ | hs | hs <;> simp [hs] at h
    rw [if_neg hobject] at h
    unfold scalarShape at h
    split at h
    · next htype =>
      split at h
      · cases h
      · next hpreserve =>
        cases h
        exact ⟨⟨hint, .noType htype (by simpa [htype] using hobject) hpreserve⟩, nofun⟩
    · next type htype =>
      split at h
      · cases h
      · next henum =>
        split at h
        · cases h
        · next hlookup =>
          cases h
          rw [htype] at harray hobject
          simp only [Option.some.injEq, reduceCtorEq, false_and, or_false] at harray hobject
          exact ⟨⟨hint, .unknownType htype harray hobject henum hlookup⟩, nofun⟩
  · rintro ⟨⟨hint, h⟩, hreason⟩
    unfold shape
    rw [if_neg hint]
    cases h with
    | arrayWithoutItems htype hitems => simp [htype, hitems]
    | noType htype hprops hpreserve => simp [htype, hprops, scalarShape, hpreserve]
    | nonStringEnumValue => exact absurd rfl (hreason _)
    | @unknownType type htype harray hobject henum hlookup =>
      simp only [htype, Option.some.injEq, if_neg harray, hobject, reduceCtorEq, false_and, or_self,
        if_false, scalarShape, if_neg henum, hlookup]

/-- The reasons as the dispatch finds them: there is no shape, or the literals of the enum are
refused. -/
theorem unsupportedFor_iff {reason : UnsupportedReason} : s.UnsupportedFor table reason ↔
    s.shape table = .unsupported reason ∨
      ∃ values v, s.shape table = .enum values ∧ textLiterals values = .error v ∧
        reason = .nonStringEnumValue v := by
  constructor
  · intro h
    obtain ⟨hint, hunfit⟩ := id h
    cases hunfit with
    | nonStringEnumValue htype henum hbefore hv =>
      refine .inr ⟨_, _, shape_eq_enum_iff.2 ⟨hint, htype, henum⟩, ?_, rfl⟩
      exact textLiterals_eq_error_iff.2 ⟨_, _, rfl, hbefore, hv⟩
    | arrayWithoutItems => exact .inl (shape_eq_unsupported_iff.2 ⟨h, nofun⟩)
    | noType => exact .inl (shape_eq_unsupported_iff.2 ⟨h, nofun⟩)
    | unknownType => exact .inl (shape_eq_unsupported_iff.2 ⟨h, nofun⟩)
  · rintro (h | ⟨values, v, hs, hliterals, rfl⟩)
    · exact (shape_eq_unsupported_iff.1 h).1
    · obtain ⟨hint, htype, henum⟩ := shape_eq_enum_iff.1 hs
      obtain ⟨before, after, rfl, hbefore, hv⟩ := textLiterals_eq_error_iff.1 hliterals
      exact ⟨hint, .nonStringEnumValue htype henum hbefore hv⟩

/-- There is one reason at most. -/
theorem UnsupportedFor.unique {reason reason' : UnsupportedReason}
    (h : s.UnsupportedFor table reason) (h' : s.UnsupportedFor table reason') :
    reason' = reason := by
  rcases unsupportedFor_iff.1 h with hs | ⟨values, v, hs, hliterals, rfl⟩ <;>
    rcases unsupportedFor_iff.1 h' with hs' | ⟨values', v', hs', hliterals', rfl⟩ <;>
      cases hs.symm.trans hs'
  · rfl
  · cases hliterals.symm.trans hliterals'
    rfl

end Schema

end KubeJava
