import KubeJava.Proofs.FreeNames
import KubeJava.Proofs.Resolution

set_option autoImplicit false

/-! # Constants of an enum

An enum has one constant for each literal, in order and with repeats. Only the empty literal gives no
identifier: upper case never makes a text empty, and once its other characters are underscores, a
digit is kept from the front and a keyword from the whole. What is given out is an identifier from
end to end, apart from those before it and from the field that every enum declares. -/

namespace KubeJava

namespace Java

theorem isProperIdentifier_of_enumConstant {literal n : Text} {uppercase : Bool}
    (h : enumConstant literal uppercase = .ok n) : IsProperIdentifier n := by
  have hchars := isConstantChar_of_enumConstant h
  have hid : isIdentifier n = true := by
    obtain ⟨t, -, -, heq⟩ := enumConstant_eq literal uppercase
    rw [heq] at h
    split at h
    · cases h
    · obtain ⟨hid, rfl⟩ := ensureIdentifier_eq_ok.1 h
      exact hid
  exact (isProperIdentifier_iff hid).2 (lineFeed_not_mem_of_constantChars hchars)

end Java

variable {settings : Settings} {used literals : List Text} {constants : List Java.EnumConstant}

/-- The constants of an enum can be named if no literal is empty. -/
theorem exists_enumConstants_iff :
    (∃ constants, enumConstants settings used literals = .ok constants) ↔ [] ∉ literals := by
  induction literals generalizing used with
  | nil => simp [enumConstants]
  | cons value rest ih =>
    simp only [enumConstants, bind_eq_ok, pure_eq_ok, List.mem_cons, not_or]
    constructor
    · rintro ⟨_, candidate, hcandidate, constants, hconstants, -⟩
      exact ⟨(Java.exists_enumConstant_iff.1 ⟨candidate, hcandidate⟩).symm, ih.1 ⟨_, hconstants⟩⟩
    · rintro ⟨hvalue, hrest⟩
      obtain ⟨candidate, hcandidate⟩ := Java.exists_enumConstant_iff.2 (Ne.symm hvalue)
      obtain ⟨constants, hconstants⟩ := ih.2 hrest
      exact ⟨_, candidate, hcandidate, constants, hconstants, rfl⟩

/-- The constants of an enum stand for its literals, in order. -/
theorem map_value_of_enumConstants (h : enumConstants settings used literals = .ok constants) :
    constants.map (·.value) = literals := by
  induction literals generalizing used constants with
  | nil =>
    cases h
    rfl
  | cons value rest ih =>
    simp only [enumConstants, bind_eq_ok, pure_eq_ok] at h
    obtain ⟨_, -, constants', hconstants, rfl⟩ := h
    rw [List.map_cons, ih hconstants]

/-- The identifiers are given out in turn for the names that the literals lead to. -/
theorem exists_map_identifier_of_enumConstants
    (h : enumConstants settings used literals = .ok constants) :
    ∃ candidates, List.Forall₂
        (fun value candidate => Java.enumConstant value settings.enumUppercase = .ok candidate)
        literals candidates ∧
      constants.map (·.identifier) = Java.uniqueNames used candidates := by
  induction literals generalizing used constants with
  | nil =>
    cases h
    exact ⟨[], .nil, rfl⟩
  | cons value rest ih =>
    simp only [enumConstants, bind_eq_ok, pure_eq_ok] at h
    obtain ⟨candidate, hcandidate, constants', hconstants, rfl⟩ := h
    obtain ⟨candidates, hall, heq⟩ := ih hconstants
    refine ⟨candidate :: candidates, .cons hcandidate hall, ?_⟩
    rw [List.map_cons, heq, Java.uniqueNames]

/-- No two constants have one identifier, and none has one that was used before. -/
theorem nodup_identifier_of_enumConstants
    (h : enumConstants settings used literals = .ok constants) :
    (constants.map (·.identifier)).Nodup ∧ ∀ c ∈ constants, c.identifier ∉ used := by
  obtain ⟨candidates, -, heq⟩ := exists_map_identifier_of_enumConstants h
  obtain ⟨hnodup, hfree⟩ := Java.nodup_uniqueNames used candidates
  rw [← heq] at hnodup hfree
  exact ⟨hnodup, fun c hc => hfree _ (List.mem_map_of_mem hc)⟩

theorem isProperIdentifier_of_enumConstants
    (h : enumConstants settings used literals = .ok constants) :
    ∀ c ∈ constants, Java.IsProperIdentifier c.identifier := by
  induction literals generalizing used constants with
  | nil =>
    cases h
    simp
  | cons value rest ih =>
    simp only [enumConstants, bind_eq_ok, pure_eq_ok] at h
    obtain ⟨candidate, hcandidate, constants', hconstants, rfl⟩ := h
    exact List.forall_mem_cons.2
      ⟨(Java.isProperIdentifier_of_enumConstant hcandidate).uniqueName used, ih hconstants⟩

namespace EnumNode

/-- An enum whose name is legal fails to resolve exactly if some literal is empty. Otherwise it is the
only type that it gives, with one constant for each literal in order; the identifiers are distinct,
legal to Java from end to end, and none is the name of the field that holds the literal. -/
theorem constants_of_resolve {e : EnumNode} {name : Text} (hname : e.typeReference = .ok name) :
    ((∃ err, e.resolve.outcome = .error err) ↔ [] ∈ e.values) ∧
      ([] ∉ e.values → ∃ constants : List Java.EnumConstant,
        e.resolve.outcome = .ok ⟨name, ⟨[], [(e.declaration name constants).toRecord]⟩⟩ ∧
        constants.map (·.value) = e.values ∧ (constants.map (·.identifier)).Nodup ∧
        ∀ c ∈ constants, c.identifier ≠ Java.enumValueField ∧
          Java.IsProperIdentifier c.identifier) := by
  have hok : ∀ constants, enumConstants e.settings [Java.enumValueField] e.values = .ok constants →
      e.resolve.outcome = .ok ⟨name, ⟨[], [(e.declaration name constants).toRecord]⟩⟩ :=
    fun constants hconstants => resolve_eq_ok.2 ⟨name, constants, hname, hconstants, rfl⟩
  constructor
  · constructor
    · rintro ⟨err, herr⟩
      refine Classical.byContradiction fun hvalues => ?_
      obtain ⟨constants, hconstants⟩ := exists_enumConstants_iff.2 hvalues
      cases herr.symm.trans (hok constants hconstants)
    · intro hvalues
      cases hres : e.resolve.outcome with
      | error err => exact ⟨err, rfl⟩
      | ok r =>
        obtain ⟨-, constants, -, hconstants, -⟩ := resolve_eq_ok.1 hres
        exact absurd hvalues (exists_enumConstants_iff.1 ⟨constants, hconstants⟩)
  · intro hvalues
    obtain ⟨constants, hconstants⟩ := exists_enumConstants_iff.2 hvalues
    obtain ⟨hnodup, hfree⟩ := nodup_identifier_of_enumConstants hconstants
    refine ⟨constants, hok constants hconstants, map_value_of_enumConstants hconstants, hnodup,
      fun c hc => ⟨?_, isProperIdentifier_of_enumConstants hconstants c hc⟩⟩
    simpa using hfree c hc

/-- Literals that are repeated, meet in upper case, meet a numbered one, or are keywords, digits or
characters that no identifier has. -/
theorem constants_of_resolve_repeated :
    let e : EnumNode :=
      { name := "access-mode"
        values := ["read only", "READ_ONLY", "READ_ONLY_2", "read only", "1st", "*", "ß", "SS"] }
    e.typeReference = .ok "AccessMode" ∧ [] ∉ e.values ∧
      ∃ constants : List Java.EnumConstant,
        e.resolve.outcome =
          .ok ⟨"AccessMode", ⟨[], [(e.declaration "AccessMode" constants).toRecord]⟩⟩ ∧
        constants.map (·.value) = e.values ∧ (constants.map (·.identifier)).Nodup ∧
        ∀ c ∈ constants, c.identifier ≠ Java.enumValueField ∧
          Java.IsProperIdentifier c.identifier := by
  intro e
  have hname : e.typeReference = .ok "AccessMode" := rfl
  have hvalues : [] ∉ e.values := by decide
  exact ⟨hname, hvalues, (constants_of_resolve hname).2 hvalues⟩

end EnumNode

end KubeJava
