import KubeJava.Proofs.Fields
import KubeJava.Proofs.Rendering
import Mathlib.Data.List.Nodup

set_option autoImplicit false

/-! # Accessors of a class

A class has a method for each field that reads it, named for the field with the first letter in
upper case. The names of the fields are told apart, the names of the methods are not: two fields
share a getter exactly if their names are one but for the case of the first letter. -/

namespace KubeJava

namespace Java

open Text (asciiUpper)

/-! ## First letters -/

theorem exists_start_of_isIdentifier {t : Text} (h : isIdentifier t = true) :
    ∃ c ∈ t.head?, isIdentifierStart c = true := by
  rw [isIdentifier, Bool.and_eq_true, hasIdentifierForm_iff] at h
  obtain ⟨⟨⟨c, hc, hstart⟩, -⟩, -⟩ := h
  refine ⟨c, ?_, hstart⟩
  unfold Text.dropFinalLineFeed at hc
  split at hc
  · next hlast =>
    obtain ⟨front, rfl⟩ := List.getLast?_eq_some_iff.1 hlast
    rw [List.dropLast_concat] at hc
    rw [List.head?_append, Option.mem_def.1 hc]
    rfl
  · exact hc

/-- A number after a name leaves its first character. -/
theorem exists_start_of_uniqueName {candidate : Text} (h : isIdentifier candidate = true)
    (used : List Text) :
    ∃ c ∈ (uniqueName candidate used).head?, isIdentifierStart c = true := by
  obtain ⟨c, hc, hstart⟩ := exists_start_of_isIdentifier h
  rcases uniqueName_cases candidate used with ⟨-, heq⟩ | ⟨-, n, heq, -⟩
  · rw [heq]
    exact ⟨c, hc, hstart⟩
  · refine ⟨c, ?_, hstart⟩
    rw [heq, numbered, List.append_assoc, List.head?_append, Option.mem_def.1 hc]
    rfl

/-- The second name is the first one with its first letter, a small one, in upper case. -/
def IsCapitalForm (s t : Text) : Prop :=
  ∃ a rest, asciiUpper a ≠ a ∧ s = a :: rest ∧ t = asciiUpper a :: rest

theorem eq_or_eq_asciiUpper {a b : CodePoint} (h : asciiUpper a = asciiUpper b) :
    a = b ∨ asciiUpper a = b ∨ asciiUpper b = a := by
  have hval := congrArg CodePoint.val h
  have ha := val_asciiUpper a
  have hb := val_asciiUpper b
  by_cases hsmall : 97 ≤ a.val ∧ a.val ≤ 122
  · rw [if_pos hsmall] at ha
    by_cases hsmall' : 97 ≤ b.val ∧ b.val ≤ 122
    · rw [if_pos hsmall'] at hb
      exact .inl (CodePoint.eq_of_val_eq (by omega))
    · rw [if_neg hsmall'] at hb
      exact .inr (.inl (CodePoint.eq_of_val_eq (by omega)))
  · rw [if_neg hsmall] at ha
    exact .inr (.inr (CodePoint.eq_of_val_eq (by omega)))

@[simp] theorem asciiUpper_asciiUpper (a : CodePoint) : asciiUpper (asciiUpper a) = asciiUpper a := by
  refine CodePoint.eq_of_val_eq ?_
  rw [val_asciiUpper (asciiUpper a)]
  have ha := val_asciiUpper a
  split at ha <;> split <;> omega

/-- The first character of an identifier is one of ASCII, so that it has one upper case. -/
theorem capitalize_cons {a : CodePoint} (ha : isIdentifierStart a = true) (rest : Text) :
    Text.capitalize (a :: rest) = asciiUpper a :: rest := by
  have hascii : a.val < 128 := by
    rw [isIdentifierStart_iff, isAsciiLetter_iff] at ha
    omega
  rw [Text.capitalize, Text.upperChar_of_ascii hascii]
  rfl

/-- Capitalised, two names are the same if they are, or if one is the capital form of the other. -/
theorem capitalize_eq_capitalize_iff {s t : Text} (hs : ∃ c ∈ s.head?, isIdentifierStart c = true)
    (ht : ∃ c ∈ t.head?, isIdentifierStart c = true) :
    s.capitalize = t.capitalize ↔ s = t ∨ IsCapitalForm s t ∨ IsCapitalForm t s := by
  obtain ⟨a, ha, hstart⟩ := hs
  obtain ⟨b, hb, hstart'⟩ := ht
  obtain ⟨rest, rfl⟩ := List.head?_eq_some_iff.1 ha
  obtain ⟨rest', rfl⟩ := List.head?_eq_some_iff.1 hb
  rw [capitalize_cons hstart, capitalize_cons hstart']
  constructor
  · intro h
    obtain ⟨hupper, rfl⟩ := List.cons.inj h
    by_cases hab : a = b
    · exact .inl (hab ▸ rfl)
    · rcases eq_or_eq_asciiUpper hupper with rfl | rfl | rfl
      · exact absurd rfl hab
      · exact .inr (.inl ⟨a, rest, Ne.symm hab, rfl, rfl⟩)
      · exact .inr (.inr ⟨b, rest, hab, rfl, rfl⟩)
  · rintro (h | ⟨c, u, -, hs, ht⟩ | ⟨c, u, -, hs, ht⟩)
    · obtain ⟨rfl, rfl⟩ := List.cons.inj h
      rfl
    · obtain ⟨rfl, rfl⟩ := List.cons.inj hs
      obtain ⟨rfl, rfl⟩ := List.cons.inj ht
      rw [asciiUpper_asciiUpper]
    · obtain ⟨rfl, rfl⟩ := List.cons.inj hs
      obtain ⟨rfl, rfl⟩ := List.cons.inj ht
      rw [asciiUpper_asciiUpper]

/-! ## Declared getters -/

/-- The line of a class that declares the getter of a field. -/
def getterLine (f : Field) : Text :=
  indent ++ ("public " ++ f.typeReference ++ " " ++ getterName f ++ "() \x7b")

theorem getterLine_mem_fieldBlock (f : Field) : getterLine f ∈ indentLines (fieldBlock f) := by
  refine List.mem_map.2 ⟨"public " ++ f.typeReference ++ " " ++ getterName f ++ "() \x7b", ?_, rfl⟩
  rw [fieldBlock, accessorBlocks]
  split <;> simp

/-- A class declares a getter for each field, in order. -/
theorem getterLines_sublist (c : ClassDeclaration) :
    (c.fields.map getterLine).Sublist (packageLines c.package ++ classLines c) := by
  have hblocks : ∀ fs : List Field,
      (fs.map getterLine).Sublist (indentLines (fs.flatMap fieldBlock)) := by
    intro fs
    induction fs with
    | nil => exact List.Sublist.slnil
    | cons f fs ih =>
      rw [List.map_cons, List.flatMap_cons, indentLines, List.map_append]
      exact (List.singleton_sublist.2 (getterLine_mem_fieldBlock f)).append ih
  have hmembers : (c.fields.map getterLine).Sublist ((classMembers c).flatMap memberLines) := by
    rw [flatMap_memberLines, indentLines, List.map_append]
    exact (hblocks c.fields).trans (List.sublist_append_left _ _)
  refine hmembers.trans (.trans ?_ (List.sublist_append_right _ _))
  rw [classLines]
  exact (List.sublist_append_right _ _).trans (List.sublist_append_left _ _)

/-- Getters are distinct exactly if no field has a name that is the capital form of another's. -/
theorem nodup_getterName_iff {fs : List Field} (hnodup : (fs.map (·.name)).Nodup)
    (hstart : ∀ f ∈ fs, ∃ c ∈ f.name.head?, isIdentifierStart c = true) :
    (fs.map getterName).Nodup ↔ ∀ f ∈ fs, ∀ g ∈ fs, ¬IsCapitalForm f.name g.name := by
  have hgetter : ∀ f ∈ fs, ∀ g ∈ fs, getterName f = getterName g ↔
      f.name = g.name ∨ IsCapitalForm f.name g.name ∨ IsCapitalForm g.name f.name := by
    intro f hf g hg
    rw [getterName, getterName, List.append_cancel_left_eq]
    exact capitalize_eq_capitalize_iff (hstart f hf) (hstart g hg)
  rw [List.nodup_map_iff_inj_on hnodup.of_map]
  have hname := List.inj_on_of_nodup_map hnodup
  constructor
  · intro hinj f hf g hg hform
    obtain rfl := hinj f hf g hg ((hgetter f hf g hg).2 (.inr (.inl hform)))
    obtain ⟨a, rest, hne, hf, hg⟩ := hform
    exact hne (List.cons.inj (hg.symm.trans hf)).1
  · intro hform f hf g hg heq
    rcases (hgetter f hf g hg).1 heq with h | h | h
    · exact hname hf hg h
    · exact absurd h (hform f hf g hg)
    · exact absurd h (hform g hg f hf)

end Java

/-! ## The class of an object -/

namespace ObjectNode

variable {o : ObjectNode} {ps : Properties} {names : SiblingNames} {used : List Text}
  {members : List Member} {r : Resolved}

theorem Collects.exists_start (h : o.Collects ps names used members) :
    ∀ m ∈ members, ∃ c ∈ m.fieldName.head?, Java.isIdentifierStart c = true := by
  intro m hm
  obtain ⟨candidate, taken, hcandidate, heq⟩ := h.exists_fieldName_eq m hm
  rw [heq]
  exact Java.exists_start_of_uniqueName (Java.isIdentifier_of_fieldName hcandidate).1 taken

/-- The class that an object resolves to declares a getter for each field, in order. No getter is
declared twice exactly if no field has a name that is the capital form of another's. -/
theorem nodup_getterNames_iff (h : (Node.object o).resolve.outcome = .ok r) :
    ∃ (c : Java.ClassDeclaration) (lines : List Text),
      r.types.topLevel.getLast? = some c.toRecord ∧
        c.toRecord.source = Java.joinLines lines ∧
        (c.fields.map Java.getterLine).Sublist lines ∧
        ((c.fields.map Java.getterName).Nodup ↔
          ∀ f ∈ c.fields, ∀ g ∈ c.fields, ¬Java.IsCapitalForm f.name g.name) := by
  obtain ⟨className, members, -, hmembers, rfl⟩ := resolve_eq_ok.1 h
  refine ⟨o.classOf className members, _, by simp [assembled], rfl,
    Java.getterLines_sublist _, ?_⟩
  refine Java.nodup_getterName_iff (nodup_fieldNames_classOf hmembers className) ?_
  rw [classOf, List.forall_mem_append, List.forall_mem_map]
  refine ⟨hmembers.exists_start, ?_⟩
  split
  · rw [List.forall_mem_singleton]
    exact ⟨'a', rfl, by decide⟩
  · simp

/-- Keys that give one name together are numbered, and their getters stay apart. -/
theorem nodup_getterNames_iff_numbered :
    let text : Schema := { type := some "string" }
    let o : ObjectNode :=
      { name := "spec"
        preserveUnknownFields := true
        properties := [("foo-bar", text), ("fooBar", text), ("additionalProperties", text)] }
    ∃ r, (Node.object o).resolve.outcome = .ok r ∧
      ∃ (c : Java.ClassDeclaration) (lines : List Text),
        r.types.topLevel.getLast? = some c.toRecord ∧
          c.toRecord.source = Java.joinLines lines ∧
          (c.fields.map Java.getterLine).Sublist lines ∧
          ((c.fields.map Java.getterName).Nodup ↔
            ∀ f ∈ c.fields, ∀ g ∈ c.fields, ¬Java.IsCapitalForm f.name g.name) := by
  intro text o
  obtain ⟨r, hr, -⟩ : ∃ r, (Node.object o).resolve.outcome = .ok r ∧ true = true :=
    exists_eq_ok (f := fun _ => true) (by decide +kernel)
  exact ⟨r, hr, nodup_getterNames_iff hr⟩

/-- The properties mode and Mode have fields of their own and one getter. -/
theorem not_forall_nodup_getterNames :
    ¬∀ (o : ObjectNode) (r : Resolved), (Node.object o).resolve.outcome = .ok r →
      ∀ c : Java.ClassDeclaration, r.types.topLevel.getLast? = some c.toRecord →
        (c.fields.map Java.getterName).Nodup := by
  intro h
  let text : Schema := { type := some "string" }
  let o : ObjectNode := { name := "spec", properties := [("mode", text), ("Mode", text)] }
  let c : Java.ClassDeclaration :=
    { name := "Spec"
      package := none
      fields := [
        { name := "mode", jsonName := some "mode", typeReference := Java.stringType },
        { name := "Mode", jsonName := some "Mode", typeReference := Java.stringType }] }
  obtain ⟨r, hr, hlast⟩ : ∃ r, (Node.object o).resolve.outcome = .ok r ∧
      r.types.topLevel.getLast? = some c.toRecord := exists_eq_ok (by decide +kernel)
  exact absurd (h o r hr c hlast) (by decide)

end ObjectNode

end KubeJava

