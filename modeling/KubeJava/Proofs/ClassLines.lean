import KubeJava.Proofs.Names
import KubeJava.Proofs.SourceLines

set_option autoImplicit false

/-! # Lines of classes

What the lines of a class are made of, and that they are lines: names with the form of identifiers
bring no line feed into them, and neither do the package and the types of fields if they have none
themselves. -/

namespace KubeJava.Java

open Text (OneLine)

/-! ## Well-named classes -/

structure Field.WellNamed (f : Field) : Prop where
  name : hasIdentifierForm f.name = true
  typeReference : OneLine f.typeReference

structure EnumDeclaration.WellNamed (e : EnumDeclaration) : Prop where
  name : hasIdentifierForm e.name = true
  constants : ∀ a ∈ e.constants, hasIdentifierForm a.identifier = true

/-- All names have the form of identifiers, and the package and the types of fields are on one
line. -/
structure ClassDeclaration.WellNamed (c : ClassDeclaration) : Prop where
  name : hasIdentifierForm c.name = true
  package : ∀ p, c.package = some p → OneLine p
  fields : ∀ f ∈ c.fields, f.WellNamed
  enums : ∀ e ∈ c.enums, e.WellNamed

theorem oneLine_of_hasIdentifierForm {name : Text} (h : hasIdentifierForm name = true) :
    OneLine name :=
  not_mem_of_hasIdentifierForm h (by decide)

theorem oneLine_capitalize {name : Text} (h : hasIdentifierForm name = true) :
    OneLine name.capitalize := by
  cases name with
  | nil => simp [Text.capitalize]
  | cons c rest =>
    obtain ⟨hc, hrest⟩ := Text.oneLine_cons.1 (oneLine_of_hasIdentifierForm h)
    have hconst := (hasIdentifierForm_iff.1 h).2 c List.mem_cons_self
    rw [isConstantChar_iff, isWordChar_iff] at hconst
    rw [Text.capitalize, Text.upperChar_of_ascii (by omega)]
    refine Text.oneLine_cons.2 ⟨fun hfeed => ?_, hrest⟩
    have hval := val_asciiUpper c
    rw [eq_ofChar_iff.1 hfeed, show ('\n').toNat = 10 from rfl] at hval
    split at hval <;> omega

/-! ## Lines of classes -/

theorem oneLine_commaSeparated {ts : List Text} (h : ∀ t ∈ ts, OneLine t) :
    OneLine (Text.commaSeparated ts) := by
  rw [Text.commaSeparated]
  induction ts with
  | nil => simp
  | cons t ts ih =>
    obtain ⟨ht, hts⟩ := List.forall_mem_cons.1 h
    cases ts with
    | nil => rwa [List.intercalate_singleton]
    | cons u ts =>
      simp +decide [List.intercalate_cons_cons, ht, ih hts]

/-- An annotation whose argument is a literal. -/
def literalLine (start t : Text) : Text := start ++ stringLiteral t ++ ")"

def jsonPropertyStart : Text := "@" ++ jackson ++ ".JsonProperty("

def jsonDescriptionStart : Text := "@" ++ jackson ++ ".JsonPropertyDescription("

def jsonIgnore : Text := "@" ++ jackson ++ ".JsonIgnore"

/-- The description of a field, if it says anything. -/
def Field.givenDescription (f : Field) : Option Text := f.description.filter fun t => t ≠ []

def Field.declaration (f : Field) : Text := "private " ++ f.typeReference ++ " " ++ f.name

theorem fieldLines_of_catchAll {f : Field} (h : f.catchAll = true) :
    fieldLines f = [jsonIgnore, f.declaration ++ " = new java.util.HashMap<>();"] := by
  rw [fieldLines, if_pos h]
  rfl

theorem fieldLines_of_not_catchAll {f : Field} (h : f.catchAll = false) :
    fieldLines f = f.jsonName.toList.map (literalLine jsonPropertyStart) ++
      (f.givenDescription.toList.map (literalLine jsonDescriptionStart) ++
        ((if f.required then [notNull] else []) ++ [skipNulls, f.declaration ++ ";"])) := by
  rw [fieldLines, if_neg (by simp [h]), Field.givenDescription, List.append_assoc,
    List.append_assoc]
  rcases f.jsonName with _ | name <;> rcases f.description with _ | _ | ⟨c, t⟩ <;> rfl

theorem oneLine_of_mem_fieldLines {f : Field} (h : f.WellNamed) :
    ∀ l ∈ fieldLines f, OneLine l := by
  have hdeclaration : OneLine f.declaration := by
    simp +decide [Field.declaration, h.typeReference, oneLine_of_hasIdentifierForm h.name]
  have hliteral {start : Text} (hstart : OneLine start) (o : Option Text) :
      ∀ l ∈ o.toList.map (literalLine start), OneLine l := by
    rw [List.forall_mem_map]
    intro t _
    simp +decide [literalLine, hstart]
  cases hcatch : f.catchAll with
  | true =>
    simp +decide [fieldLines_of_catchAll hcatch, hdeclaration]
  | false =>
    rw [fieldLines_of_not_catchAll hcatch]
    simp only [List.forall_mem_append]
    refine ⟨hliteral (by decide) _, hliteral (by decide) _, ?_, ?_⟩
    · split
      · decide
      · exact List.forall_mem_nil _
    · simp +decide [hdeclaration]

theorem oneLine_of_mem_accessorBlocks {f : Field} (h : f.WellNamed) :
    ∀ ls ∈ accessorBlocks f, ∀ l ∈ ls, OneLine l := by
  have hname := oneLine_of_hasIdentifierForm h.name
  have hcapital := oneLine_capitalize h.name
  have htype := h.typeReference
  unfold accessorBlocks
  split <;>
    simp +decide [getterName, setterName, hname, hcapital, htype]

theorem oneLine_of_mem_classMembers {c : ClassDeclaration} (h : c.WellNamed) :
    ∀ ls ∈ classMembers c, ∀ l ∈ ls, OneLine l := by
  rw [classMembers, List.forall_mem_append, List.forall_mem_flatMap, List.forall_mem_map]
  refine ⟨fun f hf => ?_, fun e he => ?_⟩
  · exact List.forall_mem_cons.2 ⟨oneLine_of_mem_fieldLines (h.fields f hf),
      oneLine_of_mem_accessorBlocks (h.fields f hf)⟩
  · exact oneLine_of_mem_enumLines (oneLine_of_hasIdentifierForm (h.enums e he).name)
      fun a ha => oneLine_of_hasIdentifierForm ((h.enums e he).constants a ha)

theorem oneLine_of_mem_classLines {c : ClassDeclaration} (h : c.WellNamed) :
    ∀ l ∈ classLines c, OneLine l := by
  have hname := oneLine_of_hasIdentifierForm h.name
  have horder : OneLine (jsonPropertyOrder (propertyOrder c)) := by
    have hliterals : ∀ t ∈ propertyOrder c, OneLine t := by
      intro t ht
      obtain ⟨f, -, hf⟩ := List.mem_filterMap.1 ht
      split at hf
      · cases hf
      · obtain ⟨name, -, rfl⟩ := Option.map_eq_some_iff.1 hf
        simp
    simp +decide [jsonPropertyOrder, oneLine_commaSeparated hliterals]
  have hmembers : ∀ l ∈ (classMembers c).flatMap memberLines, OneLine l := by
    intro l hl
    obtain ⟨ls, hls, hl⟩ := List.mem_flatMap.1 hl
    rcases List.mem_cons.1 hl with rfl | hl
    · decide
    · exact oneLine_of_mem_indentLines (oneLine_of_mem_classMembers h ls hls) l hl
  simp +decide only [classLines, List.forall_mem_append, List.forall_mem_cons, Text.oneLine_append,
    hname, horder, and_self, and_true]
  exact ⟨oneLine_of_mem_javadoc, hmembers⟩

/-- The source of a well-named class has the lines that it was put together from. -/
theorem sourceLines_renderClass {c : ClassDeclaration} (h : c.WellNamed) :
    sourceLines (renderClass c) = packageLines c.package ++ classLines c := by
  have hpackage : ∀ l ∈ packageLines c.package, OneLine l := by
    unfold packageLines
    split
    · exact List.forall_mem_nil _
    · next p hp =>
      split
      · exact List.forall_mem_nil _
      · simp +decide [h.package p hp]
  rw [renderClass, sourceLines_joinLines (by simp [classLines]), flatMap_partsAt_of_oneLine
    (List.forall_mem_append.2 ⟨hpackage, oneLine_of_mem_classLines h⟩)]

end KubeJava.Java
