import KubeJava.Proofs.ClassLines
import KubeJava.Proofs.Literals
import Mathlib.Data.List.Forall2

set_option autoImplicit false

/-! # What a source tells

The members of a class can be read off its source. Whatever the descriptions say, comments end at
the first line that ends one, each member starts with a line that shows what it is, and literals
escape all that could end them. So two classes with the same source have the same name, package,
fields and enums; only texts inside literals that have the same UTF-16 units are not told apart. -/

namespace KubeJava

open Text (SameLiteral)

namespace Java

/-! ## The same members -/

section SameMembers

variable (same : Text → Text → Prop)

/-- What a source says about a field: of one that holds all other properties only its name and type,
of any other all there is, where no description and an empty one are the same. -/
structure Field.SameMember (f g : Field) : Prop where
  name : f.name = g.name
  typeReference : f.typeReference = g.typeReference
  catchAll : f.catchAll = g.catchAll
  jsonName : f.catchAll = false → Option.Rel same f.jsonName g.jsonName
  required : f.catchAll = false → f.required = g.required
  description : f.catchAll = false → same (f.description.getD []) (g.description.getD [])

structure EnumConstant.SameMember (a b : EnumConstant) : Prop where
  identifier : a.identifier = b.identifier
  value : same a.value b.value

structure EnumDeclaration.SameMember (e e' : EnumDeclaration) : Prop where
  name : e.name = e'.name
  constants : List.Forall₂ (EnumConstant.SameMember same) e.constants e'.constants

/-- What a source says about a class, its comments left aside. No package and the empty one are the
same. -/
structure ClassDeclaration.SameMembers (c d : ClassDeclaration) : Prop where
  name : c.name = d.name
  package : c.package.getD [] = d.package.getD []
  fields : List.Forall₂ (Field.SameMember same) c.fields d.fields
  enums : List.Forall₂ (EnumDeclaration.SameMember same) c.enums d.enums

end SameMembers

/-! ## First lines -/

/-- The first line starts with the given text. -/
def Begins (start : Text) (ls : List Text) : Prop := ∃ l ∈ ls.head?, start <+: l

theorem begins_cons {start l : Text} {ls : List Text} : Begins start (l :: ls) ↔ start <+: l := by
  simp [Begins]

theorem Begins.append {start : Text} {ls rest : List Text} (hls : ∀ l ∈ ls, start <+: l)
    (hrest : Begins start rest) : Begins start (ls ++ rest) := by
  cases ls with
  | nil => exact hrest
  | cons l ls => exact begins_cons.2 (hls l List.mem_cons_self)

theorem not_begins_append {start : Text} {ls rest : List Text} (hls : ∀ l ∈ ls, ¬start <+: l)
    (hrest : ¬Begins start rest) : ¬Begins start (ls ++ rest) := by
  cases ls with
  | nil => exact hrest
  | cons l ls => exact fun h => hls l List.mem_cons_self (begins_cons.1 h)

/-- Of two texts that part, neither starts what the other one goes on to. -/
theorem not_isPrefix_append {start t : Text} (h : ¬start <+: t) (h' : ¬t <+: start) (u : Text) :
    ¬start <+: t ++ u := fun hstart =>
  (List.prefix_or_prefix_of_prefix hstart (List.prefix_append t u)).elim h h'

/-! ## Comments -/

theorem isPrefix_trimEnd (t : Text) : t.trimEnd <+: t := by
  have h := List.reverse_prefix.2 (List.dropWhile_suffix Text.isBlank (l := t.reverse))
  rwa [List.reverse_reverse] at h

/-- A line inside a comment does not end it. -/
theorem javadocLine_ne_commentEnd (line : Text) : javadocLine line ≠ commentEnd := by
  intro h
  have hprefix := isPrefix_trimEnd (" * " ++ line)
  rw [← javadocLine, h] at hprefix
  exact not_isPrefix_append (by decide) (by decide) line hprefix

/-- There is no comment, or one that ends with the first line that ends it. -/
theorem javadoc_cases (description : Option Text) : javadoc description = [] ∨
    ∃ body, commentEnd ∉ body ∧ javadoc description = commentStart :: (body ++ [commentEnd]) := by
  unfold javadoc
  split
  · exact .inl rfl
  · split
    · exact .inl rfl
    · refine .inr ⟨_, fun hmem => ?_, rfl⟩
      obtain ⟨line, -, hline⟩ := List.mem_map.1 hmem
      exact javadocLine_ne_commentEnd line hline

/-- A first line that no comment has is no line of one either. -/
theorem not_begins_javadoc_append {start : Text} (hstart : ¬start <+: commentStart)
    {rest : List Text} (hrest : ¬Begins start rest) (description : Option Text) :
    ¬Begins start (javadoc description ++ rest) := by
  rcases javadoc_cases description with h | ⟨body, -, h⟩
  · rwa [h]
  · rw [h]
    exact fun hbegins => hstart (begins_cons.1 hbegins)

/-- What follows a comment can be told from it, whatever the comment says. -/
theorem eq_of_javadoc_append_eq {d d' : Option Text} {rest rest' : List Text}
    (h : javadoc d ++ rest = javadoc d' ++ rest') (hrest : ¬Begins commentStart rest)
    (hrest' : ¬Begins commentStart rest') : rest = rest' := by
  rcases javadoc_cases d with hd | ⟨body, hbody, hd⟩ <;>
    rcases javadoc_cases d' with hd' | ⟨body', hbody', hd'⟩ <;> rw [hd, hd'] at h
  · exact h
  · rw [List.nil_append] at h
    exact absurd (h ▸ begins_cons.2 (List.prefix_refl _)) hrest
  · rw [List.nil_append] at h
    exact absurd (h.symm ▸ begins_cons.2 (List.prefix_refl _)) hrest'
  · rw [List.cons_append, List.cons_append, List.append_assoc, List.append_assoc] at h
    exact (append_cons_inj_of_not_mem hbody hbody' (List.cons.inj h).2).2

/-! ## Enums -/

theorem sameLiteral_of_literalLine_eq {start t u : Text}
    (h : literalLine start t = literalLine start u) : t.SameLiteral u :=
  sameLiteral_of_stringLiteral_eq (List.append_cancel_left (List.append_cancel_right h))

theorem constantLines_append_inj {a b : EnumConstant} {t u : Text} (hlength : t.length = u.length)
    {rest rest' : List Text} (h : constantLines t a ++ rest = constantLines u b ++ rest') :
    a.SameMember SameLiteral b ∧ t = u ∧ rest = rest' := by
  simp only [constantLines, List.cons_append, List.nil_append, List.cons.injEq] at h
  obtain ⟨hproperty, hconstant, hrest⟩ := h
  have hliteral : stringLiteral a.value = stringLiteral b.value :=
    List.append_cancel_left (List.append_cancel_right hproperty)
  obtain ⟨hcall, hterminator⟩ := List.append_inj' hconstant hlength
  rw [hliteral] at hcall
  have hidentifier : a.identifier = b.identifier := List.append_cancel_left
    (List.append_cancel_right (List.append_cancel_right (List.append_cancel_right hcall)))
  exact ⟨⟨hidentifier, sameLiteral_of_stringLiteral_eq hliteral⟩, hterminator, hrest⟩

theorem length_terminator (last : Prop) [Decidable last] :
    (if last then (";" : Text) else ",").length = 1 := by
  split <;> rfl

theorem terminator_ne : (";" : Text) ≠ "," := by decide

theorem constantsLines_cons (c : EnumConstant) (cs : List EnumConstant) :
    constantsLines (c :: cs) = constantLines (if cs = [] then ";" else ",") c ++
      if cs = [] then [] else constantsLines cs := by
  cases cs with
  | nil => rfl
  | cons d cs => rfl

theorem constantsLines_nil_append_ne (t : Text) (c : EnumConstant) (rest rest' : List Text) :
    constantsLines [] ++ rest ≠ constantLines t c ++ rest' := by
  intro h
  have hline : indent ++ ";" = indent ++ ("@" ++ (jackson ++ (".JsonProperty(" ++
      (stringLiteral c.value ++ ")")))) := by
    simpa only [List.append_assoc] using (List.cons.inj h).1
  exact absurd (List.cons.inj (List.append_cancel_left hline)).1 (by decide)

theorem constantsLines_append_inj {cs ds : List EnumConstant} {rest rest' : List Text}
    (h : constantsLines cs ++ rest = constantsLines ds ++ rest') :
    List.Forall₂ (EnumConstant.SameMember SameLiteral) cs ds ∧ rest = rest' := by
  induction cs generalizing ds with
  | nil =>
    cases ds with
    | nil => exact ⟨.nil, (List.cons.inj h).2⟩
    | cons d ds =>
      rw [constantsLines_cons d ds, List.append_assoc] at h
      exact absurd h (constantsLines_nil_append_ne _ d _ _)
  | cons c cs ih =>
    cases ds with
    | nil =>
      rw [constantsLines_cons c cs, List.append_assoc] at h
      exact absurd h.symm (constantsLines_nil_append_ne _ c _ _)
    | cons d ds =>
      rw [constantsLines_cons, constantsLines_cons, List.append_assoc, List.append_assoc] at h
      obtain ⟨hcd, hterminator, hrest⟩ :=
        constantLines_append_inj ((length_terminator _).trans (length_terminator _).symm) h
      -- The same terminators say that both lists end here, or that both go on.
      by_cases hcs : cs = [] <;> by_cases hds : ds = []
      · rw [if_pos hcs, if_pos hds] at hrest
        subst hcs hds
        exact ⟨.cons hcd .nil, hrest⟩
      · rw [if_pos hcs, if_neg hds] at hterminator
        exact absurd hterminator terminator_ne
      · rw [if_neg hcs, if_pos hds] at hterminator
        exact absurd hterminator.symm terminator_ne
      · rw [if_neg hcs, if_neg hds] at hrest
        obtain ⟨hrests, htail⟩ := ih hrest
        exact ⟨.cons hcd hrests, htail⟩

/-- The header of an enum, with the empty line after it. -/
def enumHeader (name : Text) : List Text := ["public enum " ++ name ++ " \x7b", []]

theorem enumLines_append (e : EnumDeclaration) (rest : List Text) : enumLines e ++ rest =
    javadoc e.description ++ (enumHeader e.name ++
      (constantsLines e.constants ++ (enumMembers e ++ closingBrace :: rest))) := by
  simp only [enumLines, enumHeader, List.append_assoc]
  rfl

theorem not_begins_enumHeader {start : Text} (h : ¬start <+: "public enum ")
    (h' : ¬("public enum " : Text) <+: start) (name : Text) (rest : List Text) :
    ¬Begins start (enumHeader name ++ rest) := fun hbegins =>
  not_isPrefix_append h h' (name ++ " \x7b") (by
    rw [← List.append_assoc]
    exact begins_cons.1 hbegins)

theorem enumLines_append_inj {e e' : EnumDeclaration} {rest rest' : List Text}
    (h : enumLines e ++ rest = enumLines e' ++ rest') :
    e.SameMember SameLiteral e' ∧ rest = rest' := by
  rw [enumLines_append, enumLines_append] at h
  have hbody := eq_of_javadoc_append_eq h (not_begins_enumHeader (by decide) (by decide) _ _)
    (not_begins_enumHeader (by decide) (by decide) _ _)
  obtain ⟨hheader, hmembers⟩ := List.append_inj hbody rfl
  have hname : e.name = e'.name :=
    List.append_cancel_left (List.append_cancel_right (List.cons.inj hheader).1)
  obtain ⟨hconstants, hfixed⟩ := constantsLines_append_inj hmembers
  rw [show enumMembers e = enumMembers e' by rw [enumMembers, enumMembers, hname]] at hfixed
  exact ⟨⟨hname, hconstants⟩, (List.cons.inj (List.append_cancel_left hfixed)).2⟩

/-! ## Fields -/

/-- An annotation that may be missing can be told from what follows it. -/
theorem literalLines_append_inj {start : Text} {o o' : Option Text} {rest rest' : List Text}
    (h : o.toList.map (literalLine start) ++ rest = o'.toList.map (literalLine start) ++ rest')
    (hrest : ¬Begins start rest) (hrest' : ¬Begins start rest') :
    Option.Rel SameLiteral o o' ∧ rest = rest' := by
  have hbegins (t : Text) (ls : List Text) : Begins start (literalLine start t :: ls) := by
    rw [begins_cons, literalLine, List.append_assoc]
    exact List.prefix_append _ _
  cases o with
  | none =>
    cases o' with
    | none => exact ⟨.none, h⟩
    | some t =>
      obtain rfl : rest = literalLine start t :: rest' := h
      exact absurd (hbegins t rest') hrest
  | some t =>
    cases o' with
    | none =>
      obtain rfl : literalLine start t :: rest = rest' := h
      exact absurd (hbegins t rest) hrest'
    | some u =>
      obtain ⟨hline, htail⟩ := List.cons.inj h
      exact ⟨.some (sameLiteral_of_literalLine_eq hline), htail⟩

/-- The type and the name of a field can be read off its declaration, at the last blank. -/
theorem Field.declaration_inj {f g : Field} (hf : f.WellNamed) (hg : g.WellNamed)
    (h : f.declaration = g.declaration) : f.typeReference = g.typeReference ∧ f.name = g.name := by
  have hreverse (f : Field) : f.declaration.reverse = f.name.reverse ++
      (' ' : CodePoint) :: (f.typeReference.reverse ++ ("private " : Text).reverse) := by
    simp only [Field.declaration, List.reverse_append, List.append_assoc]
    rfl
  have hblank {f : Field} (hf : f.WellNamed) : (' ' : CodePoint) ∉ f.name.reverse := by
    rw [List.mem_reverse]
    exact not_mem_of_hasIdentifierForm hf.name (by decide)
  have hsplit := congrArg List.reverse h
  rw [hreverse, hreverse] at hsplit
  obtain ⟨hname, htype⟩ := append_cons_inj_of_not_mem (hblank hf) (hblank hg) hsplit
  exact ⟨List.reverse_injective (List.append_cancel_right htype), List.reverse_injective hname⟩

theorem not_isPrefix_literalLine {start t : Text} (h : ¬start <+: t) (h' : ¬t <+: start)
    (o : Option Text) : ∀ l ∈ o.toList.map (literalLine t), ¬start <+: l := by
  rw [List.forall_mem_map]
  intro u _
  rw [literalLine, List.append_assoc]
  exact not_isPrefix_append h h' _

/-- The lines of a field from the first that says what becomes of null. -/
def nullLines (required : Bool) (rest : List Text) : List Text :=
  (if required then [notNull] else []) ++ skipNulls :: rest

theorem not_begins_nullLines {start : Text} (hnull : ¬start <+: notNull)
    (hskip : ¬start <+: skipNulls) (required : Bool) (rest : List Text) :
    ¬Begins start (nullLines required rest) := by
  refine not_begins_append ?_ fun hbegins => hskip (begins_cons.1 hbegins)
  cases required with
  | true => exact List.forall_mem_singleton.2 hnull
  | false => exact List.forall_mem_nil _

theorem nullLines_inj {required required' : Bool} {rest rest' : List Text}
    (h : nullLines required rest = nullLines required' rest') :
    required = required' ∧ rest = rest' := by
  have hne : notNull ≠ skipNulls := by decide
  cases required <;> cases required'
  · exact ⟨rfl, (List.cons.inj h).2⟩
  · exact absurd (List.cons.inj h).1.symm hne
  · exact absurd (List.cons.inj h).1 hne
  · exact ⟨rfl, (List.cons.inj (List.cons.inj h).2).2⟩

theorem fieldLines_append_of_not_catchAll {f : Field} (h : f.catchAll = false)
    (rest : List Text) : fieldLines f ++ rest =
      f.jsonName.toList.map (literalLine jsonPropertyStart) ++
        (f.givenDescription.toList.map (literalLine jsonDescriptionStart) ++
          nullLines f.required ((f.declaration ++ ";") :: rest)) := by
  rw [fieldLines_of_not_catchAll h]
  simp only [nullLines, List.append_assoc, List.cons_append, List.nil_append]

/-- A catch-all field and a field for a property start with different annotations. -/
theorem not_begins_jsonIgnore {f : Field} (h : f.catchAll = false) (rest : List Text) :
    ¬Begins jsonIgnore (fieldLines f ++ rest) := by
  rw [fieldLines_append_of_not_catchAll h]
  refine not_begins_append (not_isPrefix_literalLine (by decide) (by decide) _) ?_
  refine not_begins_append (not_isPrefix_literalLine (by decide) (by decide) _) ?_
  exact not_begins_nullLines (by decide) (by decide) _ _

theorem Field.sameLiteral_description {f g : Field}
    (h : Option.Rel SameLiteral f.givenDescription g.givenDescription) :
    SameLiteral (f.description.getD []) (g.description.getD []) := by
  have hgiven (f : Field) : f.givenDescription.getD [] = f.description.getD [] := by
    rw [givenDescription]
    rcases f.description with _ | _ | ⟨c, t⟩ <;> rfl
  rw [← hgiven f, ← hgiven g]
  generalize f.givenDescription = o, g.givenDescription = o' at h
  cases h with
  | none => exact .refl []
  | some h => exact h

theorem fieldLines_append_inj_of_not_catchAll {f g : Field} (hf : f.WellNamed) (hg : g.WellNamed)
    (hfcatch : f.catchAll = false) (hgcatch : g.catchAll = false) {rest rest' : List Text}
    (h : fieldLines f ++ rest = fieldLines g ++ rest') :
    f.SameMember SameLiteral g ∧ rest = rest' := by
  rw [fieldLines_append_of_not_catchAll hfcatch, fieldLines_append_of_not_catchAll hgcatch] at h
  have hlater (o : Option Text) (required : Bool) (ls : List Text) : ¬Begins jsonPropertyStart
      (o.toList.map (literalLine jsonDescriptionStart) ++ nullLines required ls) :=
    not_begins_append (not_isPrefix_literalLine (by decide) (by decide) _)
      (not_begins_nullLines (by decide) (by decide) _ _)
  -- Annotations come off from the front, since none of the later lines starts as they do.
  obtain ⟨hjson, h⟩ := literalLines_append_inj h (hlater _ _ _) (hlater _ _ _)
  obtain ⟨hdescription, h⟩ := literalLines_append_inj h
    (not_begins_nullLines (by decide) (by decide) _ _)
    (not_begins_nullLines (by decide) (by decide) _ _)
  obtain ⟨hrequired, h⟩ := nullLines_inj h
  obtain ⟨hdeclaration, hrest⟩ := List.cons.inj h
  obtain ⟨htype, hname⟩ := Field.declaration_inj hf hg (List.append_cancel_right hdeclaration)
  exact ⟨⟨hname, htype, hfcatch.trans hgcatch.symm, fun _ => hjson, fun _ => hrequired,
    fun _ => Field.sameLiteral_description hdescription⟩, hrest⟩

theorem fieldLines_append_inj_of_catchAll {f g : Field} (hf : f.WellNamed) (hg : g.WellNamed)
    (hfcatch : f.catchAll = true) (hgcatch : g.catchAll = true) {rest rest' : List Text}
    (h : fieldLines f ++ rest = fieldLines g ++ rest') :
    f.SameMember SameLiteral g ∧ rest = rest' := by
  rw [fieldLines_of_catchAll hfcatch, fieldLines_of_catchAll hgcatch] at h
  simp only [List.cons_append, List.nil_append, List.cons.injEq] at h
  obtain ⟨-, hdeclaration, hrest⟩ := h
  obtain ⟨htype, hname⟩ := Field.declaration_inj hf hg (List.append_cancel_right hdeclaration)
  have hordinary {P : Prop} (hfalse : f.catchAll = false) : P := by
    rw [hfcatch] at hfalse
    cases hfalse
  exact ⟨⟨hname, htype, hfcatch.trans hgcatch.symm, hordinary, hordinary, hordinary⟩, hrest⟩

theorem fieldLines_append_inj {f g : Field} (hf : f.WellNamed) (hg : g.WellNamed)
    {rest rest' : List Text} (h : fieldLines f ++ rest = fieldLines g ++ rest') :
    f.SameMember SameLiteral g ∧ rest = rest' := by
  have hignore {f : Field} (hcatch : f.catchAll = true) (rest : List Text) :
      Begins jsonIgnore (fieldLines f ++ rest) := by
    rw [fieldLines_of_catchAll hcatch]
    exact begins_cons.2 (List.prefix_refl _)
  cases hfcatch : f.catchAll <;> cases hgcatch : g.catchAll
  · exact fieldLines_append_inj_of_not_catchAll hf hg hfcatch hgcatch h
  · exact absurd (h ▸ hignore hgcatch rest') (not_begins_jsonIgnore hfcatch rest)
  · exact absurd (h ▸ hignore hfcatch rest) (not_begins_jsonIgnore hgcatch rest')
  · exact fieldLines_append_inj_of_catchAll hf hg hfcatch hgcatch h

/-! ## Members -/

/-- A field with its methods, each after an empty line. -/
def fieldBlock (f : Field) : List Text := (fieldLines f :: accessorBlocks f).flatMap ([] :: ·)

/-- An enum after an empty line. -/
def enumBlock (e : EnumDeclaration) : List Text := [] :: enumLines e

theorem fieldBlock_append (f : Field) (rest : List Text) : fieldBlock f ++ rest =
    [] :: (fieldLines f ++ ((accessorBlocks f).flatMap ([] :: ·) ++ rest)) := by
  rw [fieldBlock, List.flatMap_cons, List.cons_append, List.cons_append, List.append_assoc]

theorem fieldBlock_append_inj {f g : Field} (hf : f.WellNamed) (hg : g.WellNamed)
    {rest rest' : List Text} (h : fieldBlock f ++ rest = fieldBlock g ++ rest') :
    f.SameMember SameLiteral g ∧ rest = rest' := by
  rw [fieldBlock_append, fieldBlock_append] at h
  obtain ⟨hmember, hmethods⟩ := fieldLines_append_inj hf hg (List.cons.inj h).2
  have haccessors : accessorBlocks f = accessorBlocks g := by
    simp only [accessorBlocks, getterName, setterName, hmember.name, hmember.typeReference,
      hmember.catchAll]
  rw [haccessors] at hmethods
  exact ⟨hmember, List.append_cancel_left hmethods⟩

theorem begins_fieldLines (f : Field) (rest : List Text) : Begins "@" (fieldLines f ++ rest) := by
  have hliteral {start : Text} (hstart : ("@" : Text) <+: start) (o : Option Text) :
      ∀ l ∈ o.toList.map (literalLine start), ("@" : Text) <+: l := by
    rw [List.forall_mem_map]
    intro t _
    rw [literalLine, List.append_assoc]
    exact hstart.trans (List.prefix_append _ _)
  cases hcatch : f.catchAll with
  | true =>
    rw [fieldLines_of_catchAll hcatch]
    exact begins_cons.2 (by decide)
  | false =>
    rw [fieldLines_of_not_catchAll hcatch]
    simp only [List.append_assoc]
    refine .append (hliteral (by decide) _) (.append (hliteral (by decide) _) (.append ?_ ?_))
    · split
      · exact List.forall_mem_singleton.2 (by decide)
      · exact List.forall_mem_nil _
    · exact begins_cons.2 (by decide)

/-- The first line of a member shows whether it is a field or an enum. -/
theorem not_begins_enumLines (e : EnumDeclaration) (rest : List Text) :
    ¬Begins "@" (enumLines e ++ rest) := by
  rw [enumLines_append]
  exact not_begins_javadoc_append (by decide) (not_begins_enumHeader (by decide) (by decide) _ _) _

theorem enumBlocks_inj {es es' : List EnumDeclaration}
    (h : es.flatMap enumBlock = es'.flatMap enumBlock) :
    List.Forall₂ (EnumDeclaration.SameMember SameLiteral) es es' := by
  induction es generalizing es' with
  | nil =>
    cases es' with
    | nil => exact .nil
    | cons e' es' => cases h
  | cons e es ih =>
    cases es' with
    | nil => cases h
    | cons e' es' =>
      obtain ⟨hmember, hrest⟩ := enumLines_append_inj (List.cons.inj h).2
      exact .cons hmember (ih hrest)

/-- The enums of a class are not taken for one of its fields. -/
theorem enumBlocks_ne_fieldBlock (es : List EnumDeclaration) (f : Field) (rest : List Text) :
    es.flatMap enumBlock ≠ fieldBlock f ++ rest := by
  rw [fieldBlock_append]
  cases es with
  | nil => exact nofun
  | cons e es =>
    intro h
    have hlines := (List.cons.inj h).2
    exact not_begins_enumLines e _ (hlines ▸ begins_fieldLines f _)

theorem members_inj {fs gs : List Field} {es es' : List EnumDeclaration}
    (hfs : ∀ f ∈ fs, f.WellNamed) (hgs : ∀ g ∈ gs, g.WellNamed)
    (h : fs.flatMap fieldBlock ++ es.flatMap enumBlock =
      gs.flatMap fieldBlock ++ es'.flatMap enumBlock) :
    List.Forall₂ (Field.SameMember SameLiteral) fs gs ∧
      List.Forall₂ (EnumDeclaration.SameMember SameLiteral) es es' := by
  induction fs generalizing gs with
  | nil =>
    cases gs with
    | nil => exact ⟨.nil, enumBlocks_inj h⟩
    | cons g gs =>
      rw [List.flatMap_cons, List.append_assoc] at h
      exact absurd h (enumBlocks_ne_fieldBlock es g _)
  | cons f fs ih =>
    cases gs with
    | nil =>
      rw [List.flatMap_cons, List.append_assoc] at h
      exact absurd h.symm (enumBlocks_ne_fieldBlock es' f _)
    | cons g gs =>
      obtain ⟨hf, hfs⟩ := List.forall_mem_cons.1 hfs
      obtain ⟨hg, hgs⟩ := List.forall_mem_cons.1 hgs
      rw [List.flatMap_cons, List.flatMap_cons, List.append_assoc, List.append_assoc] at h
      obtain ⟨hmember, hrest⟩ := fieldBlock_append_inj hf hg h
      obtain ⟨hfields, henums⟩ := ih hfs hgs hrest
      exact ⟨.cons hmember hfields, henums⟩

/-! ## Classes -/

theorem indentLine_injective : Function.Injective indentLine := by
  intro l m h
  have hne (t : Text) : indent ++ t ≠ [] := by simp [indent, Text.ofString, Text.ofChars]
  unfold indentLine at h
  split at h <;> split at h
  · next hl hm => exact hl.trans hm.symm
  · exact absurd h.symm (hne m)
  · exact absurd h (hne l)
  · exact List.append_cancel_left h

theorem flatMap_memberLines (c : ClassDeclaration) : (classMembers c).flatMap memberLines =
    indentLines (c.fields.flatMap fieldBlock ++ c.enums.flatMap enumBlock) := by
  have hblocks : (classMembers c).flatMap ([] :: ·) =
      c.fields.flatMap fieldBlock ++ c.enums.flatMap enumBlock := by
    rw [classMembers, List.flatMap_append, List.flatMap_assoc, List.flatMap_map]
    rfl
  rw [← hblocks, indentLines, List.map_flatMap]
  rfl

/-- The annotations and the header of a class. -/
def classHeader (c : ClassDeclaration) : List Text :=
  [jsonInclude, jsonPropertyOrder (propertyOrder c), jsonDeserialize,
    "public class " ++ c.name ++ " implements " ++ kubernetesResource ++ " \x7b"]

theorem classLines_eq (c : ClassDeclaration) : classLines c = javadoc c.description ++
    (classHeader c ++
      (indentLines (c.fields.flatMap fieldBlock ++ c.enums.flatMap enumBlock) ++
        [closingBrace])) := by
  rw [← flatMap_memberLines, classLines, List.append_assoc, List.append_assoc]
  rfl

theorem packageLines_eq (package : Option Text) : packageLines package =
    if package.getD [] = [] then [] else ["package " ++ package.getD [] ++ ";", []] := by
  cases package <;> rfl

theorem packageLines_append_inj {p p' : Option Text} {rest rest' : List Text}
    (h : packageLines p ++ rest = packageLines p' ++ rest') (hrest : ¬Begins "package " rest)
    (hrest' : ¬Begins "package " rest') : p.getD [] = p'.getD [] ∧ rest = rest' := by
  have hbegins (t : Text) (ls : List Text) :
      Begins "package " (("package " ++ t ++ ";") :: ls) := by
    rw [begins_cons, List.append_assoc]
    exact List.prefix_append _ _
  rw [packageLines_eq, packageLines_eq] at h
  split at h <;> split at h
  · next hp hp' => exact ⟨hp.trans hp'.symm, h⟩
  · obtain rfl : rest = _ := h
    exact absurd (hbegins _ _) hrest
  · obtain rfl : _ = rest' := h
    exact absurd (hbegins _ _) hrest'
  · obtain ⟨hline, htail⟩ := List.cons.inj h
    exact ⟨List.append_cancel_left (List.append_cancel_right hline), (List.cons.inj htail).2⟩

namespace ClassDeclaration

/-- Well-named classes with the same source have the same members, where texts in literals are told
apart by their units in UTF-16. -/
theorem sameMembers_of_renderClass_eq {c d : ClassDeclaration} (hc : c.WellNamed)
    (hd : d.WellNamed) (h : renderClass c = renderClass d) : c.SameMembers SameLiteral d := by
  have hlines := congrArg sourceLines h
  rw [sourceLines_renderClass hc, sourceLines_renderClass hd, classLines_eq, classLines_eq]
    at hlines
  have hheader {start : Text} (hstart : ¬start <+: jsonInclude) (c : ClassDeclaration)
      (ls : List Text) : ¬Begins start (classHeader c ++ ls) :=
    fun hbegins => hstart (begins_cons.1 hbegins)
  obtain ⟨hpackage, hclass⟩ := packageLines_append_inj hlines
    (not_begins_javadoc_append (by decide) (hheader (by decide) _ _) _)
    (not_begins_javadoc_append (by decide) (hheader (by decide) _ _) _)
  have hbody := eq_of_javadoc_append_eq hclass (hheader (by decide) _ _) (hheader (by decide) _ _)
  obtain ⟨hheaders, hmembers⟩ := List.append_inj hbody rfl
  simp only [classHeader, List.cons.injEq, and_true, true_and] at hheaders
  have hname : c.name = d.name := List.append_cancel_left (List.append_cancel_right
    (List.append_cancel_right (List.append_cancel_right hheaders.2)))
  -- Members are told apart without their indentation.
  have hblocks := List.map_injective_iff.2 indentLine_injective (List.append_cancel_right hmembers)
  obtain ⟨hfields, henums⟩ := members_inj hc.fields hd.fields hblocks
  exact ⟨hname, hpackage, hfields, henums⟩

/-- No package and the empty one, no description and the empty one, and a comment with blanks around
it. -/
theorem sameMembers_of_renderClass_eq_empty :
    let mode : EnumDeclaration := { name := "Mode", package := none, constants := [⟨"ON", "on"⟩] }
    let size : Field := { name := "size", jsonName := some "size", typeReference := "long" }
    let c : ClassDeclaration :=
      { name := "Spec"
        package := none
        fields := [size]
        enums := [mode]
        description := some "*/" }
    let d : ClassDeclaration :=
      { name := "Spec"
        package := some []
        fields := [{ size with description := some [] }]
        enums := [mode]
        description := some " */\n" }
    c.WellNamed ∧ d.WellNamed ∧ renderClass c = renderClass d ∧ c.SameMembers SameLiteral d := by
  intro mode size c d
  have hmode : mode.WellNamed := ⟨by decide, by decide⟩
  have hsize : size.WellNamed := ⟨by decide, by decide⟩
  have hc : c.WellNamed := ⟨by decide, nofun, List.forall_mem_singleton.2 hsize,
    List.forall_mem_singleton.2 hmode⟩
  have hd : d.WellNamed := by
    refine ⟨by decide, fun p hp => ?_, List.forall_mem_singleton.2 ⟨by decide, by decide⟩,
      List.forall_mem_singleton.2 hmode⟩
    obtain rfl := Option.some.inj hp
    exact Text.oneLine_nil
  have hcomment : javadoc c.description = javadoc d.description := by decide +kernel
  have hsource : renderClass c = renderClass d := by
    rw [renderClass, renderClass, classLines_eq, classLines_eq, hcomment]
    rfl
  exact ⟨hc, hd, hsource, sameMembers_of_renderClass_eq hc hd hsource⟩

/-- A pair of surrogates that stand for one code point has the literal of that code point. -/
theorem not_forall_sameMembers :
    ¬∀ c d : ClassDeclaration, c.WellNamed → d.WellNamed → renderClass c = renderClass d →
      c.SameMembers Eq d := by
  intro hall
  let withValue (value : Text) : ClassDeclaration :=
    { name := "Spec"
      package := none
      fields := []
      enums := [{ name := "Mode", package := none, constants := [⟨"A", value⟩] }] }
  have hnamed (value : Text) : (withValue value).WellNamed :=
    ⟨rfl, nofun, nofun,
      List.forall_mem_singleton.2 ⟨rfl, List.forall_mem_singleton.2 rfl⟩⟩
  have hliteral : stringLiteral [⟨0xd83d, by decide⟩, ⟨0xde00, by decide⟩] =
      stringLiteral [⟨0x1f600, by decide⟩] := by decide +kernel
  have hsource : renderClass (withValue [⟨0xd83d, by decide⟩, ⟨0xde00, by decide⟩]) =
      renderClass (withValue [⟨0x1f600, by decide⟩]) := by
    simp only [withValue, renderClass, classLines, classMembers, List.map_cons, List.map_nil,
      enumLines, constantsLines, constantLines, hliteral]
    rfl
  obtain ⟨henum, -⟩ := List.forall₂_cons.1 (hall _ _ (hnamed _) (hnamed _) hsource).enums
  obtain ⟨hconstant, -⟩ := List.forall₂_cons.1 henum.constants
  exact absurd hconstant.value (by decide)

end ClassDeclaration

end Java

end KubeJava
