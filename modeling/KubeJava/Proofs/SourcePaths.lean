import KubeJava.Output
import KubeJava.Proofs.ClassNames

set_option autoImplicit false

/-! # Paths of source files

The file of a type lies in the output directory: behind it come the parts of the type's package and
the name of the file. A part that starts with a slash would replace all that is before it. No label
of a group and no name of an object gives such a part, but the name of a version can. -/

namespace KubeJava

namespace Path

variable {p output : Path} {part t : Text} {parts : List Text}

/-! ## Relative and absolute parts -/

/-- The text starts at the root. -/
def IsRooted (t : Text) : Prop := t.head? = some separator

instance (t : Text) : Decidable (IsRooted t) := inferInstanceAs (Decidable (_ = _))

@[simp] theorem anchorOf_eq_nil_iff : anchorOf t = [] ↔ ¬IsRooted t := by
  cases t with
  | nil => simp [anchorOf, IsRooted, Text.ofString, Text.ofChars]
  | cons c rest =>
    by_cases hc : c = separator
    · -- With a slash in front the number of slashes is positive.
      refine iff_of_false ?_ (by simp [IsRooted, hc])
      rw [anchorOf, List.takeWhile_cons_of_pos (by simpa using hc), List.length_cons]
      split <;> simp_all [Text.ofString, Text.ofChars]
    · refine iff_of_true ?_ (by simp [IsRooted, hc])
      rw [anchorOf, List.takeWhile_cons_of_neg (by simpa using hc)]
      rfl

theorem join_of_not_isRooted (h : ¬IsRooted part) :
    p.join part = { p with components := p.components ++ componentsOf part } := by
  rw [join]
  exact if_pos (anchorOf_eq_nil_iff.2 h)

theorem joinAll_of_not_isRooted (h : ∀ part ∈ parts, ¬IsRooted part) :
    p.joinAll parts = { p with components := p.components ++ parts.flatMap componentsOf } := by
  induction parts generalizing p with
  | nil => simp [joinAll]
  | cons part rest ih =>
    obtain ⟨hpart, hrest⟩ := List.forall_mem_cons.1 h
    have hstep : p.joinAll (part :: rest) = (p.join part).joinAll rest := rfl
    rw [hstep, ih hrest, join_of_not_isRooted hpart]
    simp

/-- What has an anchor keeps one. -/
theorem anchor_join_ne_nil (h : p.anchor ≠ [] ∨ IsRooted part) : (p.join part).anchor ≠ [] := by
  rw [join]
  split
  · next hanchor =>
    rcases h with h | h
    · exact h
    · exact absurd h (anchorOf_eq_nil_iff.1 hanchor)
  · next hanchor => exact hanchor

theorem anchor_joinAll_ne_nil (h : p.anchor ≠ [] ∨ ∃ part ∈ parts, IsRooted part) :
    (p.joinAll parts).anchor ≠ [] := by
  induction parts generalizing p with
  | nil =>
    rcases h with h | ⟨part, hpart, -⟩
    · exact h
    · cases hpart
  | cons part rest ih =>
    refine ih (p := p.join part) ?_
    rcases h with h | ⟨q, hq, hrooted⟩
    · exact .inl (anchor_join_ne_nil (.inl h))
    · rcases List.mem_cons.1 hq with rfl | hq
      · exact .inl (anchor_join_ne_nil (.inr hrooted))
      · exact .inr ⟨q, hq, hrooted⟩

/-! ## Plain names -/

/-- A component that leads to an entry of the directory before it. -/
structure IsPlainName (c : Text) : Prop where
  ne_nil : c ≠ []
  ne_dot : c ≠ "."
  ne_dots : c ≠ ".."
  separator_not_mem : separator ∉ c

/-- A text without dots is split into plain names. -/
theorem isPlainName_of_mem_componentsOf (hdot : ('.' : CodePoint) ∉ t) :
    ∀ c ∈ componentsOf t, IsPlainName c := by
  intro c hc
  obtain ⟨hmem, hkept⟩ := List.mem_filter.1 hc
  simp only [ne_eq, decide_eq_true_eq] at hkept
  obtain ⟨hsep, hsub⟩ := Text.mem_partsAt hmem
  refine ⟨hkept.1, hkept.2, ?_, hsep⟩
  rintro rfl
  exact hdot (hsub _ (by decide))

@[simp] theorem componentsOf_of_isPlainName (h : IsPlainName t) : componentsOf t = [t] := by
  rw [componentsOf, Text.partsAt_of_not_mem h.separator_not_mem]
  simp [h.ne_nil, h.ne_dot]

@[simp] theorem flatMap_componentsOf (h : ∀ part ∈ parts, IsPlainName part) :
    parts.flatMap componentsOf = parts := by
  induction parts with
  | nil => rfl
  | cons part rest ih =>
    obtain ⟨hpart, hrest⟩ := List.forall_mem_cons.1 h
    rw [List.flatMap_cons, componentsOf_of_isPlainName hpart, ih hrest, List.singleton_append]

theorem IsPlainName.not_isRooted (h : IsPlainName t) : ¬IsRooted t := fun hrooted =>
  h.separator_not_mem (List.mem_of_mem_head? hrooted)

theorem isPlainName_of_not_mem (hnil : t ≠ []) (hdot : ('.' : CodePoint) ∉ t)
    (hsep : separator ∉ t) : IsPlainName t := by
  refine ⟨hnil, ?_, ?_, hsep⟩
  · rintro rfl
    exact hdot (by decide)
  · rintro rfl
    exact hdot (by decide)

/-! ## Inside a directory -/

/-- The path is that of the directory with at least one plain name after it. -/
def Inside (p directory : Path) : Prop :=
  ∃ rest, rest ≠ [] ∧ (∀ c ∈ rest, IsPlainName c) ∧
    p = { directory with components := directory.components ++ rest }

end Path

open KubeJava.Path (IsPlainName IsRooted)

/-! ## The file of a type -/

theorem Java.separator_not_mem_of_isIdentifier {t : Text} (h : isIdentifier t = true) :
    Path.separator ∉ t :=
  not_mem_of_isIdentifier h (by decide) (by decide)

theorem Java.isPlainName_of_isIdentifier {t : Text} (h : isIdentifier t = true) :
    IsPlainName t :=
  Path.isPlainName_of_not_mem (ne_nil_of_isIdentifier h) (dot_not_mem_of_isIdentifier h)
    (separator_not_mem_of_isIdentifier h)

/-- The name of the file of a class is a plain one. -/
theorem Java.isPlainName_fileName {t : Text} (h : isIdentifier t = true) :
    IsPlainName (t ++ (".java" : Text)) := by
  have hlast : (t ++ (".java" : Text)).getLast? = some ('a' : CodePoint) := by
    rw [List.getLast?_append]
    rfl
  refine ⟨by simp [ne_nil_of_isIdentifier h], ?_, ?_, ?_⟩
  · intro heq
    rw [heq] at hlast
    exact absurd hlast (by decide)
  · intro heq
    rw [heq] at hlast
    exact absurd hlast (by decide)
  · rw [List.mem_append]
    rintro (hsep | hsep)
    · exact separator_not_mem_of_isIdentifier h hsep
    · exact absurd hsep (by decide)

section sourcePath

variable {r : TypeRecord} {package : Text} {output : Path}

/-- The empty package gives the same path as one without parts. -/
theorem sourcePath_eq (h : r.package = some package) :
    sourcePath output r = (output.joinAll package.dotParts).join (r.name ++ ".java") := by
  unfold sourcePath
  rw [h]
  by_cases hnil : package = []
  · subst hnil
    simp [Text.dotParts, Text.partsAt, Path.joinAll, Path.join, Path.ofText, Path.anchorOf,
      Path.componentsOf, Text.ofString, Text.ofChars]
  · simp [hnil]

/-- Behind the output directory come the parts of the package, as far as no part is rooted. -/
theorem sourcePath_of_not_isRooted (hpackage : r.package = some package)
    (hname : Java.isIdentifier r.name = true) (h : ∀ part ∈ package.dotParts, ¬IsRooted part) :
    sourcePath output r = { output with
      components := output.components ++
        (package.dotParts.flatMap Path.componentsOf ++ [r.name ++ (".java" : Text)]) } := by
  have hfile := Java.isPlainName_fileName hname
  rw [sourcePath_eq hpackage, Path.joinAll_of_not_isRooted h,
    Path.join_of_not_isRooted hfile.not_isRooted, Path.componentsOf_of_isPlainName hfile]
  simp

/-- The file of a type tells its qualified name where packages are spelled by plain names. -/
theorem qualifiedName_eq_of_sourcePath_eq {r' : TypeRecord} {package' : Text}
    (hpackage : r.package = some package) (hpackage' : r'.package = some package')
    (hname : Java.isIdentifier r.name = true) (hname' : Java.isIdentifier r'.name = true)
    (hplain : ∀ part ∈ package.dotParts, IsPlainName part)
    (hplain' : ∀ part ∈ package'.dotParts, IsPlainName part)
    (h : sourcePath output r = sourcePath output r') : r.qualifiedName = r'.qualifiedName := by
  rw [sourcePath_of_not_isRooted hpackage hname fun part hpart => (hplain part hpart).not_isRooted,
    sourcePath_of_not_isRooted hpackage' hname' fun part hpart =>
      (hplain' part hpart).not_isRooted,
    Path.flatMap_componentsOf hplain, Path.flatMap_componentsOf hplain'] at h
  obtain ⟨hparts, hfile⟩ := List.append_inj' (List.append_cancel_left (congrArg Path.components h))
    rfl
  have hsame : r.name = r'.name := List.append_cancel_right (List.singleton_inj.1 hfile)
  rw [TypeRecord.qualifiedName, TypeRecord.qualifiedName, hpackage, hpackage', hsame,
    Java.dotParts_injective hparts]

theorem inside_sourcePath (hpackage : r.package = some package)
    (hname : Java.isIdentifier r.name = true) (h : ∀ part ∈ package.dotParts, ¬IsRooted part) :
    (sourcePath output r).Inside output := by
  refine ⟨_, ?_, ?_, sourcePath_of_not_isRooted hpackage hname h⟩
  · simp
  · refine List.forall_mem_append.2 ⟨fun c hc => ?_, ?_⟩
    · obtain ⟨part, hpart, hc⟩ := List.mem_flatMap.1 hc
      exact Path.isPlainName_of_mem_componentsOf (Text.mem_partsAt hpart).1 c hc
    · rw [List.forall_mem_singleton]
      exact Java.isPlainName_fileName hname

/-- A rooted part leads out of every relative directory. -/
theorem not_inside_sourcePath (hpackage : r.package = some package)
    (h : ∃ part ∈ package.dotParts, IsRooted part) (houtput : output.anchor = []) :
    ¬(sourcePath output r).Inside output := by
  rintro ⟨rest, -, -, heq⟩
  have hanchor : (sourcePath output r).anchor ≠ [] := by
    rw [sourcePath_eq hpackage]
    exact Path.anchor_join_ne_nil (.inl (Path.anchor_joinAll_ne_nil (.inr h)))
  rw [heq] at hanchor
  exact hanchor houtput

end sourcePath

/-! ## Containment -/

variable {settings : Settings} {d : Definition} {g : Generation}

/-- The files of a definition lie inside the output directory, whichever it is, exactly if no
dot-separated part of a version's name starts with a slash. -/
theorem inside_output_iff (h : (generateDefinition settings d).outcome = .ok g) :
    (∀ output, ∀ r ∈ g.types.topLevel, (sourcePath output r).Inside output) ↔
      ∀ v ∈ d.versions, ∀ part ∈ v.name.dotParts, ¬IsRooted part := by
  constructor
  · intro hinside v hv part hpart hrooted
    obtain ⟨r, hr, p, hp, hsub⟩ := exists_resource_of_mem h hv
    exact not_inside_sourcePath hp ⟨part, hsub part hpart, hrooted⟩ rfl
      (hinside { components := ["out"] } r hr)
  · intro hversions output r hr
    obtain ⟨v, hv, p, hp, hparts⟩ := exists_package_of_mem h (List.mem_append_left _ hr)
    refine inside_sourcePath hp (isIdentifier_name_of_mem h hr) fun part hpart => ?_
    rcases hparts part hpart with hid | hpart
    · exact (Java.isPlainName_of_isIdentifier hid).not_isRooted
    · exact hversions v hv part hpart

/-- Slashes and double dots in the names of versions do no harm where no part starts with one. -/
theorem inside_output_iff_slashes :
    let root : Schema :=
      { type := some "object", properties := some [("spec", { type := some "object" })] }
    let d : Definition :=
      { apiVersion := "apiextensions.k8s.io/v1"
        group := "test.org"
        names := { kind := "Widget" }
        versions := [
          { name := "v1/beta", validation := some { openAPI := some root } },
          { name := "v2..x//" }] }
    ∃ g, (generateDefinition {} d).outcome = .ok g ∧
      g.types.topLevel.map (sourcePath { components := ["out"] }) =
        [{ components := ["out", "org", "test", "v1", "beta", "WidgetSpec.java"] },
          { components := ["out", "org", "test", "v1", "beta", "Widget.java"] },
          { components := ["out", "org", "test", "v2", "x", "Widget.java"] }] ∧
      ∀ output, ∀ r ∈ g.types.topLevel, (sourcePath output r).Inside output := by
  intro root d
  obtain ⟨g, hg, hpaths⟩ : ∃ g, (generateDefinition {} d).outcome = .ok g ∧
      g.types.topLevel.map (sourcePath { components := ["out"] }) =
        [{ components := ["out", "org", "test", "v1", "beta", "WidgetSpec.java"] },
          { components := ["out", "org", "test", "v1", "beta", "Widget.java"] },
          { components := ["out", "org", "test", "v2", "x", "Widget.java"] }] :=
    exists_eq_ok (by decide +kernel)
  have hversions : ∀ v ∈ d.versions, ∀ part ∈ v.name.dotParts, ¬IsRooted part := by
    intro v hv
    rcases List.mem_cons.1 hv with rfl | hv
    · decide
    · obtain rfl := List.mem_singleton.1 hv
      decide
  exact ⟨g, hg, hpaths, (inside_output_iff hg).2 hversions⟩

/-- A version whose name starts with a slash puts the class of the resource next to the root. -/
theorem not_forall_inside_output :
    ¬∀ (settings : Settings) (d : Definition) (g : Generation),
      (generateDefinition settings d).outcome = .ok g →
        ∀ output, ∀ r ∈ g.types.topLevel, (sourcePath output r).Inside output := by
  intro hall
  let d : Definition :=
    { apiVersion := "apiextensions.k8s.io/v1"
      group := "test.org"
      names := { kind := "Widget" }
      versions := [{ name := "/tmp" }] }
  obtain ⟨g, hg, hpaths⟩ : ∃ g, (generateDefinition {} d).outcome = .ok g ∧
      g.types.topLevel.map (sourcePath { components := ["out"] }) =
        [{ anchor := "/", components := ["tmp", "Widget.java"] }] :=
    exists_eq_ok (by decide +kernel)
  obtain ⟨r, hr, hp⟩ := List.mem_map.1 (hpaths ▸ List.mem_cons_self)
  obtain ⟨rest, -, -, heq⟩ := hall {} d g hg { components := ["out"] } r hr
  have hanchor : ("/" : Text) = "" := congrArg Path.anchor (hp.symm.trans heq)
  exact absurd hanchor (by decide)

end KubeJava
