import KubeJava.Proofs.LiteralReading
import KubeJava.Proofs.SourceLines

set_option autoImplicit false

/-! # What comments hold

The comment for a description has to end where its last line does. A comment ends at the first end
mark after its start, and end marks are looked for once Unicode escapes are translated. The end marks
that a description spells plainly are written otherwise, and neither the lines that it is cut into
nor what stands before them bring in new ones. Escapes are left as they are, though: they may spell an
end mark, and one may be malformed. -/

namespace KubeJava.Java

/-! ## Reading a comment -/

/-- What comes after the first end mark, if there is one. -/
def afterEndMark? : List Nat → Option (List Nat)
  | [] => none
  | unit :: rest =>
    if unit = 0x2a ∧ rest.head? = some 0x2f then some rest.tail else afterEndMark? rest

/-- What comes after the comment at the front. -/
def readComment? : List Nat → Option (List Nat)
  | 0x2f :: 0x2a :: rest => afterEndMark? rest
  | _ => none

def isWhiteSpace (unit : Nat) : Bool :=
  unit = 0x20 || unit = 0x09 || unit = 0x0c || isLineTerminator unit

instance decidableExistsEqSome {α : Type} {p : α → Prop} [DecidablePred p] (x : Option α) :
    Decidable (∃ a, x = some a ∧ p a) :=
  match x with
  | none => isFalse fun ⟨_, h, _⟩ => nomatch h
  | some a => decidable_of_iff (p a) (by simp)

/-- The source is one comment with nothing after it and no more than white space before it. -/
def IsComment (source : Text) : Prop :=
  ∃ units, translate source = some units ∧
    readComment? (units.dropWhile isWhiteSpace) = some []

/-- The escapes of the text are well formed, and this comes after its first end mark. -/
def HasAfterEndMark (t : Text) (after : Option (List Nat)) : Prop :=
  ∃ units, translate t = some units ∧ afterEndMark? units = after

/-- The escapes of the text are well formed, and it holds no end mark. -/
def IsHarmless (t : Text) : Prop := HasAfterEndMark t none

instance (source : Text) : Decidable (IsComment source) := decidableExistsEqSome _

instance (t : Text) (after : Option (List Nat)) : Decidable (HasAfterEndMark t after) :=
  decidableExistsEqSome _

instance (t : Text) : Decidable (IsHarmless t) := inferInstanceAs (Decidable (HasAfterEndMark t none))

/-! ## End marks among units -/

section afterEndMark

variable {unit : Nat} {us vs ws rest : List Nat}

@[simp] theorem afterEndMark?_cons_of_ne (h : unit ≠ 0x2a) :
    afterEndMark? (unit :: vs) = afterEndMark? vs :=
  if_neg fun hmark => h hmark.1

theorem afterEndMark?_append_of_some (h : afterEndMark? us = some rest) :
    afterEndMark? (us ++ vs) = some (rest ++ vs) := by
  induction us with
  | nil => cases h
  | cons unit us ih =>
    rw [afterEndMark?] at h
    split at h
    · next hmark =>
      obtain ⟨rfl, hslash⟩ := hmark
      obtain ⟨us', rfl⟩ : ∃ us', us = 0x2f :: us' := by
        cases us with
        | nil => cases hslash
        | cons slash us' => exact ⟨us', by rw [Option.some.inj hslash]⟩
      cases h
      rfl
    · next hmark =>
      rw [List.cons_append, afterEndMark?, if_neg, ih h]
      rintro ⟨rfl, hslash⟩
      cases us with
      | nil => cases h
      | cons slash us' => exact hmark ⟨rfl, hslash⟩

/-- Without an end mark and without a slash after it, the first units bring in none. -/
theorem afterEndMark?_append_cons (h : afterEndMark? us = none) (hne : unit ≠ 0x2f) :
    afterEndMark? (us ++ unit :: vs) = afterEndMark? (unit :: vs) := by
  induction us with
  | nil => rfl
  | cons first us ih =>
    rw [afterEndMark?] at h
    split at h
    · cases h
    · next hmark =>
      rw [List.cons_append, afterEndMark?, if_neg, ih h]
      rintro ⟨rfl, hslash⟩
      cases us with
      | nil => exact hne (Option.some.inj hslash)
      | cons slash us' => exact hmark ⟨rfl, hslash⟩

theorem afterEndMark?_append_of_not_mem (hstar : 0x2a ∉ ws) :
    afterEndMark? (ws ++ vs) = afterEndMark? vs := by
  induction ws with
  | nil => rfl
  | cons unit ws ih =>
    obtain ⟨hunit, hws⟩ := not_or.1 (mt List.mem_cons.2 hstar)
    rw [List.cons_append, afterEndMark?_cons_of_ne (Ne.symm hunit), ih hws]

/-- End marks do not reach over units that belong to none. -/
theorem afterEndMark?_append_append (h : afterEndMark? us = none) (hne : ws ≠ [])
    (hstar : 0x2a ∉ ws) (hslash : 0x2f ∉ ws) :
    afterEndMark? (us ++ (ws ++ vs)) = afterEndMark? vs := by
  obtain ⟨unit, ws, rfl⟩ := List.exists_cons_of_ne_nil hne
  refine Eq.trans ?_ (afterEndMark?_append_of_not_mem hstar)
  exact afterEndMark?_append_cons h fun heq => hslash (heq ▸ List.mem_cons_self)

end afterEndMark

/-! ## Characters that stand apart -/

variable {c : CodePoint} {a b t line : Text} {after : Option (List Nat)}

/-- The character belongs to no Unicode escape. -/
structure IsInert (c : CodePoint) : Prop where
  ne_backslash : c ≠ ('\\' : CodePoint)
  ne_marker : c ≠ ('u' : CodePoint)
  hexValue?_eq_none : hexValue? c = none

/-- The character belongs to no Unicode escape and to no end mark. -/
structure IsNeutral (c : CodePoint) : Prop extends IsInert c where
  ne_star : c ≠ ('*' : CodePoint)
  ne_slash : c ≠ ('/' : CodePoint)

/-- What stands before a character that belongs to no escape is translated by itself, and so is what
stands after it. -/
theorem translateFrom_append_cons (hc : IsInert c) (state : EscapeState) (a b : Text) :
    translateFrom state (a ++ c :: b) = (translateFrom state a).bind fun us =>
      (translate b).map fun vs => us ++ (utf16Units c ++ vs) := by
  -- Units that are there already stay in front.
  have hmap : ∀ (ws : List Nat) (x : Option (List Nat)),
      ((x.map (ws ++ ·)).bind fun us => (translate b).map fun vs => us ++ (utf16Units c ++ vs)) =
        (x.bind fun us => (translate b).map fun vs => us ++ (utf16Units c ++ vs)).map (ws ++ ·) := by
    intro ws x
    cases x <;> cases translate b <;> simp
  fun_induction translateFrom state a with
  | case1 odd =>
    rw [List.nil_append, translateFrom, if_pos hc.ne_backslash]
    rfl
  | case2 odd d rest hd ih =>
    rw [List.cons_append, translateFrom, if_pos hd, ih, hmap]
  | case3 odd d rest hd hmarked ih =>
    have hmarked' : odd = false ∧ (rest ++ c :: b).head? = some ('u' : CodePoint) :=
      ⟨hmarked.1, by rw [List.head?_append, hmarked.2]; rfl⟩
    rw [List.cons_append, translateFrom, if_neg hd]
    exact (if_pos hmarked').trans ih
  | case4 odd d rest hd hplain ih =>
    have hplain' : ¬(odd = false ∧ (rest ++ c :: b).head? = some ('u' : CodePoint)) := by
      rintro ⟨hodd, hhead⟩
      cases rest with
      | nil => exact hc.ne_marker (Option.some.inj hhead)
      | cons d' rest => exact hplain ⟨hodd, hhead⟩
    rw [List.cons_append, translateFrom, if_neg hd, hmap, ← ih]
    exact if_neg hplain'
  | case5 =>
    rw [List.nil_append, translateFrom, if_neg hc.ne_marker, hc.hexValue?_eq_none]
    rfl
  | case6 rest ih => rw [List.cons_append, translateFrom, if_pos rfl, ih]
  | case7 d rest hd ih =>
    rw [List.cons_append, translateFrom, if_neg hd]
    cases hexValue? d with
    | none => rfl
    | some digit => exact ih digit
  | case8 count value =>
    rw [List.nil_append, translateFrom, hc.hexValue?_eq_none]
    rfl
  | case9 count value d rest ihOutside ihDigits =>
    rw [List.cons_append, translateFrom]
    cases hexValue? d with
    | none => rfl
    | some digit =>
      simp only [Option.bind_some]
      split
      · rw [ihOutside]
        exact (hmap [value * 16 + digit] _).symm
      · exact ihDigits digit

@[simp] theorem utf16Units_ne_nil (c : CodePoint) : utf16Units c ≠ [] := by
  unfold utf16Units
  split <;> simp

/-- A unit that is no surrogate is a code point of its own. -/
theorem eq_of_val_mem_utf16Units (d : CodePoint) (hd : d.val < 0xd800)
    (h : d.val ∈ utf16Units c) : c = d := by
  unfold utf16Units at h
  split at h
  · exact CodePoint.eq_of_val_eq (List.mem_singleton.1 h).symm
  · simp only [List.mem_cons, List.not_mem_nil, or_false] at h
    omega

/-- An end mark in one of two texts with a neutral character between them lies in the first text or
in the second one. -/
theorem hasAfterEndMark_append_cons (hc : IsNeutral c) (hafter : after = none ∨ after = some []) :
    HasAfterEndMark (a ++ c :: b) after ↔ IsHarmless a ∧ HasAfterEndMark b after := by
  have hne := utf16Units_ne_nil c
  have hstar := mt (eq_of_val_mem_utf16Units '*' (by decide)) hc.ne_star
  have hslash := mt (eq_of_val_mem_utf16Units '/' (by decide)) hc.ne_slash
  have htranslate : translate (a ++ c :: b) = (translate a).bind fun us =>
      (translate b).map fun vs => us ++ (utf16Units c ++ vs) :=
    translateFrom_append_cons hc.toIsInert _ a b
  unfold IsHarmless HasAfterEndMark
  rw [htranslate]
  cases translate a with
  | none => simp
  | some us =>
    cases translate b with
    | none => simp
    | some vs =>
      simp only [Option.bind_some, Option.map_some, Option.some.injEq, exists_eq_left']
      cases hus : afterEndMark? us with
      | none => simp [afterEndMark?_append_append hus hne hstar hslash]
      | some rest =>
        rw [afterEndMark?_append_of_some hus]
        rcases hafter with rfl | rfl
        · simp
        · simp [hne]

theorem isHarmless_append_cons (hc : IsNeutral c) :
    IsHarmless (a ++ c :: b) ↔ IsHarmless a ∧ IsHarmless b :=
  hasAfterEndMark_append_cons hc (.inl rfl)

@[simp] theorem isHarmless_nil : IsHarmless [] := ⟨[], rfl, rfl⟩

/-- An asterisk at the end brings in no end mark. -/
@[simp] theorem isHarmless_concat_star : IsHarmless (a ++ [('*' : CodePoint)]) ↔ IsHarmless a := by
  have htranslate : translate (a ++ [('*' : CodePoint)]) = (translate a).map (· ++ [0x2a]) := by
    rw [translate, translateFrom_append_cons ⟨by decide, by decide, by decide⟩, Option.map_eq_bind]
    rfl
  unfold IsHarmless HasAfterEndMark
  rw [htranslate]
  cases translate a with
  | none => simp
  | some us =>
    simp only [Option.map_some, Option.some.injEq, exists_eq_left']
    cases hus : afterEndMark? us with
    | none => simp [afterEndMark?_append_cons hus, afterEndMark?]
    | some rest => simp [afterEndMark?_append_of_some hus]

/-! ## Blanks -/

theorem val_of_hexValue?_eq_some {d : Nat} (h : hexValue? c = some d) :
    (48 ≤ c.val ∧ c.val ≤ 57) ∨ (97 ≤ c.val ∧ c.val ≤ 102) ∨ (65 ≤ c.val ∧ c.val ≤ 70) := by
  obtain ⟨ch, hch, hdigit⟩ := Option.bind_eq_some_iff.1 h
  have hval : ch.toNat = c.val := by
    by_cases hvalid : c.val.isValidChar
    · rw [CodePoint.toChar?, dif_pos hvalid] at hch
      cases hch
      rfl
    · rw [CodePoint.toChar?, dif_neg hvalid] at hch
      cases hch
  simp only [Text.digitValue?, Char.le_def, UInt32.le_iff_toNat_le] at hdigit
  rw [← hval]
  split at hdigit
  · next h => exact .inl h
  · split at hdigit
    · next h => exact .inr (.inl h)
    · split at hdigit
      · next h => exact .inr (.inr h)
      · cases hdigit

theorem isNeutral_of_isBlank (h : Text.isBlank c = true) : IsNeutral c := by
  have hne : ∀ {d : CodePoint}, Text.isBlank d = false → c ≠ d := by
    rintro d hd rfl
    exact Bool.eq_false_iff.1 hd h
  refine ⟨⟨hne rfl, hne rfl, Option.eq_none_iff_forall_ne_some.2 fun d hd => ?_⟩, hne rfl, hne rfl⟩
  have hdigit := val_of_hexValue?_eq_some hd
  simp only [Text.isBlank, Bool.or_eq_true, Bool.and_eq_true, decide_eq_true_eq, beq_iff_eq] at h
  omega

theorem isBlank_of_isLineBreak (h : Text.isLineBreak c = true) : Text.isBlank c = true := by
  simp only [Text.isLineBreak, Text.isBlank, Bool.or_eq_true, Bool.and_eq_true, decide_eq_true_eq,
    beq_iff_eq] at h ⊢
  omega

/-- What holds of a text exactly if it holds of both sides of a blank in it. -/
structure SplitsAtBlanks (P : Text → Prop) : Prop where
  nil : P []
  append_cons : ∀ {c : CodePoint}, Text.isBlank c = true → ∀ a b, P (a ++ c :: b) ↔ P a ∧ P b

namespace SplitsAtBlanks

variable {P : Text → Prop}

theorem cons (hP : SplitsAtBlanks P) (hc : Text.isBlank c = true) : P (c :: t) ↔ P t := by
  rw [← List.nil_append (c :: t), hP.append_cons hc, and_iff_right hP.nil]

theorem concat (hP : SplitsAtBlanks P) (hc : Text.isBlank c = true) : P (t ++ [c]) ↔ P t := by
  rw [hP.append_cons hc, and_iff_left hP.nil]

theorem trimEnd (hP : SplitsAtBlanks P) : P t.trimEnd ↔ P t := by
  induction t using List.reverseRecOn with
  | nil => rfl
  | append_singleton t c ih =>
    rw [Text.trimEnd, List.reverse_concat, List.dropWhile_cons]
    split
    · next hc => exact ih.trans (hP.concat hc).symm
    · rw [List.reverse_cons, List.reverse_reverse]

theorem trim (hP : SplitsAtBlanks P) : P t.trim ↔ P t := by
  rw [Text.trim, hP.trimEnd]
  induction t with
  | nil => rfl
  | cons c t ih =>
    rw [List.dropWhile_cons]
    split
    · next hc => exact ih.trans (hP.cons hc).symm
    · rfl

/-- It holds of a text exactly if it holds of all of its lines. -/
theorem splitLines (hP : SplitsAtBlanks P) : (∀ l ∈ t.splitLines, P l) ↔ P t := by
  -- The current line and what follows it are the text that is left.
  have hall : ∀ line, (∀ l ∈ Text.splitLinesAux line t, P l) ↔ P (line.reverse ++ t) := by
    intro line
    fun_induction Text.splitLinesAux line t with
    | case1 line hline => simp [List.isEmpty_iff.1 hline, hP.nil]
    | case2 line hline => simp
    | case3 line c =>
      rw [List.forall_mem_singleton]
      split
      · next hc => exact (hP.concat (isBlank_of_isLineBreak hc)).symm
      · rw [List.reverse_cons]
    | case4 line c d rest hbreak ih =>
      obtain ⟨rfl, rfl⟩ := hbreak
      rw [List.forall_mem_cons, ih, hP.append_cons (by decide), hP.cons (by decide)]
      rfl
    | case5 line c d rest _ hc ih =>
      rw [List.forall_mem_cons, ih, hP.append_cons (isBlank_of_isLineBreak hc)]
      rfl
    | case6 line c d rest _ hc ih =>
      rw [ih, List.reverse_cons, List.append_assoc, List.singleton_append]
  exact hall []

end SplitsAtBlanks

theorem splitsAtBlanks_isHarmless : SplitsAtBlanks IsHarmless :=
  ⟨isHarmless_nil, fun hc _ _ => isHarmless_append_cons (isNeutral_of_isBlank hc)⟩

/-! ## Plain end marks -/

/-- The parts of a text between the end marks that it spells without escapes. -/
def betweenEndMarks : Text → List Text
  | c :: d :: rest =>
    if c = '*' ∧ d = '/' then [] :: betweenEndMarks rest
    else
      match betweenEndMarks (d :: rest) with
      | [] => [[c]]
      | part :: parts => (c :: part) :: parts
  | t => [t]

@[simp] theorem betweenEndMarks_ne_nil : betweenEndMarks t ≠ [] := by
  fun_induction betweenEndMarks t <;> simp

theorem intercalate_cons_part (mark : Text) (part : Text) (parts : List Text) :
    mark.intercalate ((c :: part) :: parts) = c :: mark.intercalate (part :: parts) := by
  cases parts with
  | nil => simp
  | cons next parts => simp [List.intercalate_cons_cons]

/-- The guarded text has other marks between the parts. -/
theorem guardCommentEnd_eq_intercalate (t : Text) :
    guardCommentEnd t = ("*&#47;" : Text).intercalate (betweenEndMarks t) := by
  fun_induction betweenEndMarks t with
  | case1 c d rest hmark ih =>
    obtain ⟨next, parts, hparts⟩ := List.exists_cons_of_ne_nil (betweenEndMarks_ne_nil (t := rest))
    rw [guardCommentEnd, if_pos hmark, ih, hparts, List.intercalate_cons_cons]
    rfl
  | case2 c d rest hmark hnil => exact absurd hnil betweenEndMarks_ne_nil
  | case3 c d rest hmark part parts hparts ih =>
    rw [guardCommentEnd, if_neg hmark, intercalate_cons_part, ← hparts, ih]
  | case4 t hshort =>
    rw [guardCommentEnd, List.intercalate_singleton]
    exact hshort

theorem guardCommentEnd_append_cons (hstar : c ≠ ('*' : CodePoint)) (hslash : c ≠ ('/' : CodePoint))
    (a b : Text) : guardCommentEnd (a ++ c :: b) = guardCommentEnd a ++ c :: guardCommentEnd b := by
  have hcons : guardCommentEnd (c :: b) = c :: guardCommentEnd b := by
    cases b with
    | nil => rfl
    | cons d b => rw [guardCommentEnd, if_neg fun hmark => hstar hmark.1]
  fun_induction guardCommentEnd a with
  | case1 d e rest hmark ih =>
    rw [List.cons_append, List.cons_append, guardCommentEnd, if_pos hmark, ih, List.append_assoc]
  | case2 d e rest hmark ih =>
    rw [List.cons_append, List.cons_append, guardCommentEnd, if_neg hmark, ← List.cons_append, ih]
    rfl
  | case3 a hshort =>
    match a, hshort with
    | [], _ => exact hcons
    | [d], _ =>
      rw [List.singleton_append, guardCommentEnd, if_neg fun hmark => hslash hmark.2, hcons]
      rfl
    | d :: e :: rest, hshort => exact (hshort d e rest rfl).elim

/-- No part of the description between its plain end marks has a malformed escape, and none spells an
end mark by escapes. -/
def KeepsComment (t : Text) : Prop := ∀ part ∈ betweenEndMarks t, IsHarmless part

instance (t : Text) : Decidable (KeepsComment t) :=
  inferInstanceAs (Decidable (∀ part ∈ betweenEndMarks t, IsHarmless part))

/-- What the guarded text has in the place of an end mark keeps the texts around it apart. -/
@[simp] theorem isHarmless_append_mark :
    IsHarmless (a ++ (("*&#47;" : Text) ++ b)) ↔ IsHarmless a ∧ IsHarmless b := by
  have hampersand : IsNeutral '&' := ⟨⟨by decide, by decide, by decide⟩, by decide, by decide⟩
  have hsemicolon : IsNeutral ';' := ⟨⟨by decide, by decide, by decide⟩, by decide, by decide⟩
  have hbetween : IsHarmless "#47" := by decide
  have hmark : a ++ (("*&#47;" : Text) ++ b) = (a ++ [('*' : CodePoint)]) ++ ('&' : CodePoint) ::
      (("#47" : Text) ++ (';' : CodePoint) :: b) := by
    simp [Text.ofString, Text.ofChars]
  rw [hmark, isHarmless_append_cons hampersand, isHarmless_append_cons hsemicolon,
    isHarmless_concat_star, and_iff_right hbetween]

@[simp] theorem isHarmless_intercalate {parts : List Text} :
    IsHarmless (("*&#47;" : Text).intercalate parts) ↔ ∀ part ∈ parts, IsHarmless part := by
  induction parts with
  | nil => simp
  | cons part rest ih =>
    cases rest with
    | nil => simp
    | cons next rest =>
      simp [List.intercalate_cons_cons, ih]

@[simp] theorem isHarmless_guardCommentEnd : IsHarmless (guardCommentEnd t) ↔ KeepsComment t := by
  rw [guardCommentEnd_eq_intercalate, isHarmless_intercalate]
  rfl

/-- Where neither a slash nor an escape stands first, no slash comes first. -/
theorem head?_ne_slash_of_translate {us : List Nat} (h : translate t = some us)
    (hhead : ∀ d ∈ t.head?, d ≠ ('/' : CodePoint) ∧ d ≠ ('\\' : CodePoint)) :
    us.head? ≠ some 0x2f := by
  cases t with
  | nil =>
    cases h
    simp
  | cons d t =>
    obtain ⟨hslash, hbackslash⟩ := hhead d rfl
    rw [translate_cons_of_ne hbackslash, Option.map_eq_some_iff] at h
    obtain ⟨vs, -, rfl⟩ := h
    obtain ⟨unit, units, hunits⟩ := List.exists_cons_of_ne_nil (utf16Units_ne_nil d)
    rw [hunits, List.cons_append, List.head?_cons]
    intro heq
    obtain rfl : unit = 0x2f := Option.some.inj heq
    exact hslash (eq_of_val_mem_utf16Units '/' (by decide) (hunits ▸ List.mem_cons_self))

/-- One more character brings in no end mark unless it is an asterisk before a slash or an escape. -/
theorem isHarmless_cons (hc : c ≠ ('\\' : CodePoint))
    (hstar : c = ('*' : CodePoint) → ∀ d ∈ t.head?, d ≠ ('/' : CodePoint) ∧ d ≠ ('\\' : CodePoint))
    (ht : IsHarmless t) : IsHarmless (c :: t) := by
  obtain ⟨us, hus, hnone⟩ := ht
  refine ⟨utf16Units c ++ us, by rw [translate_cons_of_ne hc, hus]; rfl, ?_⟩
  rw [← hnone]
  by_cases hc' : c = '*'
  · subst hc'
    exact if_neg fun hmark => head?_ne_slash_of_translate hus (hstar rfl) hmark.2
  · exact afterEndMark?_append_of_not_mem (mt (eq_of_val_mem_utf16Units '*' (by decide)) hc')

theorem head?_guardCommentEnd_cons (c : CodePoint) (t : Text) :
    (guardCommentEnd (c :: t)).head? = some c := by
  cases t with
  | nil => rfl
  | cons d t =>
    rw [guardCommentEnd]
    split
    · next hmark => rw [hmark.1]; rfl
    · rfl

/-- A description without backslashes keeps its comment, whatever asterisks, slashes and line breaks
stand in it. -/
theorem keepsComment_of_not_mem (h : ('\\' : CodePoint) ∉ t) : KeepsComment t := by
  rw [← isHarmless_guardCommentEnd]
  fun_induction guardCommentEnd t with
  | case1 c d rest hmark ih =>
    have hrest : IsHarmless (guardCommentEnd rest) :=
      ih fun hmem => h (List.mem_cons_of_mem _ (List.mem_cons_of_mem _ hmem))
    exact isHarmless_append_mark.2 ⟨isHarmless_nil, hrest⟩
  | case2 c d rest hmark ih =>
    obtain ⟨hc, hrest⟩ := not_or.1 (mt List.mem_cons.2 h)
    refine isHarmless_cons (Ne.symm hc) (fun hstar e he => ?_) (ih hrest)
    obtain rfl : d = e := Option.some.inj ((head?_guardCommentEnd_cons d rest).symm.trans he)
    exact ⟨fun hslash => hmark ⟨hstar, hslash⟩, fun heq => hrest (heq ▸ List.mem_cons_self)⟩
  | case3 t hshort =>
    match t, hshort with
    | [], _ => exact isHarmless_nil
    | [c], _ =>
      have hc : c ≠ ('\\' : CodePoint) := fun heq => h (heq ▸ List.mem_cons_self)
      exact isHarmless_cons hc (fun _ d hd => nomatch hd) isHarmless_nil
    | c :: d :: rest, hshort => exact (hshort c d rest rfl).elim

theorem splitsAtBlanks_keepsComment : SplitsAtBlanks KeepsComment := by
  refine ⟨by decide, fun {c} hc a b => ?_⟩
  have hneutral := isNeutral_of_isBlank hc
  rw [← isHarmless_guardCommentEnd, ← isHarmless_guardCommentEnd, ← isHarmless_guardCommentEnd,
    guardCommentEnd_append_cons hneutral.ne_star hneutral.ne_slash,
    isHarmless_append_cons hneutral]

/-! ## Comments for descriptions -/

@[simp] theorem isHarmless_javadocLine : IsHarmless (javadocLine line) ↔ IsHarmless line := by
  have hstart : (" * " : Text) ++ line = (" *" : Text) ++ (' ' : CodePoint) :: line := by
    simp [Text.ofString, Text.ofChars]
  have hharmless : IsHarmless " *" := by decide
  rw [javadocLine, splitsAtBlanks_isHarmless.trimEnd, hstart,
    splitsAtBlanks_isHarmless.append_cons (by decide), and_iff_right hharmless]

@[simp] theorem isHarmless_indentLine : IsHarmless (indentLine line) ↔ IsHarmless line := by
  unfold indentLine
  split
  · next hempty => rw [hempty]
  · have hindent : indent ++ line = ("   " : Text) ++ (' ' : CodePoint) :: line := by
      simp [indent, Text.ofString, Text.ofChars]
    have hharmless : IsHarmless "   " := by decide
    rw [hindent, splitsAtBlanks_isHarmless.append_cons (by decide), and_iff_right hharmless]

/-- The lines for a description bring in no end mark exactly if it keeps its comment. -/
theorem isHarmless_lines :
    (∀ l ∈ (guardCommentEnd t.trim).splitLines.map javadocLine, IsHarmless l) ↔ KeepsComment t := by
  rw [List.forall_mem_map]
  simp only [isHarmless_javadocLine]
  rw [splitsAtBlanks_isHarmless.splitLines, isHarmless_guardCommentEnd,
    splitsAtBlanks_keepsComment.trim]

theorem intercalate_lineFeed_cons {ls : List Text} (h : ls ≠ []) :
    ("\n" : Text).intercalate (line :: ls) =
      line ++ ('\n' : CodePoint) :: ("\n" : Text).intercalate ls := by
  obtain ⟨next, ls, rfl⟩ := List.exists_cons_of_ne_nil h
  rw [List.intercalate_cons_cons, List.append_assoc]
  rfl

/-- What follows the first line of a comment ends it exactly if the last line does and no line before
that has an end mark. -/
theorem hasAfterEndMark_intercalate {ls : List Text} {last : Text}
    (hlast : HasAfterEndMark last (some [])) :
    HasAfterEndMark (("\n" : Text).intercalate (ls ++ [last])) (some []) ↔
      ∀ l ∈ ls, IsHarmless l := by
  induction ls with
  | nil => simpa using hlast
  | cons l ls ih =>
    rw [List.cons_append, intercalate_lineFeed_cons (by simp),
      hasAfterEndMark_append_cons (isNeutral_of_isBlank (by decide)) (.inr rfl), ih,
      List.forall_mem_cons]

/-- Lines are a comment exactly if the ones between the first and the last have no end mark. -/
theorem isComment_intercalate {first last : Text} {ls : List Text} {units : List Nat}
    (hfirst : translate first = some units)
    (hstart : units.dropWhile isWhiteSpace = [0x2f, 0x2a, 0x2a])
    (hlast : HasAfterEndMark last (some [])) :
    IsComment (("\n" : Text).intercalate (first :: ls ++ [last])) ↔ ∀ l ∈ ls, IsHarmless l := by
  have hinert : IsInert '\n' := (isNeutral_of_isBlank (by decide)).toIsInert
  rw [← hasAfterEndMark_intercalate hlast, List.cons_append, intercalate_lineFeed_cons (by simp)]
  unfold IsComment HasAfterEndMark
  rw [translate, translateFrom_append_cons hinert, ← translate, hfirst]
  cases translate (("\n" : Text).intercalate (ls ++ [last])) with
  | none => simp
  | some vs =>
    have hread : readComment? ((units ++ 0x0a :: vs).dropWhile isWhiteSpace) = afterEndMark? vs := by
      rw [List.dropWhile_append, hstart]
      rfl
    simp only [Option.bind_some, Option.map_some, Option.some.injEq, exists_eq_left']
    rw [← hread]
    rfl

/-- The lines of the comment for a description, as they stand or indented as those of a member are, are
one comment that ends where the last of them does exactly if the description keeps its comment. -/
theorem isComment_javadoc_iff (ht : t ≠ []) :
    (IsComment (("\n" : Text).intercalate (javadoc (some t))) ↔ KeepsComment t) ∧
      (IsComment (("\n" : Text).intercalate (indentLines (javadoc (some t)))) ↔ KeepsComment t) := by
  have hjavadoc : javadoc (some t) =
      commentStart :: (guardCommentEnd t.trim).splitLines.map javadocLine ++ [commentEnd] :=
    if_neg ht
  constructor
  · have hstart : translate commentStart = some [0x2f, 0x2a, 0x2a] := by decide
    rw [hjavadoc, isComment_intercalate hstart (by decide) (by decide)]
    exact isHarmless_lines
  · have hstart : translate (indentLine commentStart) =
        some [0x20, 0x20, 0x20, 0x20, 0x2f, 0x2a, 0x2a] := by decide
    rw [hjavadoc, indentLines, List.map_append, List.map_cons, List.map_singleton,
      isComment_intercalate hstart (by decide) (by decide), List.forall_mem_map]
    simp only [isHarmless_indentLine]
    exact isHarmless_lines

/-- Plain end marks, a backslash that is escaped itself, and escapes that spell other characters. -/
theorem isComment_javadoc_iff_escaped :
    let t : Text := "see \\\\u002a/ **/ and \\u0041*/\n\n/* too"
    t ≠ [] ∧ KeepsComment t ∧ IsComment (("\n" : Text).intercalate (javadoc (some t))) ∧
      IsComment (("\n" : Text).intercalate (indentLines (javadoc (some t)))) := by
  intro t
  have ht : t ≠ [] := by decide
  have hkeeps : KeepsComment t := by decide
  obtain ⟨hplain, hindented⟩ := isComment_javadoc_iff ht
  exact ⟨ht, hkeeps, hplain.2 hkeeps, hindented.2 hkeeps⟩

/-- An escape may spell the asterisk of an end mark, and then the rest of the line is outside. -/
theorem not_forall_isComment_javadoc :
    ¬∀ t : Text, t ≠ [] → IsComment (("\n" : Text).intercalate (javadoc (some t))) := by
  intro hall
  exact absurd (hall "done \\u002a/ int x;" (by decide)) (by decide)

/-- A path may look like an escape. -/
example : ¬KeepsComment "C:\\users" := by decide

end KubeJava.Java
