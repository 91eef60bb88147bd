import KubeJava.Java.Name
import KubeJava.Text.Case

set_option autoImplicit false

/-! # Derived names

What the derivation of names gives for every text. A type name can be derived exactly if the first
letter or digit of the key is a letter; it is then an upper-case letter followed by letters and
digits, which no keyword is, so that no later check of the bare name, of its package segment or of
the name with well-formed affixes can fail. Field names and enum constants have conditions of the
same kind. -/

namespace KubeJava.Java

/-! ## Characters by number -/

theorem eq_ofChar_iff {c : CodePoint} {d : Char} : c = (d : CodePoint) ↔ c.val = d.toNat := by
  cases c
  simp [CodePoint.ofChar]

theorem isAsciiLetter_iff {c : CodePoint} :
    isAsciiLetter c = true ↔ (97 ≤ c.val ∧ c.val ≤ 122) ∨ (65 ≤ c.val ∧ c.val ≤ 90) := by
  simp only [isAsciiLetter, Bool.or_eq_true, Bool.and_eq_true, decide_eq_true_eq]
  exact Iff.rfl

theorem isAsciiDigit_iff {c : CodePoint} :
    isAsciiDigit c = true ↔ 48 ≤ c.val ∧ c.val ≤ 57 := by
  simp only [isAsciiDigit, Bool.and_eq_true, decide_eq_true_eq]
  exact Iff.rfl

theorem isWordChar_iff {c : CodePoint} : isWordChar c = true ↔
    (97 ≤ c.val ∧ c.val ≤ 122) ∨ (65 ≤ c.val ∧ c.val ≤ 90) ∨ (48 ≤ c.val ∧ c.val ≤ 57) := by
  rw [isWordChar, Bool.or_eq_true, isAsciiLetter_iff, isAsciiDigit_iff, or_assoc]

theorem isConstantChar_iff {c : CodePoint} :
    isConstantChar c = true ↔ isWordChar c = true ∨ c.val = 95 ∨ c.val = 36 := by
  simp only [isConstantChar, Bool.or_eq_true, beq_iff_eq, eq_ofChar_iff, or_assoc]
  exact Iff.rfl

theorem isIdentifierStart_iff {c : CodePoint} :
    isIdentifierStart c = true ↔ isAsciiLetter c = true ∨ c.val = 95 ∨ c.val = 36 := by
  simp only [isIdentifierStart, Bool.or_eq_true, beq_iff_eq, eq_ofChar_iff, or_assoc]
  exact Iff.rfl

@[simp] theorem isIdentifierPart_iff {c : CodePoint} :
    isIdentifierPart c = true ↔ isConstantChar c = true := by
  rw [isIdentifierPart, Bool.or_eq_true, isIdentifierStart_iff, isConstantChar_iff, isWordChar,
    Bool.or_eq_true]
  exact or_right_comm

/-- An upper-case letter of ASCII. -/
def isAsciiCapital (c : CodePoint) : Bool := 'A' ≤ c && c ≤ 'Z'

theorem isAsciiCapital_iff {c : CodePoint} :
    isAsciiCapital c = true ↔ 65 ≤ c.val ∧ c.val ≤ 90 := by
  simp only [isAsciiCapital, Bool.and_eq_true, decide_eq_true_eq]
  exact Iff.rfl

theorem val_asciiUpper (c : CodePoint) :
    (Text.asciiUpper c).val = if 97 ≤ c.val ∧ c.val ≤ 122 then c.val - 32 else c.val := by
  unfold Text.asciiUpper
  split
  · next h => exact (if_pos (show 97 ≤ c.val ∧ c.val ≤ 122 from h)).symm
  · next h => exact (if_neg (show ¬(97 ≤ c.val ∧ c.val ≤ 122) from h)).symm

theorem val_asciiLower (c : CodePoint) :
    (Text.asciiLower c).val = if 65 ≤ c.val ∧ c.val ≤ 90 then c.val + 32 else c.val := by
  unfold Text.asciiLower
  split
  · next h => exact (if_pos (show 65 ≤ c.val ∧ c.val ≤ 90 from h)).symm
  · next h => exact (if_neg (show ¬(65 ≤ c.val ∧ c.val ≤ 90) from h)).symm

theorem isWordChar_asciiUpper {c : CodePoint} (h : isWordChar c = true) :
    isWordChar (Text.asciiUpper c) = true := by
  rw [isWordChar_iff] at h ⊢
  rw [val_asciiUpper]
  split <;> omega

@[simp] theorem isAsciiCapital_asciiUpper {c : CodePoint} :
    isAsciiCapital (Text.asciiUpper c) = true ↔ isAsciiLetter c = true := by
  rw [isAsciiCapital_iff, isAsciiLetter_iff, val_asciiUpper]
  split <;> omega

@[simp] theorem asciiUpper_of_isAsciiCapital {c : CodePoint} (h : isAsciiCapital c = true) :
    Text.asciiUpper c = c := by
  rw [isAsciiCapital_iff] at h
  refine if_neg fun hc => ?_
  have : 97 ≤ c.val := hc.1
  omega

theorem isWordChar_of_isAsciiCapital {c : CodePoint} (h : isAsciiCapital c = true) :
    isWordChar c = true := by
  rw [isAsciiCapital_iff] at h
  rw [isWordChar_iff]
  omega

theorem isConstantChar_of_isWordChar {c : CodePoint} (h : isWordChar c = true) :
    isConstantChar c = true :=
  isConstantChar_iff.2 (.inl h)

/-! ## Words -/

theorem wordsAux_spec {word t : Text} (hw : ∀ c ∈ word, isWordChar c = true) :
    ∀ w ∈ wordsAux word t, w ≠ [] ∧ ∀ c ∈ w, isWordChar c = true := by
  -- A word is given out where its run ends, and only if the run is not empty.
  fun_induction wordsAux word t with
  | case1 word he => simp
  | case2 word he =>
    intro w hmem
    obtain rfl := List.mem_singleton.1 hmem
    exact ⟨by simpa using he, fun c hc => hw c (List.mem_reverse.1 hc)⟩
  | case3 word c rest hc ih => exact ih (List.forall_mem_cons.2 ⟨hc, hw⟩)
  | case4 word c rest hc he ih => exact ih (by simp)
  | case5 word c rest hc he ih =>
    intro w hmem
    rcases List.mem_cons.1 hmem with rfl | hmem
    · exact ⟨by simpa using he, fun c hc => hw c (List.mem_reverse.1 hc)⟩
    · exact ih (by simp) w hmem

theorem words_spec (t : Text) : ∀ w ∈ words t, w ≠ [] ∧ ∀ c ∈ w, isWordChar c = true :=
  wordsAux_spec (by simp)

/-- The words put together begin with the first letter or digit, in upper case. -/
theorem head?_flatMap_wordsAux {word t : Text} (hw : ∀ c ∈ word, isWordChar c = true) :
    ((wordsAux word t).flatMap capitalizeWord).head? =
      ((word.reverse ++ t).find? isWordChar).map Text.asciiUpper := by
  fun_induction wordsAux word t with
  | case1 word he => simp [List.isEmpty_iff.1 he]
  | case2 word he =>
    obtain ⟨c, cs, hr⟩ :=
      List.exists_cons_of_ne_nil (mt List.reverse_eq_nil_iff.1 (by simpa using he))
    have hc : isWordChar c = true := hw c (List.mem_reverse.1 (by simp [hr]))
    simp [hr, capitalizeWord, hc]
  | case3 word c rest hc ih => simpa using ih (List.forall_mem_cons.2 ⟨hc, hw⟩)
  | case4 word c rest hc he ih =>
    rw [ih (by simp), List.isEmpty_iff.1 he]
    simp [hc]
  | case5 word c rest hc he ih =>
    obtain ⟨d, ds, hr⟩ :=
      List.exists_cons_of_ne_nil (mt List.reverse_eq_nil_iff.1 (by simpa using he))
    have hd : isWordChar d = true := hw d (List.mem_reverse.1 (by simp [hr]))
    simp [hr, capitalizeWord, hd]

theorem head?_pascalCase (raw : Text) :
    (pascalCase raw).head? = (raw.find? isWordChar).map Text.asciiUpper :=
  head?_flatMap_wordsAux (List.forall_mem_nil _)

/-- A text of letters and digits is one word. -/
theorem wordsAux_of_forall {word t : Text} (ht : ∀ c ∈ t, isWordChar c = true)
    (hne : word ≠ [] ∨ t ≠ []) : wordsAux word t = [word.reverse ++ t] := by
  induction t generalizing word with
  | nil => simp_all [wordsAux]
  | cons c rest ih =>
    obtain ⟨hc, hrest⟩ := List.forall_mem_cons.1 ht
    rw [wordsAux, if_pos hc, ih hrest (.inl (by simp))]
    simp

@[simp] theorem words_eq_nil_iff (t : Text) : words t = [] ↔ ∀ c ∈ t, isWordChar c = false := by
  have hhead := head?_pascalCase t
  have hspec := words_spec t
  constructor
  · intro h
    rw [pascalCase, h] at hhead
    simpa using hhead.symm
  · intro h
    cases hw : words t with
    | nil => rfl
    | cons w ws =>
      obtain ⟨hne, -⟩ := hspec w (by simp [hw])
      obtain ⟨c, cs, rfl⟩ := List.exists_cons_of_ne_nil hne
      rw [List.find?_eq_none.2 (by simpa using h)] at hhead
      simp [pascalCase, hw, capitalizeWord] at hhead

theorem isWordChar_of_mem_capitalizeWord {w : Text} (hw : ∀ c ∈ w, isWordChar c = true) :
    ∀ c ∈ capitalizeWord w, isWordChar c = true := by
  cases w with
  | nil => simp [capitalizeWord]
  | cons c rest =>
    obtain ⟨hc, hrest⟩ := List.forall_mem_cons.1 hw
    exact List.forall_mem_cons.2 ⟨isWordChar_asciiUpper hc, hrest⟩

theorem isWordChar_of_mem_flatMap_capitalizeWord {ws : List Text}
    (hws : ∀ w ∈ ws, w ≠ [] ∧ ∀ c ∈ w, isWordChar c = true) :
    ∀ c ∈ ws.flatMap capitalizeWord, isWordChar c = true := by
  intro c hc
  obtain ⟨w, hw, hcw⟩ := List.mem_flatMap.1 hc
  exact isWordChar_of_mem_capitalizeWord (hws w hw).2 c hcw

/-! ## Identifiers -/

@[simp] theorem ensureIdentifier_eq_ok {name source n : Text} :
    ensureIdentifier name source = .ok n ↔ isIdentifier name = true ∧ n = name := by
  unfold ensureIdentifier
  split
  · next h => simp [h, eq_comm]
  · next h => simp [h]

theorem hasIdentifierForm_iff {t : Text} : hasIdentifierForm t = true ↔
    (∃ c ∈ t.head?, isIdentifierStart c = true) ∧ ∀ c ∈ t, isConstantChar c = true := by
  cases t with
  | nil => simp [hasIdentifierForm]
  | cons c rest =>
    have hstart : isIdentifierStart c = true → isConstantChar c = true := fun h => by
      rw [← isIdentifierPart_iff, isIdentifierPart, h, Bool.true_or]
    simp only [hasIdentifierForm, Bool.and_eq_true, List.all_eq_true, isIdentifierPart_iff,
      List.head?_cons, Option.mem_some_iff, exists_eq_left', List.forall_mem_cons]
    exact ⟨fun h => ⟨h.1, hstart h.1, h.2⟩, fun h => ⟨h.1, h.2.2⟩⟩

theorem lineFeed_not_mem_of_constantChars {t : Text} (h : ∀ c ∈ t, isConstantChar c = true) :
    ('\n' : CodePoint) ∉ t := fun hm => absurd (h _ hm) (by decide)

theorem dropFinalLineFeed_eq_self {t : Text} (h : ('\n' : CodePoint) ∉ t) :
    t.dropFinalLineFeed = t :=
  if_neg fun hl => h (List.mem_of_getLast? hl)

/-- A text with the form of an identifier is one unless it is a keyword. -/
theorem isIdentifier_of_form {t : Text} (h : hasIdentifierForm t = true)
    (hk : isKeyword t = false) : isIdentifier t = true := by
  rw [isIdentifier, hk,
    dropFinalLineFeed_eq_self (lineFeed_not_mem_of_constantChars (hasIdentifierForm_iff.1 h).2), h]
  rfl

/-- A line feed at the end is the only other character that an identifier can have. -/
theorem isConstantChar_of_mem_identifier {t : Text} (h : isIdentifier t = true) {c : CodePoint}
    (hc : c ∈ t) : isConstantChar c = true ∨ c = ('\n' : CodePoint) := by
  rw [isIdentifier, Bool.and_eq_true, hasIdentifierForm_iff] at h
  obtain ⟨⟨-, hall⟩, -⟩ := h
  unfold Text.dropFinalLineFeed at hall
  split at hall
  · next hlast =>
    obtain ⟨front, rfl⟩ := List.getLast?_eq_some_iff.1 hlast
    rw [List.dropLast_concat] at hall
    rcases List.mem_append.1 hc with hc | hc
    · exact .inl (hall c hc)
    · exact .inr (List.mem_singleton.1 hc)
  · exact .inl (hall c hc)

theorem not_mem_of_hasIdentifierForm {t : Text} {c : CodePoint} (h : hasIdentifierForm t = true)
    (hc : isConstantChar c = false) : c ∉ t := by
  intro hmem
  rw [(hasIdentifierForm_iff.1 h).2 c hmem] at hc
  cases hc

theorem not_mem_of_isIdentifier {t : Text} {c : CodePoint} (h : isIdentifier t = true)
    (hc : isConstantChar c = false) (hfeed : c ≠ '\n') : c ∉ t := by
  intro hmem
  rcases isConstantChar_of_mem_identifier h hmem with hconst | heq
  · rw [hconst] at hc
    cases hc
  · exact hfeed heq

theorem ne_nil_of_hasIdentifierForm {t : Text} (h : hasIdentifierForm t = true) : t ≠ [] := by
  rintro rfl
  cases h

theorem ne_nil_of_isIdentifier {t : Text} (h : isIdentifier t = true) : t ≠ [] := by
  rintro rfl
  cases h

/-- Without a line feed the whole of an identifier has the form of one. -/
theorem hasIdentifierForm_of_isIdentifier {t : Text} (h : isIdentifier t = true)
    (hfeed : ('\n' : CodePoint) ∉ t) : hasIdentifierForm t = true := by
  rw [isIdentifier, dropFinalLineFeed_eq_self hfeed, Bool.and_eq_true] at h
  exact h.1

/-- A line feed in an identifier is its last character. -/
theorem lineFeed_not_mem_of_isIdentifier_append {t u : Text} (h : isIdentifier (t ++ u) = true)
    (hu : u ≠ []) : ('\n' : CodePoint) ∉ t := by
  rw [isIdentifier, Bool.and_eq_true, hasIdentifierForm_iff] at h
  obtain ⟨⟨-, hall⟩, -⟩ := h
  unfold Text.dropFinalLineFeed at hall
  split at hall
  · rw [List.dropLast_append_of_ne_nil hu] at hall
    exact lineFeed_not_mem_of_constantChars fun c hc => hall c (List.mem_append_left _ hc)
  · exact lineFeed_not_mem_of_constantChars fun c hc => hall c (List.mem_append_left _ hc)

/-- The names that Java itself takes as identifiers: a letter, `_` or `$`, then those and digits up to
the last character, and no keyword. -/
structure IsProperIdentifier (t : Text) : Prop where
  form : hasIdentifierForm t = true
  notKeyword : isKeyword t = false

/-- What passes as an identifier is one unless it has a line feed. -/
theorem isProperIdentifier_iff {t : Text} (h : isIdentifier t = true) :
    IsProperIdentifier t ↔ ('\n' : CodePoint) ∉ t := by
  constructor
  · intro hproper
    exact not_mem_of_hasIdentifierForm hproper.form (by decide)
  · intro hfeed
    refine ⟨hasIdentifierForm_of_isIdentifier h hfeed, ?_⟩
    rw [isIdentifier, Bool.and_eq_true, Bool.not_eq_true'] at h
    exact h.2

/-- A well-formed text has the form of an identifier with any legal characters after it. -/
theorem hasIdentifierForm_append {t u : Text} (ht : hasIdentifierForm t = true)
    (hu : ∀ c ∈ u, isConstantChar c = true) : hasIdentifierForm (t ++ u) = true := by
  obtain ⟨⟨c, hc, hstart⟩, hall⟩ := hasIdentifierForm_iff.1 ht
  refine hasIdentifierForm_iff.2 ⟨⟨c, ?_, hstart⟩, fun d hd => ?_⟩
  · rw [List.head?_append, Option.mem_def.1 hc]
    rfl
  · exact (List.mem_append.1 hd).elim (hall d) (hu d)

/-! ## Keywords -/

theorem isAsciiCapital_eq_false_of_keyword :
    ∀ k ∈ keywords, ∀ c ∈ k, isAsciiCapital c = false := by
  decide +kernel

theorem eq_underscore_of_keyword : ∀ k ∈ keywords, k ≠ [] ∧ (('_' : CodePoint) ∈ k → k = "_") := by
  decide +kernel

/-- An underscore after a keyword leaves none, for no keyword but the lone underscore has one. -/
@[simp] theorem isKeyword_append_underscore {k : Text} (h : k ∈ keywords) :
    isKeyword (k ++ "_") = false := by
  refine Bool.eq_false_iff.2 fun hk => ?_
  have hmem : k ++ ("_" : Text) ∈ keywords := by simpa [isKeyword] using hk
  have heq := (eq_underscore_of_keyword _ hmem).2 (List.mem_append_right k (by decide))
  exact (eq_underscore_of_keyword k h).1 (List.append_left_eq_self.1 heq)

/-- No keyword has a capital letter. -/
theorem isKeyword_eq_false_of_capital {t : Text} {c : CodePoint} (hc : c ∈ t)
    (h : isAsciiCapital c = true) : isKeyword t = false := by
  refine Bool.eq_false_iff.2 fun hk => ?_
  have hmem : t ∈ keywords := by simpa [isKeyword] using hk
  rw [isAsciiCapital_eq_false_of_keyword t hmem c hc] at h
  exact absurd h (by decide)

/-- A well-formed text is an identifier once keywords are told apart. -/
@[simp] theorem isIdentifier_escapeKeyword {t : Text} (h : hasIdentifierForm t = true) :
    isIdentifier (escapeKeyword t) = true := by
  unfold escapeKeyword
  split
  · next hk =>
    have hmem : t ∈ keywords := by simpa [isKeyword] using hk
    exact isIdentifier_of_form (hasIdentifierForm_append h (by decide))
      (isKeyword_append_underscore hmem)
  · next hk => exact isIdentifier_of_form h (by simpa using hk)

/-- Keywords stay apart from all texts without underscore. -/
theorem escapeKeyword_injOn {s t : Text} (hs : ('_' : CodePoint) ∉ s) (ht : ('_' : CodePoint) ∉ t)
    (h : escapeKeyword s = escapeKeyword t) : s = t := by
  have underscore : ∀ u : Text, ('_' : CodePoint) ∈ u ++ ("_" : Text) := fun u =>
    List.mem_append_right u (by decide)
  unfold escapeKeyword at h
  split at h <;> split at h
  · exact List.append_cancel_right h
  · exact absurd (h ▸ underscore s) ht
  · exact absurd (h ▸ underscore t) hs
  · exact h

/-! ## Type names -/

/-- Whether the first letter or digit of a text is a letter. -/
def leadsWithLetter (t : Text) : Bool := (t.find? isWordChar).any isAsciiLetter

/-- The texts that are bare names of types: a capital letter, then letters and digits. -/
def isBareName : Text → Bool
  | [] => false
  | c :: rest => isAsciiCapital c && rest.all isWordChar

theorem isBareName_iff {t : Text} : isBareName t = true ↔
    (∃ c ∈ t.head?, isAsciiCapital c = true) ∧ ∀ c ∈ t, isWordChar c = true := by
  cases t with
  | nil => simp [isBareName]
  | cons c rest =>
    simp only [isBareName, Bool.and_eq_true, List.all_eq_true, List.head?_cons,
      Option.mem_some_iff, exists_eq_left', List.forall_mem_cons]
    exact ⟨fun h => ⟨h.1, isWordChar_of_isAsciiCapital h.1, h.2⟩, fun h => ⟨h.1, h.2.2⟩⟩

theorem isBareName_append {t u : Text} (ht : isBareName t = true)
    (hu : ∀ c ∈ u, isWordChar c = true) : isBareName (t ++ u) = true := by
  obtain ⟨⟨c, hc, hcap⟩, hall⟩ := isBareName_iff.1 ht
  refine isBareName_iff.2 ⟨⟨c, ?_, hcap⟩, fun d hd => ?_⟩
  · rw [List.head?_append, Option.mem_def.1 hc]
    rfl
  · exact (List.mem_append.1 hd).elim (hall d) (hu d)

theorem exists_capital_of_isBareName {t : Text} (h : isBareName t = true) :
    ∃ c ∈ t, isAsciiCapital c = true := by
  obtain ⟨⟨c, hc, hcap⟩, -⟩ := isBareName_iff.1 h
  exact ⟨c, List.mem_of_mem_head? hc, hcap⟩

theorem hasIdentifierForm_of_isBareName {t : Text} (h : isBareName t = true) :
    hasIdentifierForm t = true := by
  obtain ⟨⟨c, hc, hcap⟩, hall⟩ := isBareName_iff.1 h
  refine hasIdentifierForm_iff.2
    ⟨⟨c, hc, ?_⟩, fun d hd => isConstantChar_of_isWordChar (hall d hd)⟩
  rw [isIdentifierStart_iff, isAsciiLetter_iff]
  rw [isAsciiCapital_iff] at hcap
  omega

theorem isIdentifier_of_isBareName {t : Text} (h : isBareName t = true) :
    isIdentifier t = true := by
  obtain ⟨c, hc, hcap⟩ := exists_capital_of_isBareName h
  exact isIdentifier_of_form (hasIdentifierForm_of_isBareName h)
    (isKeyword_eq_false_of_capital hc hcap)

theorem isWordChar_of_mem_pascalCase {raw : Text} :
    ∀ c ∈ pascalCase raw, isWordChar c = true :=
  isWordChar_of_mem_flatMap_capitalizeWord (words_spec raw)

@[simp] theorem isBareName_pascalCase_iff {raw : Text} :
    isBareName (pascalCase raw) = true ↔ leadsWithLetter raw = true := by
  rw [isBareName_iff, head?_pascalCase, leadsWithLetter]
  cases raw.find? isWordChar with
  | none => simp
  | some c =>
    simp only [Option.map_some, Option.mem_some_iff, exists_eq_left', isAsciiCapital_asciiUpper,
      Option.any_some, and_iff_left_iff_imp]
    exact fun _ => isWordChar_of_mem_pascalCase

/-- An identifier made of letters and digits starts with a letter. -/
theorem leadsWithLetter_of_isIdentifier_pascalCase {raw : Text}
    (h : isIdentifier (pascalCase raw) = true) : leadsWithLetter raw = true := by
  have hall : ∀ c ∈ pascalCase raw, isWordChar c = true := isWordChar_of_mem_pascalCase
  have hform : hasIdentifierForm (pascalCase raw) = true :=
    hasIdentifierForm_of_isIdentifier h (lineFeed_not_mem_of_constantChars fun c hc =>
      isConstantChar_of_isWordChar (hall c hc))
  obtain ⟨⟨c, hc, hstart⟩, -⟩ := hasIdentifierForm_iff.1 hform
  rw [head?_pascalCase, Option.mem_def, Option.map_eq_some_iff] at hc
  obtain ⟨d, hd, rfl⟩ := hc
  have hword : isWordChar d = true := List.find?_some hd
  rw [leadsWithLetter, hd, Option.any_some, isAsciiLetter_iff]
  rw [isWordChar_iff] at hword
  rw [isIdentifierStart_iff, isAsciiLetter_iff, val_asciiUpper] at hstart
  split at hstart <;> omega

/-- A type name can be derived exactly if the first letter or digit is a letter. -/
@[simp] theorem typeName_eq_ok {raw name : Text} :
    typeName raw = .ok name ↔ leadsWithLetter raw = true ∧ name = pascalCase raw := by
  rw [typeName, ensureIdentifier_eq_ok]
  refine and_congr_left fun _ => ⟨leadsWithLetter_of_isIdentifier_pascalCase, fun h => ?_⟩
  exact isIdentifier_of_isBareName (isBareName_pascalCase_iff.2 h)

theorem isBareName_of_typeName {raw name : Text} (h : typeName raw = .ok name) :
    isBareName name = true := by
  obtain ⟨hlead, rfl⟩ := typeName_eq_ok.1 h
  exact isBareName_pascalCase_iff.2 hlead

/-- A bare name is its own type name. -/
@[simp] theorem typeName_of_isBareName {t : Text} (h : isBareName t = true) : typeName t = .ok t := by
  cases t with
  | nil => cases h
  | cons c rest =>
    obtain ⟨-, hall⟩ := isBareName_iff.1 h
    have hcap : isAsciiCapital c = true := by simp_all [isBareName]
    have hpascal : pascalCase (c :: rest) = c :: rest := by
      rw [pascalCase, words, wordsAux_of_forall hall (.inr (by simp))]
      simp [capitalizeWord, asciiUpper_of_isAsciiCapital hcap]
    rw [typeName, hpascal]
    exact if_pos (isIdentifier_of_isBareName h)

theorem leadsWithLetter_of_isBareName {t : Text} (h : isBareName t = true) :
    leadsWithLetter t = true :=
  (typeName_eq_ok.1 (typeName_of_isBareName h)).1

/-! ## Packages -/

theorem lower_of_isBareName {t : Text} (h : isBareName t = true) :
    t.lower = t.map Text.asciiLower :=
  Text.lowerAfter_of_ascii [] fun c hc => by
    have := isWordChar_iff.1 ((isBareName_iff.1 h).2 c hc)
    omega

theorem isWordChar_asciiLower {c : CodePoint} (h : isWordChar c = true) :
    isWordChar (Text.asciiLower c) = true := by
  rw [isWordChar_iff] at h ⊢
  rw [val_asciiLower]
  split <;> omega

theorem isWordChar_of_mem_lower {t : Text} (h : isBareName t = true) :
    ∀ c ∈ t.lower, isWordChar c = true := by
  rw [lower_of_isBareName h]
  intro c hc
  obtain ⟨d, hd, rfl⟩ := List.mem_map.1 hc
  exact isWordChar_asciiLower ((isBareName_iff.1 h).2 d hd)

theorem hasIdentifierForm_lower {t : Text} (h : isBareName t = true) :
    hasIdentifierForm t.lower = true := by
  refine hasIdentifierForm_iff.2
    ⟨?_, fun c hc => isConstantChar_of_isWordChar (isWordChar_of_mem_lower h c hc)⟩
  obtain ⟨⟨c, hc, hcap⟩, -⟩ := isBareName_iff.1 h
  refine ⟨Text.asciiLower c, ?_, ?_⟩
  · rw [lower_of_isBareName h, List.head?_map, Option.mem_def.1 hc]
    rfl
  · rw [isAsciiCapital_iff] at hcap
    rw [isIdentifierStart_iff, isAsciiLetter_iff, val_asciiLower]
    split <;> omega

/-- Every bare name has a package segment. -/
@[simp] theorem packageSegment_of_isBareName {t : Text} (h : isBareName t = true) :
    packageSegment t = .ok (escapeKeyword t.lower) :=
  ensureIdentifier_eq_ok.2 ⟨isIdentifier_escapeKeyword (hasIdentifierForm_lower h), rfl⟩

/-! ## Affixes -/

/-- The affixes are legal wherever a name goes on: each is empty or looks like an identifier. -/
def Affixes.WellFormed (a : Affixes) : Prop :=
  (a.before = [] ∨ hasIdentifierForm a.before = true) ∧
    (a.after = [] ∨ hasIdentifierForm a.after = true)

theorem Affixes.WellFormed.forall_mem {a : Affixes} (h : a.WellFormed) :
    ∀ c, c ∈ a.before ∨ c ∈ a.after → isConstantChar c = true := by
  obtain ⟨hb | hb, ha | ha⟩ := h <;> rintro c (hc | hc)
  all_goals first
    | exact (hasIdentifierForm_iff.1 hb).2 c hc
    | exact (hasIdentifierForm_iff.1 ha).2 c hc
    | simp_all

theorem decorate_eq (a : Affixes) (s : Settings) (topLevel : Bool) :
    ∃ before after, (before = a.before ∨ before = []) ∧ (after = a.after ∨ after = []) ∧
      ∀ bare, decorate a s topLevel bare = before ++ bare ++ after := by
  refine ⟨_, _, ?_, ?_, fun bare => rfl⟩ <;> split <;> simp

/-- Bare names stay apart when they are decorated alike. -/
theorem decorate_injective (a : Affixes) (s : Settings) (topLevel : Bool) {x y : Text}
    (h : decorate a s topLevel x = decorate a s topLevel y) : x = y := by
  obtain ⟨before, after, -, -, heq⟩ := decorate_eq a s topLevel
  rw [heq, heq] at h
  exact List.append_cancel_left (List.append_cancel_right h)

theorem mem_decorate {a : Affixes} {s : Settings} {topLevel : Bool} {bare : Text} {c : CodePoint}
    (h : c ∈ decorate a s topLevel bare) : c ∈ a.before ∨ c ∈ bare ∨ c ∈ a.after := by
  obtain ⟨before, after, hb, ha, heq⟩ := decorate_eq a s topLevel
  rw [heq, List.mem_append, List.mem_append] at h
  rcases h with (h | h) | h
  · exact .inl (hb.elim (· ▸ h) fun hnil => by simp [hnil] at h)
  · exact .inr (.inl h)
  · exact .inr (.inr (ha.elim (· ▸ h) fun hnil => by simp [hnil] at h))

/-- Well-formed affixes never spoil a bare name, whatever the policies. -/
theorem isIdentifier_decorate {a : Affixes} (ha : a.WellFormed) (s : Settings) (topLevel : Bool)
    {bare : Text} (h : isBareName bare = true) :
    isIdentifier (decorate a s topLevel bare) = true := by
  obtain ⟨before, after, hb, hafter, heq⟩ := decorate_eq a s topLevel
  have hall : ∀ c ∈ bare ++ after, isConstantChar c = true := by
    intro c hc
    rcases List.mem_append.1 hc with hc | hc
    · exact isConstantChar_of_isWordChar ((isBareName_iff.1 h).2 c hc)
    · rcases hafter with rfl | rfl
      · exact ha.forall_mem c (.inr hc)
      · cases hc
  have hform : hasIdentifierForm (before ++ (bare ++ after)) = true := by
    rcases hb with rfl | rfl
    · rcases ha.1 with hnil | hform
      · rw [hnil, List.nil_append]
        exact hasIdentifierForm_append (hasIdentifierForm_of_isBareName h) fun c hc =>
          hall c (List.mem_append_right bare hc)
      · exact hasIdentifierForm_append hform hall
    · rw [List.nil_append]
      exact hasIdentifierForm_append (hasIdentifierForm_of_isBareName h) fun c hc =>
        hall c (List.mem_append_right bare hc)
  obtain ⟨c, hc, hcap⟩ := exists_capital_of_isBareName h
  rw [heq, List.append_assoc]
  exact isIdentifier_of_form hform (isKeyword_eq_false_of_capital (by simp [hc]) hcap)

@[simp] theorem applyAffixes_eq_ok {a : Affixes} {s : Settings} {topLevel : Bool} {bare n : Text} :
    applyAffixes a s topLevel bare = .ok n ↔
      isIdentifier (decorate a s topLevel bare) = true ∧ n = decorate a s topLevel bare :=
  ensureIdentifier_eq_ok

/-! ## Field names -/

theorem isConstantChar_of_mem_guardDigit {t : Text} (h : ∀ c ∈ t, isConstantChar c = true) :
    ∀ c ∈ guardDigit t, isConstantChar c = true := by
  unfold guardDigit
  split
  · exact List.forall_mem_cons.2 ⟨by decide, h⟩
  · exact h

theorem isConstantChar_of_mem_escapeKeyword {t : Text} (h : ∀ c ∈ t, isConstantChar c = true) :
    ∀ c ∈ escapeKeyword t, isConstantChar c = true := by
  unfold escapeKeyword
  split
  · exact List.forall_mem_append.2 ⟨h, by decide⟩
  · exact h

theorem isConstantChar_of_mem_words {raw first : Text} {rest : List Text}
    (h : words raw = first :: rest) :
    ∀ c ∈ first ++ rest.flatMap capitalizeWord, isConstantChar c = true := by
  have hspec := words_spec raw
  rw [h] at hspec
  obtain ⟨⟨-, hfirst⟩, hrest⟩ := List.forall_mem_cons.1 hspec
  intro c hc
  refine isConstantChar_of_isWordChar ((List.mem_append.1 hc).elim (hfirst c) ?_)
  exact isWordChar_of_mem_flatMap_capitalizeWord hrest c

theorem hasIdentifierForm_guardDigit {t : Text} (hne : t ≠ [])
    (h : ∀ c ∈ t, isConstantChar c = true) : hasIdentifierForm (guardDigit t) = true := by
  obtain ⟨c, rest, rfl⟩ := List.exists_cons_of_ne_nil hne
  by_cases hd : isAsciiDigit c = true
  · rw [guardDigit, if_pos (show startsWithDigit (c :: rest) = true from hd)]
    exact hasIdentifierForm_append (t := ("_" : Text)) (by decide) h
  · rw [guardDigit, if_neg (show ¬startsWithDigit (c :: rest) = true from hd)]
    refine hasIdentifierForm_iff.2 ⟨⟨c, rfl, ?_⟩, h⟩
    have hc := h c (by simp)
    rw [isConstantChar_iff, isWordChar, Bool.or_eq_true] at hc
    rw [isIdentifierStart_iff]
    exact hc.imp_left fun hl => hl.resolve_right hd

/-- A field name can be derived from identifiers and from texts with a letter or digit. -/
theorem exists_fieldName_iff {raw : Text} : (∃ n, fieldName raw = .ok n) ↔
    isIdentifier raw = true ∨ ∃ c ∈ raw, isWordChar c = true := by
  unfold fieldName
  by_cases hid : isIdentifier raw = true
  · simp [hid]
  · rw [if_neg hid]
    have hnil := words_eq_nil_iff raw
    have hspec := words_spec raw
    cases hw : words raw with
    | nil =>
      have hnone := hnil.1 hw
      simp only [reduceCtorEq, exists_false, hid, false_or, false_iff, not_exists, not_and]
      exact fun c hc => Bool.eq_false_iff.1 (hnone c hc)
    | cons first rest =>
      have hne := (hspec first (by simp [hw])).1
      have hall := isConstantChar_of_mem_words hw
      refine iff_of_true ⟨_, ensureIdentifier_eq_ok.2 ⟨?_, rfl⟩⟩ (.inr ?_)
      · exact isIdentifier_escapeKeyword (hasIdentifierForm_guardDigit (by simp [hne]) hall)
      · refine Decidable.byContradiction fun hno => ?_
        have hnone : words raw = [] := hnil.2 fun c hc => by simp_all
        rw [hw] at hnone
        cases hnone

/-- A field name is an identifier, and only the key itself can have a line feed at its end. -/
theorem isIdentifier_of_fieldName {raw n : Text} (h : fieldName raw = .ok n) :
    isIdentifier n = true ∧ (n = raw ∨ ∀ c ∈ n, isConstantChar c = true) := by
  unfold fieldName at h
  split at h
  · next hid =>
    cases h
    exact ⟨hid, .inl rfl⟩
  · split at h
    · cases h
    · next first rest hw =>
      obtain ⟨hid, rfl⟩ := ensureIdentifier_eq_ok.1 h
      exact ⟨hid, .inr (isConstantChar_of_mem_escapeKeyword
        (isConstantChar_of_mem_guardDigit (isConstantChar_of_mem_words hw)))⟩

/-! ## Enum constants -/

theorem upperExpansions_ne_nil :
    ∀ e ∈ Text.upperExpansions, e.2.filterMap CodePoint.ofNat? ≠ [] := by
  decide +kernel

/-- No character vanishes in upper case. -/
@[simp] theorem upperChar_ne_nil (c : CodePoint) : Text.upperChar c ≠ [] := by
  unfold Text.upperChar Text.mapByTables
  split
  · simp
  · split
    · next ns h =>
      obtain ⟨before, after, hsplit, -⟩ := List.lookup_eq_some_iff.1 h
      exact upperExpansions_ne_nil (c.val, ns) (by simp [hsplit])
    · simp

@[simp] theorem upper_eq_nil_iff {t : Text} : t.upper = [] ↔ t = [] := by
  cases t with
  | nil => simp [Text.upper]
  | cons c rest => simp [Text.upper, upperChar_ne_nil]

theorem isConstantChar_of_mem_sanitizeAux {inRun : Bool} {t : Text} :
    ∀ c ∈ sanitizeAux inRun t, isConstantChar c = true := by
  fun_induction sanitizeAux inRun t with
  | case1 inRun => simp
  | case2 inRun c rest hc ih => exact List.forall_mem_cons.2 ⟨hc, ih⟩
  | case3 c rest hc ih => exact ih
  | case4 inRun c rest hc hr ih => exact List.forall_mem_cons.2 ⟨by decide, ih⟩

@[simp] theorem sanitizeConstant_eq_nil_iff {t : Text} : sanitizeConstant t = [] ↔ t = [] := by
  cases t with
  | nil => simp [sanitizeConstant, sanitizeAux]
  | cons c rest =>
    simp only [sanitizeConstant, sanitizeAux, Bool.false_eq_true, if_false, reduceCtorEq, iff_false]
    split <;> simp

/-- The text of a constant before keywords are told apart. -/
theorem enumConstant_eq (literal : Text) (uppercase : Bool) :
    ∃ t : Text, (t = [] ↔ literal = []) ∧ (∀ c ∈ t, isConstantChar c = true) ∧
      enumConstant literal uppercase =
        if (guardDigit t).isEmpty then .error (.invalidIdentifier [] literal)
        else ensureIdentifier (escapeKeyword (guardDigit t)) literal := by
  refine ⟨_, ?_, isConstantChar_of_mem_sanitizeAux, rfl⟩
  rw [← sanitizeConstant, sanitizeConstant_eq_nil_iff]
  split
  · exact upper_eq_nil_iff
  · exact Iff.rfl

@[simp] theorem guardDigit_nil : guardDigit [] = [] := rfl

/-- A constant can be derived from every literal but the empty one. -/
theorem exists_enumConstant_iff {literal : Text} {uppercase : Bool} :
    (∃ n, enumConstant literal uppercase = .ok n) ↔ literal ≠ [] := by
  obtain ⟨t, hnil, hall, heq⟩ := enumConstant_eq literal uppercase
  rw [heq, ne_eq, ← hnil]
  by_cases ht : t = []
  · simp [ht, guardDigit_nil]
  · have hform := hasIdentifierForm_guardDigit ht hall
    have hne : (guardDigit t).isEmpty = false := by
      cases hg : guardDigit t with
      | nil => rw [hg] at hform; cases hform
      | cons _ _ => rfl
    rw [hne]
    exact iff_of_true ⟨_, ensureIdentifier_eq_ok.2 ⟨isIdentifier_escapeKeyword hform, rfl⟩⟩ ht

/-- Constants are made of the characters of identifiers from end to end. -/
theorem isConstantChar_of_enumConstant {literal n : Text} {uppercase : Bool}
    (h : enumConstant literal uppercase = .ok n) : ∀ c ∈ n, isConstantChar c = true := by
  obtain ⟨t, -, hall, heq⟩ := enumConstant_eq literal uppercase
  rw [heq] at h
  split at h
  · cases h
  · obtain ⟨-, rfl⟩ := ensureIdentifier_eq_ok.1 h
    exact isConstantChar_of_mem_escapeKeyword (isConstantChar_of_mem_guardDigit hall)

end KubeJava.Java
