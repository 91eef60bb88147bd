import KubeJava.Proofs.UnicodeEscapes

set_option autoImplicit false

/-! # What literals mean

A string literal is read in two steps: the Unicode escapes of the source are translated, and then the
escapes of the literal, up to the first quote that is in none of them. The text of a literal consists
of short escapes, printable characters and Unicode escapes. No Unicode escape gives a quote, a
backslash or a line terminator, for these have short escapes; and no short escape is mistaken for a
Unicode escape, for its backslash is either not followed by a `u` or stands after another one. -/

namespace KubeJava.Java

/-! ## Reading a literal -/

def isLineTerminator (unit : Nat) : Bool := unit = 0x0a || unit = 0x0d

/-- The letters of escapes in literals, each with the unit that it stands for. -/
def escapeLetters : List (Nat × Nat) :=
  [(0x62, 0x08), (0x73, 0x20), (0x74, 0x09), (0x6e, 0x0a), (0x66, 0x0c), (0x72, 0x0d),
    (0x22, 0x22), (0x27, 0x27), (0x5c, 0x5c)]

def isOctalDigit (unit : Nat) : Bool := 0x30 ≤ unit && unit ≤ 0x37

/-- The digits of an octal escape at the front: at most three, and at most two unless the first is at
most 3. -/
def octalDigits (units : List Nat) : List Nat :=
  (units.takeWhile isOctalDigit).take (if units.headD 0 ≤ 0x33 then 3 else 2)

/-- The unit that an escape stands for and the number of units that belong to it, given what comes
after its backslash. -/
def readEscape? (units : List Nat) : Option (Nat × Nat) :=
  match units.head?.bind (List.lookup · escapeLetters) with
  | some unit => some (unit, 1)
  | none =>
    let digits := octalDigits units
    if digits = [] then none
    else some (digits.foldl (fun n digit => n * 8 + (digit - 0x30)) 0, digits.length)

/-- The units that a literal stands for and what comes after it, given what comes after its opening
quote. No line terminator may stand inside it. -/
def readBody? : List Nat → Option (List Nat × List Nat)
  | [] => none
  | unit :: rest =>
    if unit = 0x22 then some ([], rest)
    else if isLineTerminator unit then none
    else if unit = 0x5c then
      match readEscape? rest with
      | none => none
      | some (escaped, length) => (readBody? (rest.drop length)).map fun r => (escaped :: r.1, r.2)
    else (readBody? rest).map fun r => (unit :: r.1, r.2)
termination_by units => units.length
decreasing_by all_goals simp only [List.length_drop, List.length_cons]; omega

/-- The units that the literal at the front stands for, and what comes after it. -/
def readLiteral? : List Nat → Option (List Nat × List Nat)
  | [] => none
  | unit :: rest => if unit = 0x22 then readBody? rest else none

/-! ## Translated literals -/

/-- What stands for a code point in a literal once Unicode escapes are translated: its short escape or
else its units. -/
def escapedUnits (c : CodePoint) : List Nat :=
  match shortEscapes.lookup c with
  | some letter => [0x5c, letter.val]
  | none => utf16Units c

theorem escapedUnits_of_mem : ∀ p ∈ shortEscapes, escapedUnits p.1 = [0x5c, p.2.val] := by decide

theorem escapedUnits_of_not_mem {c : CodePoint} (h : c ∉ shortEscapes.map (·.1)) :
    escapedUnits c = utf16Units c := by
  have hnone : shortEscapes.lookup c = none := by
    rw [List.lookup_eq_none_iff]
    intro p hp
    simpa using fun heq : c = p.1 => h (heq ▸ List.mem_map_of_mem hp)
  rw [escapedUnits, hnone]

@[simp] theorem translate_flatMap_unitEscape {units : List Nat} (h : ∀ unit ∈ units, unit < 0x10000)
    (rest : Text) :
    translate (units.flatMap unitEscape ++ rest) = (translate rest).map (units ++ ·) := by
  induction units with
  | nil => simp
  | cons unit units ih =>
    obtain ⟨hunit, hunits⟩ := List.forall_mem_cons.1 h
    simp [translate_unitEscape hunit, ih hunits, Function.comp_def]

@[simp] theorem translate_escapeChar (c : CodePoint) (rest : Text) :
    translate (escapeChar c ++ rest) = (translate rest).map (escapedUnits c ++ ·) := by
  by_cases hshort : c ∈ shortEscapes.map (·.1)
  · obtain ⟨p, hp, rfl⟩ := List.mem_map.1 hshort
    have hmarker : ∀ p ∈ shortEscapes, p.2 ≠ ('u' : CodePoint) := by decide
    have hunit : ∀ p ∈ shortEscapes, utf16Units p.2 = [p.2.val] := by decide
    rw [escapeChar_of_mem p hp, escapedUnits_of_mem p hp]
    show translate (('\\' : CodePoint) :: p.2 :: rest) = _
    rw [translate_pair (hmarker p hp), hunit p hp]
    rfl
  · rw [escapeChar_of_not_mem hshort, escapedUnits_of_not_mem hshort]
    split
    · have hbackslash : c ≠ ('\\' : CodePoint) := by
        rintro rfl
        exact hshort (by decide)
      exact translate_cons_of_ne hbackslash rest
    · exact translate_flatMap_unitEscape (fun _ => lt_of_mem_utf16Units) rest

@[simp] theorem translate_flatMap_escapeChar (t rest : Text) :
    translate (t.flatMap escapeChar ++ rest) =
      (translate rest).map (t.flatMap escapedUnits ++ ·) := by
  induction t with
  | nil => simp
  | cons c t ih =>
    simp [ih, Function.comp_def]

/-- The units of a literal are its quotes and what stands for its text, wherever it stands. -/
@[simp] theorem translate_stringLiteral_append (t rest : Text) :
    translate (stringLiteral t ++ rest) =
      (translate rest).map ((0x22 :: t.flatMap escapedUnits ++ [0x22]) ++ ·) := by
  have hquote : ('"' : CodePoint) ≠ ('\\' : CodePoint) := by decide
  have hsplit : stringLiteral t ++ rest =
      ('"' : CodePoint) :: (t.flatMap escapeChar ++ ('"' : CodePoint) :: rest) := by
    simp [stringLiteral, Text.ofString, Text.ofChars]
  rw [hsplit, translate_cons_of_ne hquote, translate_flatMap_escapeChar,
    translate_cons_of_ne hquote]
  simp [Function.comp_def, utf16Units, CodePoint.ofChar]

/-! ## Reading back -/

/-- Units that are no quotes, backslashes or line terminators stand for themselves. -/
theorem readBody?_append_of_plain {units : List Nat}
    (h : ∀ unit ∈ units, unit ≠ 0x22 ∧ unit ≠ 0x5c ∧ isLineTerminator unit = false)
    (rest : List Nat) :
    readBody? (units ++ rest) = (readBody? rest).map fun r => (units ++ r.1, r.2) := by
  induction units with
  | nil => simp
  | cons unit units ih =>
    obtain ⟨⟨hquote, hbackslash, hterminator⟩, hunits⟩ := List.forall_mem_cons.1 h
    rw [List.cons_append, readBody?, if_neg hquote, if_neg (by simp [hterminator]),
      if_neg hbackslash, ih hunits, Option.map_map]
    rfl

/-- No unit of a character without short escape has a meaning of its own in a literal. -/
theorem plain_of_mem_utf16Units {c : CodePoint} (h : c ∉ shortEscapes.map (·.1)) :
    ∀ unit ∈ utf16Units c, unit ≠ 0x22 ∧ unit ≠ 0x5c ∧ isLineTerminator unit = false := by
  have hne : ∀ d ∈ shortEscapes.map (·.1), c.val ≠ d.val := fun d hd heq =>
    h (CodePoint.eq_of_val_eq heq ▸ hd)
  have hquote : c.val ≠ 0x22 := hne '"' (by decide)
  have hbackslash : c.val ≠ 0x5c := hne '\\' (by decide)
  have hfeed : c.val ≠ 0x0a := hne '\n' (by decide)
  have hreturn : c.val ≠ 0x0d := hne '\r' (by decide)
  intro unit hunit
  by_cases hc : c.val < 0x10000
  · rw [utf16Units_of_lt hc, List.mem_singleton] at hunit
    subst hunit
    exact ⟨hquote, hbackslash, by simp [isLineTerminator, hfeed, hreturn]⟩
  · -- Both units are surrogates.
    rw [utf16Units_of_not_lt hc, List.mem_cons, List.mem_singleton] at hunit
    refine ⟨by omega, by omega, ?_⟩
    simp only [isLineTerminator, Bool.or_eq_false_iff, decide_eq_false_iff_not]
    omega

@[simp] theorem readBody?_escapedUnits (c : CodePoint) (rest : List Nat) :
    readBody? (escapedUnits c ++ rest) =
      (readBody? rest).map fun r => (utf16Units c ++ r.1, r.2) := by
  by_cases hshort : c ∈ shortEscapes.map (·.1)
  · obtain ⟨p, hp, rfl⟩ := List.mem_map.1 hshort
    have hunit : ∀ p ∈ shortEscapes, utf16Units p.1 = [p.1.val] := by decide
    have hletter : ∀ p ∈ shortEscapes, escapeLetters.lookup p.2.val = some p.1.val := by decide
    have hescape : readEscape? (p.2.val :: rest) = some (p.1.val, 1) := by
      simp [readEscape?, hletter p hp]
    rw [escapedUnits_of_mem p hp, hunit p hp]
    show readBody? (0x5c :: p.2.val :: rest) = _
    rw [readBody?, if_neg (by decide), if_neg (by decide), if_pos rfl, hescape]
    rfl
  · rw [escapedUnits_of_not_mem hshort]
    exact readBody?_append_of_plain (plain_of_mem_utf16Units hshort) rest

@[simp] theorem readBody?_flatMap_escapedUnits (t : Text) (rest : List Nat) :
    readBody? (t.flatMap escapedUnits ++ 0x22 :: rest) = some (t.utf16, rest) := by
  induction t with
  | nil =>
    show readBody? (0x22 :: rest) = some ([], rest)
    rw [readBody?, if_pos rfl]
  | cons c t ih =>
    simp [ih]

/-! ## The meaning of a literal -/

theorem lt_of_mem_hexFixed {width n : Nat} : ∀ c ∈ Text.hexFixed width n, c.val < 0x80 := by
  have hdigit : ∀ d < 16, (Text.hexDigit d).val < 0x80 := by decide
  induction width generalizing n with
  | zero => simp [Text.hexFixed]
  | succ width ih =>
    rw [Text.hexFixed, List.forall_mem_append, List.forall_mem_singleton]
    exact ⟨ih, hdigit _ (Nat.mod_lt n (by decide))⟩

theorem lt_of_mem_escapeChar (c : CodePoint) : ∀ d ∈ escapeChar c, d.val < 0x80 := by
  by_cases hshort : c ∈ shortEscapes.map (·.1)
  · obtain ⟨p, hp, rfl⟩ := List.mem_map.1 hshort
    have hletters : ∀ p ∈ shortEscapes, ∀ d ∈ escapeChar p.1, d.val < 0x80 := by decide
    exact hletters p hp
  · rw [escapeChar_of_not_mem hshort]
    split
    · rw [List.forall_mem_singleton]
      omega
    · have hmark : ∀ d ∈ ("\\u" : Text), d.val < 0x80 := by decide
      intro d hd
      obtain ⟨unit, -, hd⟩ := List.mem_flatMap.1 hd
      rcases List.mem_append.1 hd with hd | hd
      · exact hmark d hd
      · exact lt_of_mem_hexFixed d hd

theorem lt_of_mem_stringLiteral (t : Text) : ∀ c ∈ stringLiteral t, c.val < 0x80 := by
  have hquote : ∀ c ∈ ("\"" : Text), c.val < 0x80 := by decide
  rw [stringLiteral, List.forall_mem_append, List.forall_mem_append]
  refine ⟨⟨hquote, fun d hd => ?_⟩, hquote⟩
  obtain ⟨c, -, hd⟩ := List.mem_flatMap.1 hd
  exact lt_of_mem_escapeChar c d hd

theorem isLineTerminator_of_mem_escapedUnits (c : CodePoint) :
    ∀ unit ∈ escapedUnits c, isLineTerminator unit = false := by
  by_cases hshort : c ∈ shortEscapes.map (·.1)
  · obtain ⟨p, hp, rfl⟩ := List.mem_map.1 hshort
    have hunits : ∀ p ∈ shortEscapes, ∀ unit ∈ escapedUnits p.1, isLineTerminator unit = false := by
      decide
    exact hunits p hp
  · rw [escapedUnits_of_not_mem hshort]
    exact fun unit hunit => (plain_of_mem_utf16Units hshort unit hunit).2.2

/-- A literal is plain ASCII. Its Unicode escapes are well formed, and once they are translated no line
terminator stands in it; it ends at its last quote and at no other before, and it stands for the units
of the text. -/
theorem readLiteral?_stringLiteral (t : Text) :
    (∀ c ∈ stringLiteral t, c.val < 0x80) ∧
      ∃ units, translate (stringLiteral t) = some units ∧
        (∀ unit ∈ units, isLineTerminator unit = false) ∧
        readLiteral? units = some (t.utf16, []) := by
  refine ⟨lt_of_mem_stringLiteral t, 0x22 :: t.flatMap escapedUnits ++ [0x22], ?_, ?_, ?_⟩
  · have htranslate := translate_stringLiteral_append t []
    simpa using htranslate
  · intro unit hunit
    rcases List.mem_append.1 hunit with hunit | hunit
    · rcases List.mem_cons.1 hunit with rfl | hunit
      · rfl
      · obtain ⟨c, -, hunit⟩ := List.mem_flatMap.1 hunit
        exact isLineTerminator_of_mem_escapedUnits c unit hunit
    · rw [List.mem_singleton.1 hunit]
      rfl
  · rw [List.cons_append, readLiteral?, if_pos rfl]
    exact readBody?_flatMap_escapedUnits t []

end KubeJava.Java
