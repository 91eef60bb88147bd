import KubeJava.Java.Source
import KubeJava.Proofs.Splitting

set_option autoImplicit false

/-! # Lines of sources

A source is put together from lines, and its lines are these again as long as no line feed stands
inside them. Comments and literals never bring one in: the text of a comment is split at all line
breaks, and literals escape them. -/

namespace KubeJava

/-! ## Texts on one line -/

namespace Text

/-- No line feed stands in the text. -/
def OneLine (t : Text) : Prop := ('\n' : CodePoint) ∉ t

instance (t : Text) : Decidable (OneLine t) := inferInstanceAs (Decidable (_ ∉ t))

@[simp] theorem oneLine_nil : OneLine [] := List.not_mem_nil

@[simp] theorem oneLine_append {t u : Text} : OneLine (t ++ u) ↔ OneLine t ∧ OneLine u := by
  simp only [OneLine, List.mem_append, not_or]

@[simp] theorem oneLine_reverse {t : Text} : OneLine t.reverse ↔ OneLine t := by
  simp only [OneLine, List.mem_reverse]

@[simp] theorem oneLine_cons {c : CodePoint} {t : Text} :
    OneLine (c :: t) ↔ c ≠ ('\n' : CodePoint) ∧ OneLine t := by
  simp only [OneLine, List.mem_cons, not_or, ne_eq, eq_comm]

@[simp] theorem oneLine_flatMap {α : Type} {f : α → Text} {as : List α} :
    OneLine (as.flatMap f) ↔ ∀ a ∈ as, OneLine (f a) := by
  simp [OneLine]

theorem OneLine.trimEnd {t : Text} (h : OneLine t) : OneLine (trimEnd t) := by
  intro hmem
  rw [Text.trimEnd, List.mem_reverse] at hmem
  exact h (List.mem_reverse.1 ((List.dropWhile_sublist _).subset hmem))

theorem ne_lineFeed_of_isLineBreak {c : CodePoint} (h : ¬isLineBreak c = true) :
    c ≠ ('\n' : CodePoint) := by
  rintro rfl
  exact h (by decide)

theorem oneLine_of_mem_splitLinesAux {line t : Text} (hline : OneLine line) :
    ∀ l ∈ splitLinesAux line t, OneLine l := by
  fun_induction splitLinesAux line t with
  | case1 => simp
  | case2 line => simpa using hline
  | case3 line c =>
    rw [List.forall_mem_singleton]
    split
    · simpa using hline
    · next hc => simp [ne_lineFeed_of_isLineBreak hc, hline]
  | case4 line c d rest _ ih => simpa [hline] using ih
  | case5 line c d rest _ _ ih => simpa [hline] using ih
  | case6 line c d rest _ hc ih => exact ih (by simp [ne_lineFeed_of_isLineBreak hc, hline])

/-- The lines that a text is split into are lines. -/
theorem oneLine_of_mem_splitLines {t : Text} : ∀ l ∈ splitLines t, OneLine l :=
  oneLine_of_mem_splitLinesAux oneLine_nil

@[simp] theorem oneLine_hexFixed (width n : Nat) : OneLine (hexFixed width n) := by
  have hdigit : ∀ d, d < 16 → hexDigit d ≠ ('\n' : CodePoint) := by decide
  induction width generalizing n with
  | zero => simp [hexFixed]
  | succ width ih =>
    have hlast := hdigit (n % 16) (Nat.mod_lt n (by decide))
    simp [hexFixed, ih, hlast]

end Text

open Text (OneLine)

/-! ## Literals and comments -/

namespace Java

@[simp] theorem oneLine_unitEscape (unit : Nat) : OneLine (unitEscape unit) := by
  simp +decide [unitEscape]

@[simp] theorem oneLine_escapeChar (c : CodePoint) : OneLine (escapeChar c) := by
  unfold escapeChar
  repeat' split
  any_goals decide
  · next hprintable =>
    have hfeed : c ≠ ('\n' : CodePoint) := by
      rintro rfl
      exact absurd hprintable (by decide)
    simp [hfeed]
  · simp

@[simp] theorem oneLine_stringLiteral (t : Text) : OneLine (stringLiteral t) := by
  simp +decide [stringLiteral]

theorem oneLine_of_mem_javadoc {description : Option Text} :
    ∀ l ∈ javadoc description, OneLine l := by
  unfold javadoc
  split
  · simp
  · next t =>
    split
    · simp
    · rw [List.forall_mem_append, List.forall_mem_cons, List.forall_mem_map,
        List.forall_mem_singleton]
      refine ⟨⟨by decide, fun l hl => ?_⟩, by decide⟩
      have hline := Text.oneLine_of_mem_splitLines l hl
      exact OneLine.trimEnd (by simp +decide [hline])

/-! ## Enums -/

theorem oneLine_of_mem_constantLines {terminator : Text} {c : EnumConstant}
    (hterminator : OneLine terminator) (hc : OneLine c.identifier) :
    ∀ l ∈ constantLines terminator c, OneLine l := by
  simp +decide [constantLines, hc, hterminator]

theorem oneLine_of_mem_constantsLines {cs : List EnumConstant}
    (h : ∀ c ∈ cs, OneLine c.identifier) : ∀ l ∈ constantsLines cs, OneLine l := by
  fun_induction constantsLines cs with
  | case1 => simp only [List.forall_mem_singleton]; decide
  | case2 c => exact oneLine_of_mem_constantLines (by decide) (h c (by simp))
  | case3 c d rest ih =>
    exact List.forall_mem_append.2 ⟨oneLine_of_mem_constantLines (by decide) (h c (by simp)),
      ih fun c' hc' => h c' (List.mem_cons_of_mem _ hc')⟩

/-- The lines of an enum are lines if its names are. -/
theorem oneLine_of_mem_enumLines {e : EnumDeclaration} (hname : OneLine e.name)
    (hconstants : ∀ c ∈ e.constants, OneLine c.identifier) : ∀ l ∈ enumLines e, OneLine l := by
  simp only [enumLines, List.forall_mem_append, List.forall_mem_cons]
  refine ⟨⟨⟨⟨oneLine_of_mem_javadoc, ?_⟩, oneLine_of_mem_constantsLines hconstants⟩, ?_⟩, ?_⟩
  · simp +decide [hname]
  · simp +decide [enumMembers, hname]
  · decide

/-! ## Sources -/

/-- The lines of a text in which each line is ended by a line feed. -/
def sourceLines (t : Text) : List Text := (Text.partsAt ('\n' : CodePoint) t).dropLast

theorem sourceLines_joinLines {ls : List Text} (h : ls ≠ []) :
    sourceLines (joinLines ls) = ls.flatMap (Text.partsAt ('\n' : CodePoint)) := by
  have hparts : Text.partsAt ('\n' : CodePoint) (joinLines ls) =
      ls.flatMap (Text.partsAt ('\n' : CodePoint)) ++ [[]] := Text.partsAt_intercalate h
  rw [sourceLines, hparts, List.dropLast_concat]

theorem flatMap_partsAt_of_oneLine {ls : List Text} (h : ∀ l ∈ ls, OneLine l) :
    ls.flatMap (Text.partsAt ('\n' : CodePoint)) = ls := by
  induction ls with
  | nil => rfl
  | cons l ls ih =>
    obtain ⟨hl, hls⟩ := List.forall_mem_cons.1 h
    simp [Text.partsAt_of_not_mem hl, ih hls]

theorem oneLine_of_mem_indentLines {ls : List Text} (h : ∀ l ∈ ls, OneLine l) :
    ∀ l ∈ indentLines ls, OneLine l := by
  rw [indentLines, List.forall_mem_map]
  intro l hl
  unfold indentLine
  split
  · decide
  · simp +decide [h l hl]

end Java

end KubeJava
