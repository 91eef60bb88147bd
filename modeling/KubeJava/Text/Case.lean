import KubeJava.Text.CaseTable

set_option autoImplicit false

/-! # Full case mapping

Upper- and lower-casing by the full Unicode mappings: one character may become several (`ß` becomes
`SS`), and a capital sigma that ends a word becomes the final `ς`. ASCII characters are mapped by
arithmetic, so that facts about ASCII text need no table; surrogates stay as they are. -/

namespace KubeJava.Text

/-! ## Table look-up -/

def CaseRun.image? (r : CaseRun) (n : Nat) : Option Nat :=
  if r.first ≤ n ∧ n ≤ r.last ∧ (n - r.first) % r.stride = 0 then
    some (Int.toNat (n + r.delta))
  else none

/-- The case mapping of one code point outside ASCII that is given by two tables. -/
def mapByTables (runs : List CaseRun) (expansions : List (Nat × List Nat)) (c : CodePoint) :
    Text :=
  match expansions.lookup c.val with
  | some ns => ns.filterMap CodePoint.ofNat?
  | none => [((runs.findSome? (·.image? c.val)).bind CodePoint.ofNat?).getD c]

def inRanges (ranges : List (Nat × Nat)) (c : CodePoint) : Bool :=
  ranges.any fun r => r.1 ≤ c.val && c.val ≤ r.2

/-! ## Single characters -/

/-- The code point with its ASCII letters in upper case. -/
def asciiUpper (c : CodePoint) : CodePoint :=
  if 'a' ≤ c ∧ c ≤ 'z' then ⟨c.val - 32, by have := c.val_lt; omega⟩ else c

/-- The code point with its ASCII letters in lower case. -/
def asciiLower (c : CodePoint) : CodePoint :=
  if h : 'A' ≤ c ∧ c ≤ 'Z' then
    ⟨c.val + 32, by have : c.val ≤ 'Z'.toNat := h.2; have : 'Z'.toNat = 90 := rfl; omega⟩
  else c

/-- The upper case of one code point. -/
def upperChar (c : CodePoint) : Text :=
  if c.val < 128 then [asciiUpper c] else mapByTables upperRuns upperExpansions c

/-- The lower case of one code point, a capital sigma taken as one inside a word. -/
def lowerChar (c : CodePoint) : Text :=
  if c.val < 128 then [asciiLower c] else mapByTables lowerRuns lowerExpansions c

def isCased (c : CodePoint) : Bool := inRanges casedRanges c

def isCaseIgnorable (c : CodePoint) : Bool := inRanges caseIgnorableRanges c

/-! ## Text -/

def capitalSigma : CodePoint := 'Σ'

def smallSigma : CodePoint := 'σ'

def finalSigma : CodePoint := 'ς'

/-- Whether the nearest code point that is not case-ignorable is a cased one. -/
def meetsCased (t : Text) : Bool :=
  match t.dropWhile isCaseIgnorable with
  | [] => false
  | c :: _ => isCased c

/-- The lower case of a text with the text `before` in front of it, the nearest first. A capital
sigma takes its final form when a cased character precedes it and none follows. -/
def lowerAfter (before : Text) : Text → Text
  | [] => []
  | c :: rest =>
    (if c = capitalSigma then
      [if meetsCased before && !meetsCased rest then finalSigma else smallSigma]
    else lowerChar c) ++ lowerAfter (c :: before) rest

def upper (t : Text) : Text := t.flatMap upperChar

def lower (t : Text) : Text := lowerAfter [] t

/-- The text with its first character in upper case. -/
def capitalize : Text → Text
  | [] => []
  | c :: rest => upperChar c ++ rest

/-! ## ASCII -/

theorem upperChar_of_ascii {c : CodePoint} (h : c.val < 128) : upperChar c = [asciiUpper c] :=
  if_pos h

theorem lowerChar_of_ascii {c : CodePoint} (h : c.val < 128) : lowerChar c = [asciiLower c] :=
  if_pos h

theorem lowerAfter_of_ascii (before : Text) {t : Text} (h : ∀ c ∈ t, c.val < 128) :
    lowerAfter before t = t.map asciiLower := by
  induction t generalizing before with
  | nil => rfl
  | cons c rest ih =>
    have hc : c.val < 128 := h c (by simp)
    have hs : c ≠ capitalSigma := by
      rintro rfl
      exact absurd hc (by decide)
    simp [lowerAfter, hs, lowerChar_of_ascii hc,
      ih (c :: before) fun d hd => h d (List.mem_cons_of_mem c hd)]

end KubeJava.Text
