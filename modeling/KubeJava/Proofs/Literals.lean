import KubeJava.Java.Literal
import Mathlib.Data.List.Chain

set_option autoImplicit false

/-! # What literals tell apart

A literal writes a text unit by unit in UTF-16, and the units can be read off it again: no escape is
the beginning of another one. Two surrogates, a high one before a low one, are the units of one
other code point, so a text in which they stand apart has the literal of the text that has the code
point. All other texts have literals of their own. -/

namespace KubeJava

/-! ## Surrogate pairs -/

namespace CodePoint

theorem eq_of_val_eq {c d : CodePoint} (h : c.val = d.val) : c = d := by
  cases c
  cases d
  subst h
  rfl

def IsHighSurrogate (c : CodePoint) : Prop := 0xd800 ≤ c.val ∧ c.val < 0xdc00

def IsLowSurrogate (c : CodePoint) : Prop := 0xdc00 ≤ c.val ∧ c.val < 0xe000

instance (c : CodePoint) : Decidable c.IsHighSurrogate := inferInstanceAs (Decidable (_ ∧ _))

instance (c : CodePoint) : Decidable c.IsLowSurrogate := inferInstanceAs (Decidable (_ ∧ _))

end CodePoint

/-- No high surrogate stands directly before a low one. -/
def Text.NoSplitPair (t : Text) : Prop :=
  t.IsChain fun c d => ¬(c.IsHighSurrogate ∧ d.IsLowSurrogate)

instance (t : Text) : Decidable t.NoSplitPair := inferInstanceAs (Decidable (List.IsChain _ t))

/-- The UTF-16 units of a text. -/
def Text.utf16 (t : Text) : List Nat := t.flatMap Java.utf16Units

namespace Java

theorem utf16Units_of_lt {c : CodePoint} (h : c.val < 0x10000) : utf16Units c = [c.val] := if_pos h

theorem utf16Units_of_not_lt {c : CodePoint} (h : ¬c.val < 0x10000) : utf16Units c =
    [0xd800 + (c.val - 0x10000) / 0x400, 0xdc00 + (c.val - 0x10000) % 0x400] := if_neg h

theorem lt_of_mem_utf16Units {c : CodePoint} {unit : Nat} (h : unit ∈ utf16Units c) :
    unit < 0x10000 := by
  have hc := c.val_lt
  unfold utf16Units at h
  split at h
  · obtain rfl := List.mem_singleton.1 h
    assumption
  · simp only [List.mem_cons, List.not_mem_nil, or_false] at h
    omega

end Java

namespace Text

open Java (utf16Units utf16Units_of_lt utf16Units_of_not_lt)

@[simp] theorem utf16_cons (c : CodePoint) (t : Text) : utf16 (c :: t) = utf16Units c ++ utf16 t :=
  List.flatMap_cons

theorem utf16_cons_ne_nil (c : CodePoint) (t : Text) : utf16 (c :: t) ≠ [] := by
  rw [utf16_cons]
  unfold utf16Units
  split <;> simp

/-- After a high surrogate no text goes on with the unit of a low one. -/
theorem utf16_ne_low_cons {c : CodePoint} {t : Text} (h : NoSplitPair (c :: t))
    (hc : c.IsHighSurrogate) {low : Nat} (hlow : 0xdc00 ≤ low ∧ low < 0xe000) (rest : List Nat) :
    utf16 t ≠ low :: rest := by
  intro heq
  cases t with
  | nil => cases heq
  | cons d t =>
    have hpair := (List.isChain_cons_cons.1 h).1
    rw [utf16_cons] at heq
    by_cases hd : d.val < 0x10000
    · rw [utf16Units_of_lt hd] at heq
      obtain ⟨rfl, -⟩ := List.cons.inj heq
      exact hpair ⟨hc, hlow⟩
    · rw [utf16Units_of_not_lt hd] at heq
      have hhigh := (List.cons.inj heq).1
      have hlt := d.val_lt
      omega

/-- A code point of two units is not taken apart by a text in which no pair is split. -/
theorem utf16_cons_ne_utf16_cons {c d : CodePoint} {t u : Text} (h : NoSplitPair (c :: t))
    (hc : c.val < 0x10000) (hd : ¬d.val < 0x10000) : utf16 (c :: t) ≠ utf16 (d :: u) := by
  intro heq
  have hlt := d.val_lt
  rw [utf16_cons, utf16_cons, utf16Units_of_lt hc, utf16Units_of_not_lt hd] at heq
  obtain ⟨hhigh, hrest⟩ := List.cons.inj heq
  have hsurrogate : c.IsHighSurrogate := ⟨by omega, by omega⟩
  exact utf16_ne_low_cons h hsurrogate ⟨by omega, by omega⟩ _ hrest

/-- Texts in which no pair is split are told apart by their units. -/
theorem NoSplitPair.eq_of_utf16 {t u : Text} (ht : t.NoSplitPair) (hu : u.NoSplitPair)
    (h : t.utf16 = u.utf16) : t = u := by
  induction t generalizing u with
  | nil =>
    cases u with
    | nil => rfl
    | cons d u => exact absurd h.symm (utf16_cons_ne_nil d u)
  | cons c t ih =>
    cases u with
    | nil => exact absurd h (utf16_cons_ne_nil c t)
    | cons d u =>
      have hrest : utf16 t = utf16 u → t = u := ih (List.IsChain.tail ht) (List.IsChain.tail hu)
      by_cases hc : c.val < 0x10000 <;> by_cases hd : d.val < 0x10000
      · rw [utf16_cons, utf16_cons, utf16Units_of_lt hc, utf16Units_of_lt hd] at h
        obtain ⟨hval, htail⟩ := List.cons.inj h
        rw [hrest htail, CodePoint.eq_of_val_eq hval]
      · exact absurd h (utf16_cons_ne_utf16_cons ht hc hd)
      · exact absurd h.symm (utf16_cons_ne_utf16_cons hu hd hc)
      · rw [utf16_cons, utf16_cons, utf16Units_of_not_lt hc, utf16Units_of_not_lt hd] at h
        obtain ⟨hhigh, hlows⟩ := List.cons.inj h
        obtain ⟨hlow, htail⟩ := List.cons.inj hlows
        rw [hrest htail, CodePoint.eq_of_val_eq (show c.val = d.val by omega)]

end Text

/-! ## Escapes -/

theorem Text.hexFixed_succ_inj {width m n : Nat}
    (h : hexFixed (width + 1) m = hexFixed (width + 1) n) :
    hexFixed width (m / 16) = hexFixed width (n / 16) ∧ m % 16 = n % 16 := by
  have hdigit : ∀ a, a < 16 → ∀ b, b < 16 → hexDigit a = hexDigit b → a = b := by decide
  rw [hexFixed, hexFixed] at h
  obtain ⟨hinit, hlast⟩ := List.append_inj' h rfl
  exact ⟨hinit, hdigit _ (Nat.mod_lt m (by decide)) _ (Nat.mod_lt n (by decide))
    (List.cons.inj hlast).1⟩

/-- Four digits tell the units of UTF-16 apart. -/
theorem Text.eq_of_hexFixed_eq {m n : Nat} (hm : m < 0x10000) (hn : n < 0x10000)
    (h : hexFixed 4 m = hexFixed 4 n) : m = n := by
  obtain ⟨h, hfirst⟩ := hexFixed_succ_inj h
  obtain ⟨h, hsecond⟩ := hexFixed_succ_inj h
  obtain ⟨h, hthird⟩ := hexFixed_succ_inj h
  obtain ⟨-, hfourth⟩ := hexFixed_succ_inj h
  omega

namespace Java

/-- The characters that have an escape of their own, each with the letter of its escape. -/
def shortEscapes : List (CodePoint × CodePoint) :=
  [('"', '"'), ('\\', '\\'), ('\n', 'n'), ('\r', 'r'), ('\t', 't'), ('\x0c', 'f'), ('\x08', 'b')]

theorem escapeChar_of_mem :
    ∀ p ∈ shortEscapes, escapeChar p.1 = [('\\' : CodePoint), p.2] := by
  decide

/-- All other characters are written as themselves if they are printable, or else by their units. -/
theorem escapeChar_of_not_mem {c : CodePoint} (h : c ∉ shortEscapes.map (·.1)) : escapeChar c =
    if 0x20 ≤ c.val ∧ c.val < 0x7f then [c] else (utf16Units c).flatMap unitEscape := by
  simp only [shortEscapes, List.map_cons, List.map_nil, List.mem_cons, List.not_mem_nil, or_false,
    not_or] at h
  simp [escapeChar, h]

/-- How a code point of one unit is written: by a short escape, as itself or by its unit. -/
theorem escapeChar_cases {c : CodePoint} (h : c.val < 0x10000) :
    (∃ letter, (c, letter) ∈ shortEscapes ∧ escapeChar c = [('\\' : CodePoint), letter]) ∨
      c ≠ ('\\' : CodePoint) ∧ escapeChar c = [c] ∨
      escapeChar c = ('\\' : CodePoint) :: ('u' : CodePoint) :: Text.hexFixed 4 c.val := by
  by_cases hshort : c ∈ shortEscapes.map (·.1)
  · obtain ⟨⟨d, letter⟩, hp, rfl⟩ := List.mem_map.1 hshort
    exact .inl ⟨letter, hp, escapeChar_of_mem _ hp⟩
  · rw [escapeChar_of_not_mem hshort]
    split
    · refine .inr (.inl ⟨?_, rfl⟩)
      rintro rfl
      exact hshort (by decide)
    · rw [utf16Units_of_lt h]
      exact .inr (.inr rfl)

/-- No escape of a code point of one unit is the beginning of another one. -/
theorem escapeChar_append_inj {c d : CodePoint} {r s : Text} (hc : c.val < 0x10000)
    (hd : d.val < 0x10000) (h : escapeChar c ++ r = escapeChar d ++ s) : c = d ∧ r = s := by
  have hinj : ∀ p ∈ shortEscapes, ∀ q ∈ shortEscapes, p.2 = q.2 → p.1 = q.1 := by decide
  have hu : ∀ p ∈ shortEscapes, p.2 ≠ ('u' : CodePoint) := by decide
  rcases escapeChar_cases hc with ⟨x, hx, hcx⟩ | ⟨hne, hcx⟩ | hcx <;>
    rcases escapeChar_cases hd with ⟨y, hy, hdy⟩ | ⟨hne', hdy⟩ | hdy <;>
    rw [hcx, hdy] at h <;> obtain ⟨hhead, htail⟩ := List.cons.inj h
  · obtain ⟨hletter, hrest⟩ := List.cons.inj htail
    exact ⟨hinj _ hx _ hy hletter, hrest⟩
  · exact absurd hhead.symm hne'
  · exact absurd (List.cons.inj htail).1 (hu _ hx)
  · exact absurd hhead hne
  · exact ⟨hhead, htail⟩
  · exact absurd hhead hne
  · exact absurd (List.cons.inj htail).1.symm (hu _ hy)
  · exact absurd hhead.symm hne'
  · have hlength := (Text.length_hexFixed 4 c.val).trans (Text.length_hexFixed 4 d.val).symm
    obtain ⟨hhex, hrest⟩ := List.append_inj (List.cons.inj htail).2 hlength
    exact ⟨CodePoint.eq_of_val_eq (Text.eq_of_hexFixed_eq hc hd hhex), hrest⟩

/-- The escape of the code point that has the number of a unit. -/
def unitText (unit : Nat) : Text := (CodePoint.ofNat? unit).elim [] escapeChar

@[simp] theorem unitText_val (c : CodePoint) : unitText c.val = escapeChar c := by
  rw [unitText, CodePoint.ofNat?, dif_pos c.val_lt]
  rfl

theorem unitText_ne_nil {unit : Nat} (h : unit < 0x10000) : unitText unit ≠ [] := by
  obtain ⟨c, rfl⟩ : ∃ c : CodePoint, c.val = unit := ⟨⟨unit, by omega⟩, rfl⟩
  rw [unitText_val]
  rcases escapeChar_cases h with ⟨_, -, hc⟩ | ⟨-, hc⟩ | hc <;> simp [hc]

theorem escapeChar_of_le {c : CodePoint} (h : 0x7f ≤ c.val) :
    escapeChar c = (utf16Units c).flatMap unitEscape := by
  have hprintable : ∀ d ∈ shortEscapes.map (·.1), d.val < 0x7f := by decide
  rw [escapeChar_of_not_mem fun hshort => absurd (hprintable c hshort) (by omega)]
  exact if_neg (by omega)

/-- A literal is written unit by unit. -/
theorem escapeChar_eq_flatMap (c : CodePoint) :
    escapeChar c = (utf16Units c).flatMap unitText := by
  by_cases h : c.val < 0x10000
  · rw [utf16Units_of_lt h, List.flatMap_singleton, unitText_val]
  · rw [escapeChar_of_le (by omega)]
    refine List.flatMap_congr fun unit hunit => ?_
    have hlt := lt_of_mem_utf16Units hunit
    rw [utf16Units_of_not_lt h, List.mem_cons, List.mem_singleton] at hunit
    -- The units of such a code point are surrogates, which are written by their units.
    obtain ⟨d, rfl⟩ : ∃ d : CodePoint, d.val = unit := ⟨⟨unit, by omega⟩, rfl⟩
    rw [unitText_val, escapeChar_of_le (by omega), utf16Units_of_lt hlt, List.flatMap_singleton]

theorem flatMap_unitText_inj {us vs : List Nat} (hu : ∀ u ∈ us, u < 0x10000)
    (hv : ∀ v ∈ vs, v < 0x10000) (h : us.flatMap unitText = vs.flatMap unitText) : us = vs := by
  induction us generalizing vs with
  | nil =>
    cases vs with
    | nil => rfl
    | cons v vs =>
      rw [List.flatMap_nil, List.flatMap_cons] at h
      exact absurd (List.append_eq_nil_iff.1 h.symm).1 (unitText_ne_nil (hv v List.mem_cons_self))
  | cons u us ih =>
    cases vs with
    | nil =>
      rw [List.flatMap_nil, List.flatMap_cons] at h
      exact absurd (List.append_eq_nil_iff.1 h).1 (unitText_ne_nil (hu u List.mem_cons_self))
    | cons v vs =>
      obtain ⟨hu, hus⟩ := List.forall_mem_cons.1 hu
      obtain ⟨hv, hvs⟩ := List.forall_mem_cons.1 hv
      obtain ⟨c, rfl⟩ : ∃ c : CodePoint, c.val = u := ⟨⟨u, by omega⟩, rfl⟩
      obtain ⟨d, rfl⟩ : ∃ d : CodePoint, d.val = v := ⟨⟨v, by omega⟩, rfl⟩
      rw [List.flatMap_cons, List.flatMap_cons, unitText_val, unitText_val] at h
      obtain ⟨rfl, hrest⟩ := escapeChar_append_inj hu hv h
      rw [ih hus hvs hrest]

/-- The units of a text can be read off its literal. -/
theorem utf16_eq_of_stringLiteral_eq {t u : Text} (h : stringLiteral t = stringLiteral u) :
    t.utf16 = u.utf16 := by
  have hunits (t : Text) : t.flatMap escapeChar = t.utf16.flatMap unitText := by
    rw [Text.utf16, List.flatMap_assoc]
    exact List.flatMap_congr fun c _ => escapeChar_eq_flatMap c
  have hlt (t : Text) : ∀ unit ∈ t.utf16, unit < 0x10000 := fun unit hunit => by
    obtain ⟨c, -, hc⟩ := List.mem_flatMap.1 hunit
    exact lt_of_mem_utf16Units hc
  have hbody : t.flatMap escapeChar = u.flatMap escapeChar :=
    List.append_cancel_left (List.append_cancel_right h)
  rw [hunits, hunits] at hbody
  exact flatMap_unitText_inj (hlt t) (hlt u) hbody

end Java

/-- Two texts have the same units, and they are the same one unless a pair is split in one. -/
structure Text.SameLiteral (t u : Text) : Prop where
  utf16 : t.utf16 = u.utf16
  eq : t.NoSplitPair → u.NoSplitPair → t = u

theorem Text.SameLiteral.refl (t : Text) : t.SameLiteral t := ⟨rfl, fun _ _ => rfl⟩

theorem Java.sameLiteral_of_stringLiteral_eq {t u : Text}
    (h : stringLiteral t = stringLiteral u) : t.SameLiteral u :=
  ⟨utf16_eq_of_stringLiteral_eq h, fun ht hu => ht.eq_of_utf16 hu (utf16_eq_of_stringLiteral_eq h)⟩

end KubeJava
