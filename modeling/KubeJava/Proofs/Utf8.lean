import KubeJava.Text.Utf8

set_option autoImplicit false

/-! # What is decoded

Bytes that are decoded to the end are the encoding of the characters that they gave. A first byte
fixes how its character goes on, so it is enough to look once, at the first byte, whether every way
on that the ranges admit is the encoding of the character that results. -/

namespace KubeJava.Text.Utf8

/-! ## Encoded characters -/

theorem val_ofNat {n : Nat} (h : n.isValidChar) : (Char.ofNat n).val.toNat = n := by
  rw [Char.ofNat, dif_pos h]
  rfl

theorem ofNat_eq {n : Nat} {b : UInt8} (h : n = b.toNat) : UInt8.ofNat n = b := by
  rw [h, UInt8.ofNat_toNat]

theorem encode_one {b : UInt8} (h : b.toNat < 0x80) :
    String.utf8EncodeChar (Char.ofNat b.toNat) = [b] := by
  rw [String.utf8EncodeChar, val_ofNat (.inl (by omega))]
  exact (if_pos (by omega)).trans (by rw [UInt8.ofNat_toNat])

theorem encode_two {n : Nat} {b c : UInt8} (hn : 0x80 ≤ n) (hn' : n < 0x800)
    (hb : b.toNat = 0xc0 + n / 64) (hc : c.toNat = 0x80 + n % 64) :
    String.utf8EncodeChar (Char.ofNat n) = [b, c] := by
  rw [String.utf8EncodeChar, val_ofNat (.inl (by omega)), if_neg (by omega), if_pos (by omega),
    ofNat_eq (b := b) (by omega), ofNat_eq (b := c) (by omega)]

theorem encode_three {n : Nat} {b c d : UInt8} (hn : 0x800 ≤ n) (hn' : n < 0x10000)
    (hvalid : n.isValidChar) (hb : b.toNat = 0xe0 + n / 4096)
    (hc : c.toNat = 0x80 + n / 64 % 64) (hd : d.toNat = 0x80 + n % 64) :
    String.utf8EncodeChar (Char.ofNat n) = [b, c, d] := by
  rw [String.utf8EncodeChar, val_ofNat hvalid, if_neg (by omega), if_neg (by omega),
    if_pos (by omega), ofNat_eq (b := b) (by omega), ofNat_eq (b := c) (by omega),
    ofNat_eq (b := d) (by omega)]

theorem encode_four {n : Nat} {b c d e : UInt8} (hn : 0x10000 ≤ n) (hn' : n < 0x110000)
    (hb : b.toNat = 0xf0 + n / 262144) (hc : c.toNat = 0x80 + n / 4096 % 64)
    (hd : d.toNat = 0x80 + n / 64 % 64) (he : e.toNat = 0x80 + n % 64) :
    String.utf8EncodeChar (Char.ofNat n) = [b, c, d, e] := by
  rw [String.utf8EncodeChar, val_ofNat (.inr (by omega)), if_neg (by omega), if_neg (by omega),
    if_neg (by omega), ofNat_eq (b := b) (by omega), ofNat_eq (b := c) (by omega),
    ofNat_eq (b := d) (by omega), ofNat_eq (b := e) (by omega)]

/-! ## Unfinished characters -/

/-- However the bytes so far go on with as many as are owed, the first of them between two bounds,
they are the encoding of the character that results. -/
def Spells : (owed bits least greatest : Nat) → List UInt8 → Prop
  | 0, bits, _, _, bytes => String.utf8EncodeChar (Char.ofNat bits) = bytes
  | owed + 1, bits, least, greatest, bytes => ∀ b : UInt8, least ≤ b.toNat → b.toNat ≤ greatest →
      Spells owed (bits * 64 + (b.toNat - 0x80)) 0x80 0xbf (bytes ++ [b])

/-- The bytes are the beginning of a character, with at least one byte owed. -/
structure Unfinished.After (u : Unfinished) (bytes : List UInt8) : Prop where
  begun : bytes ≠ []
  owes : u.owed ≠ 0
  spells : Spells u.owed u.bits u.least u.greatest bytes

namespace Unfinished

variable {b : UInt8} {bits least greatest : Nat}

theorem after_two (hb : 0xc2 ≤ b.toNat ∧ b.toNat < 0xe0) :
    Unfinished.After { bits := b.toNat - 0xc0, owed := 1 } [b] := by
  refine ⟨List.cons_ne_nil b [], Nat.one_ne_zero, ?_⟩
  simp only [Spells, List.cons_append, List.nil_append]
  intro c hc hc'
  exact encode_two (by omega) (by omega) (by omega) (by omega)

theorem after_three (hb : b.toNat = 0xe0 + bits ∧ b.toNat < 0xf0)
    (hrange : 0x80 ≤ least ∧ greatest ≤ 0xbf) (hlong : bits = 0 → 0xa0 ≤ least)
    (hsurrogate : bits = 0xd → greatest ≤ 0x9f) :
    Unfinished.After { bits, owed := 2, least, greatest } [b] := by
  refine ⟨List.cons_ne_nil b [], Nat.succ_ne_zero 1, ?_⟩
  simp only [Spells, List.cons_append, List.nil_append]
  intro c hc hc' d hd hd'
  have hvalid : Nat.isValidChar ((bits * 64 + (c.toNat - 0x80)) * 64 + (d.toNat - 0x80)) := by
    unfold Nat.isValidChar
    omega
  exact encode_three (by omega) (by omega) hvalid (by omega) (by omega) (by omega)

theorem after_four (hb : b.toNat = 0xf0 + bits ∧ b.toNat ≤ 0xf4)
    (hrange : 0x80 ≤ least ∧ greatest ≤ 0xbf) (hlong : bits = 0 → 0x90 ≤ least)
    (hlarge : bits = 4 → greatest ≤ 0x8f) :
    Unfinished.After { bits, owed := 3, least, greatest } [b] := by
  refine ⟨List.cons_ne_nil b [], Nat.succ_ne_zero 2, ?_⟩
  simp only [Spells, List.cons_append, List.nil_append]
  intro c hc hc' d hd hd' e he he'
  exact encode_four (by omega) (by omega) (by omega) (by omega) (by omega) (by omega)

end Unfinished

/-- What a first byte begins is spelled by whatever may follow it. -/
theorem after_of_begin? {b : UInt8} {u : Unfinished} (h : begin? b.toNat = some u) :
    u.After [b] := by
  unfold begin? at h
  split at h
  · cases h
  split at h
  · exact Option.some.inj h ▸ Unfinished.after_two (by omega)
  split at h
  · exact Option.some.inj h ▸ Unfinished.after_three (by omega) (by omega) (by omega) (by omega)
  split at h
  · exact Option.some.inj h ▸ Unfinished.after_three (by omega) (by omega) (by omega) (by omega)
  split at h
  · exact Option.some.inj h ▸ Unfinished.after_three (by omega) (by omega) (by omega) (by omega)
  split at h
  · exact Option.some.inj h ▸ Unfinished.after_four (by omega) (by omega) (by omega) (by omega)
  split at h
  · exact Option.some.inj h ▸ Unfinished.after_four (by omega) (by omega) (by omega) (by omega)
  split at h
  · exact Option.some.inj h ▸ Unfinished.after_four (by omega) (by omega) (by omega) (by omega)
  · cases h

/-! ## Decoded bytes -/

/-- The bytes are the encoding of the decoded characters and the beginning of the unfinished one. -/
def Decoded.Reads (d : Decoded) (bytes : List UInt8) : Prop :=
  ∃ pending, bytes = d.reversed.reverse.flatMap String.utf8EncodeChar ++ pending ∧
    (d.unfinished = none → pending = []) ∧ ∀ u, d.unfinished = some u → u.After pending

theorem reads_push {d d' : Decoded} {bytes : List UInt8} {b : UInt8} (h : d.Reads bytes)
    (hpush : d.push b = some d') : d'.Reads (bytes ++ [b]) := by
  obtain ⟨pending, rfl, hnone, hsome⟩ := h
  -- A finished character is the next one decoded.
  have finish : ∀ c, String.utf8EncodeChar c = pending ++ [b] →
      Decoded.Reads { reversed := c :: d.reversed }
        (d.reversed.reverse.flatMap String.utf8EncodeChar ++ pending ++ [b]) := by
    intro c hc
    refine ⟨[], ?_, fun _ => rfl, fun u hu => by cases hu⟩
    simp [hc]
  unfold Decoded.push at hpush
  dsimp only at hpush
  split at hpush
  · next hunfinished =>
    obtain rfl := hnone hunfinished
    split at hpush
    · next hascii =>
      obtain rfl := Option.some.inj hpush
      rw [hunfinished]
      exact finish _ (encode_one hascii)
    · obtain ⟨u, hu, rfl⟩ := Option.map_eq_some_iff.1 hpush
      refine ⟨[b], by simp, nofun, fun v hv => ?_⟩
      exact Option.some.inj hv ▸ after_of_begin? hu
  · next u hunfinished =>
    obtain ⟨hbegun, howes, hspells⟩ := hsome u hunfinished
    split at hpush
    · cases hpush
    next hrange =>
    simp only [Bool.or_eq_true, decide_eq_true_eq, not_or, Nat.not_lt] at hrange
    obtain ⟨owed, howed⟩ := Nat.exists_eq_succ_of_ne_zero howes
    rw [howed] at hspells hpush
    have hnext := hspells b hrange.1 hrange.2
    split at hpush
    · next hlast =>
      obtain rfl : owed = 0 := by omega
      obtain rfl := Option.some.inj hpush
      exact finish _ hnext
    · next hmore =>
      obtain rfl := Option.some.inj hpush
      refine ⟨pending ++ [b], by simp, nofun, fun v hv => ?_⟩
      obtain rfl := Option.some.inj hv
      exact ⟨by simp, by simp only; omega, hnext⟩

theorem reads_foldlM {d d' : Decoded} {before bytes : List UInt8} (h : d.Reads before)
    (hfold : bytes.foldlM Decoded.push d = some d') : d'.Reads (before ++ bytes) := by
  induction bytes generalizing d before with
  | nil =>
    obtain rfl := Option.some.inj hfold
    rwa [List.append_nil]
  | cons b rest ih =>
    rw [List.foldlM_cons] at hfold
    obtain ⟨d₁, hpush, hrest⟩ := Option.bind_eq_some_iff.1 hfold
    rw [List.append_cons]
    exact ih (reads_push h hpush) hrest

/-- A piece of a text is the encoding of its characters, with the beginning of one more after them
if one is unfinished. -/
theorem decodePiece_eq_some {bytes : List UInt8} {cs : List Char} {u : Option Unfinished}
    (h : decodePiece none bytes = some (cs, u)) :
    ∃ pending, bytes = cs.flatMap String.utf8EncodeChar ++ pending ∧
      (u = none → pending = []) ∧ ∀ v, u = some v → v.After pending := by
  obtain ⟨d, hfold, hd⟩ := Option.bind_eq_some_iff.1 h
  obtain ⟨rfl, rfl⟩ := Prod.mk.inj (Option.some.inj hd)
  have hempty : Decoded.Reads {} [] := ⟨[], rfl, fun _ => rfl, fun u hu => by cases hu⟩
  exact reads_foldlM hempty hfold

theorem length_le_length_encoded (cs : List Char) :
    cs.length ≤ (cs.flatMap String.utf8EncodeChar).length := by
  induction cs with
  | nil => exact Nat.le_refl 0
  | cons c cs ih =>
    have hc := c.utf8Size_pos
    rw [List.flatMap_cons, List.length_append, String.length_utf8EncodeChar, List.length_cons]
    omega

/-! ## Byte arrays -/

theorem toList_loop_eq (bytes : ByteArray) (i : Nat) (read : List UInt8) :
    ByteArray.toList.loop bytes i read = read.reverse ++ bytes.data.toList.drop i := by
  fun_induction ByteArray.toList.loop bytes i read with
  | case1 i read hi ih =>
    have hlength : i < bytes.data.toList.length := by simpa using hi
    have hget : bytes.data.toList[i] = bytes.get! i := by
      rw [ByteArray.get!, getElem!_pos bytes.data i hi, Array.getElem_toList]
    rw [ih, List.drop_eq_getElem_cons hlength, hget]
    simp
  | case2 i read hi =>
    have hdrop : bytes.data.toList.drop i = [] := List.drop_eq_nil_of_le (by simpa using hi)
    rw [hdrop, List.append_nil]

@[simp] theorem toList_eq (bytes : ByteArray) : bytes.toList = bytes.data.toList := by
  rw [ByteArray.toList, toList_loop_eq]
  simp

theorem length_toList (bytes : ByteArray) : bytes.toList.length = bytes.size := by
  rw [toList_eq, Array.length_toList]
  rfl

/-- Bytes that are decoded to the end are UTF-8. -/
theorem isValidUTF8_of_decodePiece {bytes : ByteArray} {cs : List Char}
    (h : decodePiece none bytes.toList = some (cs, none)) : bytes.IsValidUTF8 := by
  obtain ⟨pending, hencoded, hpending, -⟩ := decodePiece_eq_some h
  rw [hpending rfl, List.append_nil, toList_eq] at hencoded
  refine ⟨cs, ByteArray.ext ?_⟩
  rw [List.utf8Encode, ← hencoded, List.data_toByteArray]

end KubeJava.Text.Utf8
