set_option autoImplicit false

/-! # Text

A text is a list of Unicode code points. Escapes may write a surrogate on its own, which is a code
point without being a character, so a text can hold more than a string: it has an encoding exactly
if no surrogate occurs in it. Character and string literals stand for the texts that they spell. -/

namespace KubeJava

/-- A Unicode code point, the surrogates included. -/
structure CodePoint where
  val : Nat
  val_lt : val < 0x110000
  deriving DecidableEq, Repr

abbrev Text := List CodePoint

namespace CodePoint

theorem toNat_lt (c : Char) : c.toNat < 0x110000 := by
  have := c.valid
  simp only [UInt32.isValidChar, Nat.isValidChar] at this
  simp only [Char.toNat]
  omega

def ofChar (c : Char) : CodePoint := ⟨c.toNat, toNat_lt c⟩

instance : Coe Char CodePoint := ⟨ofChar⟩

instance : Inhabited CodePoint := ⟨'\x00'⟩

instance : LE CodePoint := ⟨fun a b => a.val ≤ b.val⟩

instance (a b : CodePoint) : Decidable (a ≤ b) := inferInstanceAs (Decidable (a.val ≤ b.val))

/-- The code point with a number, if there is one. -/
def ofNat? (n : Nat) : Option CodePoint := if h : n < 0x110000 then some ⟨n, h⟩ else none

/-- The code points that no character has. -/
def isSurrogate (c : CodePoint) : Bool := 0xd800 ≤ c.val && c.val < 0xe000

/-- The number of bytes of a code point in UTF-8. -/
def utf8Width (c : CodePoint) : Nat :=
  if c.val < 0x80 then 1 else if c.val < 0x800 then 2 else if c.val < 0x10000 then 3 else 4

def toChar? (c : CodePoint) : Option Char :=
  if h : c.val.isValidChar then some (Char.ofNatAux c.val h) else none

@[simp] theorem toChar?_ofChar (c : Char) : (ofChar c).toChar? = some c := by
  have h : c.toNat.isValidChar := c.valid
  rw [toChar?, dif_pos (show (ofChar c).val.isValidChar from h)]
  rfl

end CodePoint

namespace Text

def ofChars (cs : List Char) : Text := cs.map .ofChar

def ofString (s : String) : Text := ofChars s.toList

instance : Coe String Text := ⟨ofString⟩

/-- The characters of a text without surrogates. -/
def chars? (t : Text) : Option (List Char) := t.mapM CodePoint.toChar?

/-- The string that a text without surrogates is. -/
def toString? (t : Text) : Option String := t.chars?.map String.ofList

def hasSurrogate (t : Text) : Bool := t.any CodePoint.isSurrogate

/-- The text with three replacement characters in the place of each surrogate. -/
def replaceSurrogates (t : Text) : Text :=
  t.flatMap fun c => if c.isSurrogate then List.replicate 3 '\ufffd' else [c]

/-- The order of texts by code points. -/
def le : Text → Text → Bool
  | [], _ => true
  | _ :: _, [] => false
  | c :: t, d :: u => c.val < d.val || (c.val = d.val && le t u)

@[simp] theorem chars?_ofChars (cs : List Char) : chars? (ofChars cs) = some cs := by
  induction cs with
  | nil => rfl
  | cons c cs ih =>
    simp only [chars?, ofChars] at ih
    simp [chars?, ofChars, ih]

@[simp] theorem toString?_ofString (s : String) : toString? (ofString s) = some s := by
  simp [toString?, ofString]

end Text

end KubeJava
