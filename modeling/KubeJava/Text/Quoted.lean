import KubeJava.Text.Hex
import KubeJava.Text.Printable

set_option autoImplicit false

/-! # Quoted text in messages

Messages show a text between single quotes, or between double quotes when it holds a single quote
and no double one. The quote, backslashes, line feeds, carriage returns and tabs are escaped, and
every code point that is not printable is given by its number. -/

namespace KubeJava.Text

def quoteFor (t : Text) : CodePoint := if t.contains '\'' && !t.contains '"' then '"' else '\''

/-- A code point by its number, in the shortest of three fixed widths. -/
def codePointEscape (c : CodePoint) : Text :=
  if c.val < 0x100 then "\\x" ++ hexFixed 2 c.val
  else if c.val < 0x10000 then "\\u" ++ hexFixed 4 c.val
  else "\\U" ++ hexFixed 8 c.val

def escapeIn (quote c : CodePoint) : Text :=
  if c = quote ∨ c = '\\' then ['\\', c]
  else if c = '\n' then "\\n"
  else if c = '\r' then "\\r"
  else if c = '\t' then "\\t"
  else if isPrintable c then [c]
  else codePointEscape c

def quoted (t : Text) : Text :=
  let quote := quoteFor t
  quote :: t.flatMap (escapeIn quote) ++ [quote]

/-! ## Bytes -/

/-- A byte inside quoted bytes: printable ASCII as itself, all else by its value. -/
def escapeByte (quote : CodePoint) (b : UInt8) : Text :=
  let c : CodePoint := Char.ofNat b.toNat
  if c = quote ∨ c = '\\' then ['\\', c]
  else if c = '\n' then "\\n"
  else if c = '\r' then "\\r"
  else if c = '\t' then "\\t"
  else if 32 ≤ b.toNat ∧ b.toNat < 127 then [c]
  else "\\x" ++ hexFixed 2 b.toNat

def quotedBytes (bs : List UInt8) : Text :=
  let quote := quoteFor (bs.map fun b => (Char.ofNat b.toNat : CodePoint))
  "b" ++ quote :: bs.flatMap (escapeByte quote) ++ [quote]

end KubeJava.Text
