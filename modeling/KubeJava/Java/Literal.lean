import KubeJava.Text.Hex

set_option autoImplicit false

/-! # Java string literals

A literal is plain ASCII: quotes, backslashes and the usual controls have short escapes, and all
other code points outside the printable characters of ASCII are written as UTF-16 units, of which a
surrogate is one. -/

namespace KubeJava.Java

/-- The UTF-16 units of a code point. -/
def utf16Units (c : CodePoint) : List Nat :=
  if c.val < 0x10000 then [c.val]
  else [0xd800 + (c.val - 0x10000) / 0x400, 0xdc00 + (c.val - 0x10000) % 0x400]

def unitEscape (unit : Nat) : Text := "\\u" ++ Text.hexFixed 4 unit

def escapeChar (c : CodePoint) : Text :=
  if c = '"' then "\\\""
  else if c = '\\' then "\\\\"
  else if c = '\n' then "\\n"
  else if c = '\r' then "\\r"
  else if c = '\t' then "\\t"
  else if c = '\x0c' then "\\f"
  else if c = '\x08' then "\\b"
  else if 0x20 ≤ c.val ∧ c.val < 0x7f then [c]
  else (utf16Units c).flatMap unitEscape

/-- The literal that denotes a text. -/
def stringLiteral (t : Text) : Text := "\"" ++ t.flatMap escapeChar ++ "\""

end KubeJava.Java
