import KubeJava.Text.Lines

set_option autoImplicit false

/-! # Java identifiers

The check that every generated name has to pass. A name is accepted when it starts with an ASCII
letter, `_` or `$`, goes on with those and digits, and is no keyword; one line feed after it is
tolerated. -/

namespace KubeJava.Java

def isAsciiLetter (c : CodePoint) : Bool := ('a' ≤ c && c ≤ 'z') || ('A' ≤ c && c ≤ 'Z')

def isAsciiDigit (c : CodePoint) : Bool := '0' ≤ c && c ≤ '9'

/-- A letter or digit of ASCII: the characters that words of a name are made of. -/
def isWordChar (c : CodePoint) : Bool := isAsciiLetter c || isAsciiDigit c

def isIdentifierStart (c : CodePoint) : Bool := isAsciiLetter c || c == '_' || c == '$'

def isIdentifierPart (c : CodePoint) : Bool := isIdentifierStart c || isAsciiDigit c

/-- The words that Java reserves, and the lone underscore. -/
def keywords : List Text :=
  ["abstract", "assert", "boolean", "break", "byte", "case", "catch", "char", "class", "const",
    "continue", "default", "do", "double", "else", "enum", "extends", "false", "final",
    "finally", "float", "for", "goto", "if", "implements", "import", "instanceof", "int",
    "interface", "long", "native", "new", "null", "package", "private", "protected", "public",
    "return", "short", "static", "strictfp", "super", "switch", "synchronized", "this", "throw",
    "throws", "transient", "true", "try", "void", "volatile", "while", "_"].map Text.ofString

def isKeyword (name : Text) : Bool := keywords.contains name

/-- The form of an identifier, from the first to the last character. -/
def hasIdentifierForm : Text → Bool
  | [] => false
  | c :: rest => isIdentifierStart c && rest.all isIdentifierPart

/-- Whether a name passes as an identifier. -/
def isIdentifier (name : Text) : Bool :=
  hasIdentifierForm name.dropFinalLineFeed && !isKeyword name

end KubeJava.Java
