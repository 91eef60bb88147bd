import KubeJava.Text.Basic

set_option autoImplicit false

/-! # Tokens

The parts that YAML text is made of: content, indicators, and the starts and ends of block
collections that follow from indentation. -/

namespace KubeJava.Yaml

inductive Directive where
  | version (major : Nat)
  | tag (handle leader : String)
  | other
  deriving DecidableEq, Repr

inductive Token where
  | streamEnd
  | directive (d : Directive)
  | documentStart
  | documentEnd
  | blockSequenceStart
  | blockMappingStart
  | blockEnd
  | flowSequenceStart
  | flowSequenceEnd
  | flowMappingStart
  | flowMappingEnd
  | key
  | value
  | blockEntry
  | flowEntry
  | alias (name : String)
  | anchor (name : String)
  /-- A tag: a handle and what follows it, or a whole tag without handle. -/
  | tag (handle : Option String) (suffix : String)
  /-- A scalar; a plain one is written without quotes and on no block of its own. -/
  | scalar (text : Text) (plain : Bool)
  deriving DecidableEq, Repr

end KubeJava.Yaml
