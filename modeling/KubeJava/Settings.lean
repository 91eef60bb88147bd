import KubeJava.Text.Case
import KubeJava.Validation

set_option autoImplicit false

/-! # Settings

The naming and casing policy that a whole generation shares. Options that are not known here are
kept as they are, so that newer settings files stay readable. -/

namespace KubeJava

/-- Where a prefix or suffix is added to the names of generated types. -/
inductive AffixPolicy where
  | never
  | topLevel
  | always
  deriving DecidableEq, Repr

/-- Whether an affix is added to a type, by whether it is a top-level one. -/
def AffixPolicy.applies (p : AffixPolicy) (isTop : Bool) : Bool :=
  match p with
  | .never => false
  | .topLevel => isTop
  | .always => true

def AffixPolicy.word : AffixPolicy → Text
  | .never => "never"
  | .topLevel => "top_level"
  | .always => "always"

def AffixPolicy.all : List AffixPolicy := [.never, .topLevel, .always]

def AffixPolicy.ofWord? (t : Text) : Option AffixPolicy := all.find? fun p => p.word = t

@[simp] theorem AffixPolicy.ofWord?_word (p : AffixPolicy) : ofWord? p.word = some p := by
  cases p <;> decide

structure Settings where
  enumUppercase : Bool := true
  prefixPolicy : AffixPolicy := .topLevel
  suffixPolicy : AffixPolicy := .topLevel
  suffix : Text := ""
  extra : List (Text × Document) := []

namespace Settings

/-- The value of an option that has no field of its own. -/
def option (s : Settings) (name : Text) (default : Document) : Document :=
  (s.extra.lookup name).getD default

/-! ## Reading -/

def ofPolicyWord (t : Text) : Checked AffixPolicy :=
  match AffixPolicy.ofWord? t with
  | some p => .valid p
  | none => .fault .enumError

/-- A policy; text may be in any case, bytes have to spell the word itself. -/
def readPolicy : Document → Checked AffixPolicy
  | .str t =>
    let word := t.lower
    if word.hasSurrogate then .fault .stringUnicode else ofPolicyWord word
  | .bytes bs => ofPolicyWord ((Document.textOfBytes? bs).getD [])
  | _ => .fault .enumError

def fieldNames : List (List Text) :=
  [["enum_uppercase"], ["prefix_policy"], ["suffix_policy"], ["suffix"]]

def readFields (m : Mapping) : Checked Settings :=
  Settings.mk <$> Mapping.optional m ["enum_uppercase"] true Document.readBool
    <*> Mapping.optional m ["prefix_policy"] .topLevel readPolicy
    <*> Mapping.optional m ["suffix_policy"] .topLevel readPolicy
    <*> Mapping.optional m ["suffix"] [] Document.readText
    <*> Mapping.extrasBesides (Mapping.namesRead m fieldNames) m

def read (d : Document) : Checked Settings :=
  d.readMapping fun m => Mapping.checkingKeys m (readFields m)

end Settings

end KubeJava
