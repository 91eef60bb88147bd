import KubeJava.Java.Declaration
import KubeJava.Java.Name

set_option autoImplicit false

/-! # Generated types

A record is a resolved declaration with its source text; a result lists records in the order they
were generated, top-level ones and nested ones apart. -/

namespace KubeJava

structure TypeRecord where
  name : Text
  package : Option Text
  declaration : Java.Declaration
  source : Text
  deriving DecidableEq, Repr

def TypeRecord.qualifiedName (r : TypeRecord) : Text := Java.qualify r.package r.name

structure Generated where
  topLevel : List TypeRecord := []
  nested : List TypeRecord := []
  deriving DecidableEq, Repr

namespace Generated

def empty : Generated := {}

/-- The records of both results, those of the first before those of the second. -/
def merge (a b : Generated) : Generated := ⟨a.topLevel ++ b.topLevel, a.nested ++ b.nested⟩

def withTopLevel (g : Generated) (r : TypeRecord) : Generated :=
  { g with topLevel := g.topLevel ++ [r] }

def withNested (g : Generated) (r : TypeRecord) : Generated := { g with nested := g.nested ++ [r] }

@[simp] theorem topLevel_merge (a b : Generated) :
    (a.merge b).topLevel = a.topLevel ++ b.topLevel := rfl

@[simp] theorem nested_merge (a b : Generated) : (a.merge b).nested = a.nested ++ b.nested := rfl

@[simp] theorem merge_empty (g : Generated) : g.merge {} = g := by simp [merge]

@[simp] theorem empty_merge (g : Generated) : merge {} g = g := by simp [merge]

@[simp] theorem merge_assoc (a b c : Generated) : (a.merge b).merge c = a.merge (b.merge c) := by
  simp [merge]

end Generated

end KubeJava
