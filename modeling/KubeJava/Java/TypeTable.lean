import KubeJava.Text.Basic

set_option autoImplicit false

/-! # Java types of schemas

Which Java type stands for a schema type and format, and the types of lists and maps. -/

namespace KubeJava.Java

def stringType : Text := "java.lang.String"

def objectType : Text := "java.lang.Object"

/-- The type of a resource part that has no schema. -/
def voidType : Text := "java.lang.Void"

def intOrStringType : Text := "io.fabric8.kubernetes.api.model.IntOrString"

/-- The type that holds any value. -/
def anyType : Text := "com.fasterxml.jackson.databind.JsonNode"

def listOf (element : Text) : Text := "java.util.List<" ++ element ++ ">"

def mapOf (value : Text) : Text := "java.util.Map<" ++ stringType ++ ", " ++ value ++ ">"

/-! ## Tables -/

structure TypeEntry where
  type : Text
  format : Option Text
  javaType : Text
  deriving DecidableEq, Repr

/-- Entries for pairs of a type and a format. Of two entries for one pair the later one counts. -/
abbrev TypeTable := List TypeEntry

def TypeTable.get? (table : TypeTable) (type : Text) (format : Option Text) : Option Text :=
  (table.reverse.find? fun e => e.type = type ∧ e.format = format).map (·.javaType)

/-- The Java type for a schema type: that of its format, if there is one, and otherwise that of the
type without format. -/
def TypeTable.lookup (table : TypeTable) (type : Text) (format : Option Text) : Option Text :=
  (format.bind fun f => table.get? type (some f)).or (table.get? type none)

/-- The types used where a caller gives none. -/
def standardTypes : TypeTable :=
  [⟨"string", none, stringType⟩, ⟨"integer", none, "java.lang.Long"⟩,
    ⟨"integer", some "int32", "java.lang.Integer"⟩, ⟨"integer", some "int64", "java.lang.Long"⟩,
    ⟨"number", none, "java.lang.Double"⟩, ⟨"number", some "float", "java.lang.Float"⟩,
    ⟨"number", some "double", "java.lang.Double"⟩, ⟨"boolean", none, "java.lang.Boolean"⟩]

end KubeJava.Java
