import KubeJava.Java.Declaration
import KubeJava.Java.Literal
import KubeJava.Java.TypeTable
import KubeJava.Text.Case
import KubeJava.Text.Lines

set_option autoImplicit false

/-! # Java source text

The text of a declaration, made of lines that are joined by line feeds. Members are indented by four
spaces, empty lines are not. -/

namespace KubeJava.Java

def indent : Text := "    "

def closingBrace : Text := "\x7d"

def indentLine (line : Text) : Text := if line = "" then "" else indent ++ line

def indentLines (lines : List Text) : List Text := lines.map indentLine

/-- Lines as text, each ended by a line feed. -/
def joinLines (lines : List Text) : Text := ("\n" : Text).intercalate lines ++ "\n"

/-! ## Names of annotations and base types -/

def jackson : Text := "com.fasterxml.jackson.annotation"

def jsonInclude : Text :=
  "@" ++ jackson ++ ".JsonInclude(" ++ jackson ++ ".JsonInclude.Include.NON_NULL)"

def jsonPropertyOrder (names : List Text) : Text :=
  "@" ++ jackson ++ ".JsonPropertyOrder(\x7b" ++ Text.commaSeparated names ++ "\x7d)"

def jsonDeserialize : Text :=
  "@com.fasterxml.jackson.databind.annotation.JsonDeserialize(" ++
    "using = com.fasterxml.jackson.databind.JsonDeserializer.None.class)"

def skipNulls : Text := "@" ++ jackson ++ ".JsonSetter(nulls = " ++ jackson ++ ".Nulls.SKIP)"

def notNull : Text := "@javax.validation.constraints.NotNull"

def kubernetesResource : Text := "io.fabric8.kubernetes.api.model.KubernetesResource"

def namespacedType : Text := "io.fabric8.kubernetes.api.model.Namespaced"

def customResource : Text := "io.fabric8.kubernetes.client.CustomResource"

def modelAnnotation : Text := "io.fabric8.kubernetes.model.annotation"

/-- The field of every enum that holds the literal. -/
def enumValueField : Text := "value"

/-! ## Comments -/

/-- The text with the end mark of comments made harmless. -/
def guardCommentEnd : Text → Text
  | c :: d :: rest =>
    if c = '*' ∧ d = '/' then "*&#47;" ++ guardCommentEnd rest
    else c :: guardCommentEnd (d :: rest)
  | t => t

def commentStart : Text := "/**"

def commentEnd : Text := " */"

def javadocLine (line : Text) : Text := Text.trimEnd (" * " ++ line)

/-- The comment for a description; an empty one gets none. -/
def javadoc (description : Option Text) : List Text :=
  match description with
  | none => []
  | some t =>
    if t = "" then []
    else commentStart :: (guardCommentEnd t.trim).splitLines.map javadocLine ++ [commentEnd]

/-! ## Enums -/

def constantLines (terminator : Text) (c : EnumConstant) : List Text :=
  let literal := stringLiteral c.value
  [indent ++ "@" ++ jackson ++ ".JsonProperty(" ++ literal ++ ")",
    indent ++ c.identifier ++ "(" ++ literal ++ ")" ++ terminator]

/-- The constants, separated by commas and ended by a semicolon. -/
def constantsLines : List EnumConstant → List Text
  | [] => [indent ++ ";"]
  | [c] => constantLines ";" c
  | c :: d :: rest => constantLines "," c ++ constantsLines (d :: rest)

/-- The literal that each constant holds, with its reader. -/
def enumMembers (e : EnumDeclaration) : List Text :=
  ["",
    indent ++ "private final " ++ stringType ++ " " ++ enumValueField ++ ";",
    "",
    indent ++ e.name ++ "(" ++ stringType ++ " " ++ enumValueField ++ ") \x7b",
    indent ++ indent ++ "this." ++ enumValueField ++ " = " ++ enumValueField ++ ";",
    indent ++ closingBrace,
    "",
    indent ++ "@" ++ jackson ++ ".JsonValue",
    indent ++ "public " ++ stringType ++ " getValue() \x7b",
    indent ++ indent ++ "return " ++ enumValueField ++ ";",
    indent ++ closingBrace]

def enumLines (e : EnumDeclaration) : List Text :=
  javadoc e.description ++ ["public enum " ++ e.name ++ " \x7b", []] ++
    constantsLines e.constants ++ enumMembers e ++ [closingBrace]

/-! ## Fields -/

def fieldLines (f : Field) : List Text :=
  let declaration := "private " ++ f.typeReference ++ " " ++ f.name
  if f.catchAll then
    ["@" ++ jackson ++ ".JsonIgnore", declaration ++ " = new java.util.HashMap<>();"]
  else
    (match f.jsonName with
      | none => []
      | some name => ["@" ++ jackson ++ ".JsonProperty(" ++ stringLiteral name ++ ")"]) ++
    (match f.description with
      | none => []
      | some text =>
        if text = "" then []
        else ["@" ++ jackson ++ ".JsonPropertyDescription(" ++ stringLiteral text ++ ")"]) ++
    (if f.required then [notNull] else []) ++ [skipNulls, declaration ++ ";"]

def getterName (f : Field) : Text := "get" ++ f.name.capitalize

def setterName (f : Field) : Text := "set" ++ f.name.capitalize

/-- The methods that read and write a field. -/
def accessorBlocks (f : Field) : List (List Text) :=
  if f.catchAll then
    [["@" ++ jackson ++ ".JsonAnyGetter",
      "public " ++ f.typeReference ++ " " ++ getterName f ++ "() \x7b",
      indent ++ "return this." ++ f.name ++ ";",
      "\x7d"],
    ["@" ++ jackson ++ ".JsonAnySetter",
      "public void setAdditionalProperty(java.lang.String key, java.lang.Object value) \x7b",
      indent ++ "this." ++ f.name ++ ".put(key, value);",
      "\x7d"]]
  else
    [["public " ++ f.typeReference ++ " " ++ getterName f ++ "() \x7b",
      indent ++ "return " ++ f.name ++ ";",
      "\x7d"],
    ["public void " ++ setterName f ++ "(" ++ f.typeReference ++ " " ++ f.name ++ ") \x7b",
      indent ++ "this." ++ f.name ++ " = " ++ f.name ++ ";",
      "\x7d"]]

/-! ## Classes -/

/-- The properties that a class lists as its own, in order. -/
def propertyOrder (c : ClassDeclaration) : List Text :=
  c.fields.filterMap fun f => if f.catchAll then none else f.jsonName.map stringLiteral

/-- The members of a class: each field with its methods, then the enums. -/
def classMembers (c : ClassDeclaration) : List (List Text) :=
  c.fields.flatMap (fun f => fieldLines f :: accessorBlocks f) ++ c.enums.map enumLines

/-- A member inside a class, after an empty line. -/
def memberLines (member : List Text) : List Text := "" :: indentLines member

def classLines (c : ClassDeclaration) : List Text :=
  javadoc c.description ++
    [jsonInclude,
      jsonPropertyOrder (propertyOrder c),
      jsonDeserialize,
      "public class " ++ c.name ++ " implements " ++ kubernetesResource ++ " \x7b"] ++
    (classMembers c).flatMap memberLines ++ [closingBrace]

def resourceLines (r : ResourceDeclaration) : List Text :=
  let base := customResource ++ "<" ++ r.specType ++ ", " ++ r.statusType ++ ">"
  ["@" ++ modelAnnotation ++ ".Version(" ++ stringLiteral r.version ++ ")",
    "@" ++ modelAnnotation ++ ".Group(" ++ stringLiteral r.group ++ ")",
    "public class " ++ r.name ++ " extends " ++ base ++
      (if r.namespaced then " implements " ++ namespacedType else "") ++ " \x7b",
    "\x7d"]

/-! ## Sources -/

/-- The package line; the empty package has none. -/
def packageLines (package : Option Text) : List Text :=
  match package with
  | none => []
  | some p => if p = "" then [] else ["package " ++ p ++ ";", ""]

/-- An enum as a member to embed in the class that owns it. -/
def renderEnum (e : EnumDeclaration) : Text := joinLines (enumLines e)

/-- A class as a whole source file. -/
def renderClass (c : ClassDeclaration) : Text :=
  joinLines (packageLines c.package ++ classLines c)

/-- The class of a resource as a whole source file. -/
def renderResource (r : ResourceDeclaration) : Text :=
  joinLines (packageLines r.package ++ resourceLines r)

def Declaration.render : Declaration → Text
  | .ofEnum e => renderEnum e
  | .ofClass c => renderClass c
  | .ofResource r => renderResource r

end KubeJava.Java
