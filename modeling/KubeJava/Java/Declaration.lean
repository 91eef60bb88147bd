import KubeJava.Text.Basic

set_option autoImplicit false

/-! # Declarations

The Java types that generation produces: enums, classes with their fields and embedded enums, and
the class of the resource itself. -/

namespace KubeJava.Java

structure Field where
  name : Text
  /-- The property that the field holds, if it holds one. -/
  jsonName : Option Text
  typeReference : Text
  required : Bool := false
  description : Option Text := none
  /-- Whether the field holds all properties that have no field. -/
  catchAll : Bool := false
  deriving DecidableEq, Repr

/-- A constant and the literal that it stands for. -/
structure EnumConstant where
  identifier : Text
  value : Text
  deriving DecidableEq, Repr

structure EnumDeclaration where
  name : Text
  package : Option Text
  constants : List EnumConstant
  description : Option Text := none
  deriving DecidableEq, Repr

structure ClassDeclaration where
  name : Text
  package : Option Text
  fields : List Field
  enums : List EnumDeclaration := []
  description : Option Text := none
  deriving DecidableEq, Repr

/-- What a resource version says about itself. -/
structure ResourceFlags where
  withSpec : Bool
  withStatus : Bool
  storage : Bool
  served : Bool
  deriving DecidableEq, Repr

structure ResourceDeclaration where
  name : Text
  package : Option Text
  group : Text
  version : Text
  specType : Text
  statusType : Text
  flags : ResourceFlags
  namespaced : Bool := false
  deriving DecidableEq, Repr

inductive Declaration where
  | ofEnum (e : EnumDeclaration)
  | ofClass (c : ClassDeclaration)
  | ofResource (r : ResourceDeclaration)
  deriving DecidableEq, Repr

namespace ClassDeclaration

def fieldNames (c : ClassDeclaration) : List Text := c.fields.map (·.name)

/-- The first field of a name. -/
def getField? (c : ClassDeclaration) (name : Text) : Option Field :=
  c.fields.find? fun f => f.name = name

end ClassDeclaration

def Declaration.enum? : Declaration → Option EnumDeclaration
  | .ofEnum e => some e
  | _ => none

end KubeJava.Java
