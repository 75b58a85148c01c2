import ClientGen.Identifier
import ClientGen.Text.Blank
import ClientGen.TypeRef

/-!
# Declarations

The generated client as data, before any source text: classes with their fields, constants,
constructors and factory methods, enums with their constants, and declarations nested in classes to
any depth.
-/

namespace ClientGen

/-! ## Documentation -/

/-- Free text as documentation: trimmed, with every slash written as a character reference. -/
def escapeDoc (text : String) : String :=
  String.ofList <| (Text.trimChars text.toList).flatMap fun c =>
    if c = '/' then "&#47;".toList else [c]

/-! ## Parts of a class -/

/-- A field. -/
structure Field where
  identifier : Identifier
  type : TypeRef
  /-- Set once, by the constructor. -/
  required : Bool := false
  /-- Sent as a request parameter. -/
  key : Bool := false
  documentation : Option String := none
  /-- Written as a timestamp of RFC 3339. -/
  rfc3339 : Bool := false
deriving Inhabited

/-- A parameter of a constructor or factory method. -/
structure Param where
  identifier : Identifier
  type : TypeRef
deriving Inhabited

/-- What a constructor passes on. -/
inductive Expr
  /-- The client that the component belongs to. -/
  | client
  /-- A value that stands for a type. -/
  | type (type : TypeRef)
  | verb (name : String)
  /-- A constant of the class. -/
  | constant (name : String)
  /-- A parameter of the constructor. -/
  | param (identifier : Identifier)
  | absent
deriving Inhabited

/-- A step of a constructor. -/
inductive Statement
  /-- Calls the constructor of the super type. -/
  | forward (args : List Expr)
  /-- Refuses a parameter without a value, with a message. -/
  | require (identifier : Identifier) (message : String)
deriving Inhabited

/-- A constructor. -/
structure Constructor where
  name : String
  params : List Param
  body : List Statement := []
deriving Inhabited

/-- A method that makes a component nested in its class. -/
structure Factory where
  identifier : Identifier
  params : List Param
  returns : QualifiedName
  documentation : Option String
deriving Inhabited

/-- The value of a constant. -/
inductive ConstantValue
  | literal (text : String)
  /-- Other constants of the class, one after the other. -/
  | concat (names : List String)
deriving Inhabited

/-- A constant of a class. -/
structure Constant where
  name : String
  value : ConstantValue
deriving Inhabited

/-! ## Enums -/

/-- A constant of an enum. -/
structure EnumConstant where
  identifier : Identifier
  documentation : Option String
deriving Inhabited

/-- An enum. -/
structure Enum where
  name : QualifiedName
  documentation : Option String
  constants : List EnumConstant
deriving Inhabited

/-! ## Classes -/

/-- What a class stands for. -/
inductive ClassKind
  /-- The values of a schema. -/
  | model
  /-- A resource or method, nested in what it belongs to. -/
  | component
  /-- The entry to the API. -/
  | client
  /-- What every request of the API is built on. -/
  | requestBase
deriving DecidableEq, Repr

/-- A class of kind `C`, or an enum. -/
inductive DeclarationOf (C : Type)
  | ofClass (c : C)
  | ofEnum (e : Enum)

/-- A class. -/
structure Class where
  name : QualifiedName
  kind : ClassKind
  documentation : Option String := none
  typeParameters : List String := []
  superType : Option TypeRef := none
  constants : List Constant := []
  fields : List Field := []
  constructors : List Constructor := []
  factories : List Factory := []
  nested : List (DeclarationOf Class) := []

instance : Inhabited Class := ⟨{ name := default, kind := .model }⟩

/-- A class or an enum. -/
abbrev Declaration := DeclarationOf Class

instance : Inhabited Declaration := ⟨.ofClass default⟩

/-- The full name of a declared type. -/
def DeclarationOf.name : Declaration → QualifiedName
  | .ofClass c => c.name
  | .ofEnum e => e.name

/-- The declarations directly nested in a declaration; an enum has none. -/
def DeclarationOf.nested : Declaration → List Declaration
  | .ofClass c => c.nested
  | .ofEnum _ => []

namespace Class

/-- The constant with the given name. -/
def constant? (c : Class) (name : String) : Option Constant :=
  c.constants.find? (·.name == name)

/-- The field with the given wire name. -/
def field? (c : Class) (wireName : String) : Option Field :=
  c.fields.find? (·.identifier.wireName == wireName)

/-- The factory method with the given wire name. -/
def factory? (c : Class) (wireName : String) : Option Factory :=
  c.factories.find? (·.identifier.wireName == wireName)

/-- The class directly nested in this one that has the given simple name. -/
def nestedClass? (c : Class) (name : String) : Option Class :=
  c.nested.findSome? fun
    | .ofClass inner => if inner.name.simpleName = name then some inner else none
    | .ofEnum _ => none

/-- The enum directly nested in this class that has the given simple name. -/
def nestedEnum? (c : Class) (name : String) : Option Enum :=
  c.nested.findSome? fun
    | .ofClass _ => none
    | .ofEnum inner => if inner.name.simpleName = name then some inner else none

/-- The text of a constant. Of the constants that a concatenation names, those that are missing or
are concatenations themselves add nothing. -/
def constantText (c : Class) (constant : Constant) : String :=
  match constant.value with
  | .literal text => text
  | .concat names =>
    String.join <| names.filterMap fun name =>
      match c.constant? name with
      | some { value := .literal text, .. } => some text
      | _ => none

end Class

end ClientGen
