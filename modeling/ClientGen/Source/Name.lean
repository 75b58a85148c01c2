import ClientGen.Declaration

/-!
# Names in generated source

How names of the API are written in Rust. Modules, fields, parameters and methods are in snake case,
types and enum variants in upper camel case; a type name that is a plain identifier already stays as
it is. A name that would be empty or start with a digit gets a letter in front, and a reserved word
gets the collision suffix.
-/

namespace ClientGen.Source

/-! ## Identifiers of the language -/

/-- The name with `start` in front, if it is empty or starts with a digit. -/
def withStart (start : String) (name : String) : String :=
  match name.toList.head? with
  | none => start
  | some c => if c.isDigit then start ++ name else name

/-- The module of a package segment, or of what is nested in a type. -/
def moduleName (name : String) : String :=
  escapeReserved (withStart "m" (Text.snakeCase name))

/-- The name consists of ASCII letters, digits and underscores. -/
def isPlain (name : String) : Bool :=
  name.toList.all fun c => c.isAlphanum || c == '_'

/-- The name of a type. -/
def typeName (name : String) : String :=
  escapeReserved (withStart "T" (if isPlain name then name else Text.upperCamelCase name))

/-- The name of a field, parameter or method. -/
def fieldName (i : Identifier) : String :=
  escapeReserved (withStart "f" (Text.snakeCase i.wireName))

/-- The name of an enum variant. -/
def variantName (value : String) : String :=
  escapeReserved (withStart "E" (Text.upperCamelCase value))

/-! ## Names of the generator's own -/

/-- The field of a component that holds the runtime client. -/
def clientField : String := "client__"

/-- The field that holds the value of the super type. -/
def baseField : String := "base__"

/-- The method that gives the value of the super type for changing. -/
def baseMutMethod : String := "base_mut__"

/-! ## Paths -/

/-- The modules that a type is in, from the root of the crate. -/
def modulePath (q : QualifiedName) : List String :=
  (q.package ++ q.enclosing).map moduleName

/-- The absolute path of a type. -/
def typePath (q : QualifiedName) : String :=
  "::".intercalate ("crate" :: modulePath q ++ [typeName q.simpleName])

/-! ## Variants of an enum -/

/-- The constants without those whose wire name occurred before. -/
def firstOfEach : List EnumConstant → List EnumConstant
  | [] => []
  | c :: rest =>
    c :: (firstOfEach rest).filter fun d => d.identifier.wireName ≠ c.identifier.wireName

/-- The names, where one that occurs several times among `all` is followed by the number of times
that it occurred before. -/
def numbered (all : List String) (before : List String) : List String → List String
  | [] => []
  | name :: rest =>
    (if 1 < all.count name then s!"{name}_{before.count name}" else name) ::
      numbered all (name :: before) rest

/-- The variants for the constants of an enum, each with its name. -/
def variants (constants : List EnumConstant) : List (String × EnumConstant) :=
  let distinct := firstOfEach constants
  let names := distinct.map fun c => variantName c.identifier.wireName
  (numbered names [] names).zip distinct

end ClientGen.Source
