import ClientGen.Json.Record

/-!
# Errors

Everything that can go wrong between a discovery document and a written client, each with the facts
that its message needs. An error met while a named schema or a whole API is generated is wrapped in
one that says which.
-/

namespace ClientGen

/-! ## Failures of the file system -/

/-- Why the file system refuses. -/
inductive FileFailure
  | notFound
  | notADirectory
  | isADirectory
  | alreadyExists
  | permissionDenied
  /-- The file or directory is in use. -/
  | busy
  /-- A name or a whole path is longer than the system allows. -/
  | nameTooLong
  /-- A path holds the character that ends texts for the system. -/
  | nulInPath
  /-- The bytes of a file are not text. -/
  | invalidText
  /-- Any other reason, in words. -/
  | other (text : String)
deriving DecidableEq, Repr, Inhabited

/-- The failure in words. -/
def FileFailure.message : FileFailure → String
  | .notFound => "No such file or directory (os error 2)"
  | .notADirectory => "Not a directory (os error 20)"
  | .isADirectory => "Is a directory (os error 21)"
  | .alreadyExists => "File exists (os error 17)"
  | .permissionDenied => "Permission denied (os error 13)"
  | .busy => "Device or resource busy (os error 16)"
  | .nameTooLong => "File name too long (os error 36)"
  | .nulInPath => "file name contained an unexpected NUL byte"
  | .invalidText => "stream did not contain valid UTF-8"
  | .other text => text

/-! ## Errors -/

/-- What a type nested in another is going to be. -/
inductive NestedKind
  | classType
  | enumType
deriving DecidableEq, Repr

/-- The word for a kind of nested type. -/
def NestedKind.word : NestedKind → String
  | .classType => "class"
  | .enumType => "enum"

/-- An error. -/
inductive Error
  /-- An object schema from which no name follows. -/
  | unnamedObject (field : Option String)
  /-- A schema with listed values where no field gives it a name. -/
  | unnamedEnum
  /-- A type that must be nested where nothing is around it. -/
  | missingContext (kind : NestedKind) (field : String)
  /-- An array schema that does not say what its items are. -/
  | missingItems (field : Option String)
  /-- A second model of the same name. -/
  | duplicateType (name : String)
  /-- A parameter that is listed as required and not declared. -/
  | undeclaredParameter (method parameter : String)
  /-- A component closed while another is the innermost open one. -/
  | handleOutOfOrder (name : String) (count : Nat)
  /-- A component tree taken while components are open. -/
  | unclosedHandles (count : Nat)
  /-- A text that does not select an API. -/
  | invalidSelector (text : String)
  /-- A pattern for enum values that makes no sense. -/
  | pattern (text : String)
  | io (failure : FileFailure)
  | json (failure : Json.Failure)
  /-- A file that cannot be written. -/
  | write (path : String) (failure : FileFailure)
  /-- Two APIs that would be written to the same package. -/
  | packageCollision (package first second : String)
  /-- An error in a named schema. -/
  | schema (name : String) (source : Error)
  /-- An error in an API. -/
  | api (selector : String) (source : Error)

instance : Inhabited Error := ⟨.unnamedEnum⟩

namespace Error

/-- The words for the field that a schema belongs to. -/
def describeField : Option String → String
  | none => "(anonymous)"
  | some field => s!"for field `{field}`"

/-- The error in words. -/
def message : Error → String
  | .unnamedObject field => s!"no name derivable for object schema {describeField field}"
  | .unnamedEnum => "no name derivable for enum-bearing string schema (no field name hint)"
  | .missingContext kind field => s!"enclosing type for nested {kind.word} `{field}` is missing"
  | .missingItems field => s!"array schema {describeField field} has no item schema"
  | .duplicateType name => s!"duplicate type `{name}`"
  | .undeclaredParameter method parameter =>
    s!"required parameter `{parameter}` of method `{method}` is not declared"
  | .handleOutOfOrder name count =>
    s!"component `{name}` closed out of order: {count} handle(s) open above it"
  | .unclosedHandles count => s!"{count} component handle(s) still open"
  | .invalidSelector text => s!"invalid API selector `{text}`, expected `name:version`"
  | .pattern text => s!"invalid enum value pattern: {text}"
  | .io failure => failure.message
  | .json failure => failure.message
  | .write path failure => s!"failed to write `{path}`: {failure.message}"
  | .packageCollision package first second =>
    s!"APIs `{first}` and `{second}` both generate package `{package}`"
  | .schema name source => s!"schema `{name}`: {source.message}"
  | .api selector source => s!"failed to generate API `{selector}`: {source.message}"

/-- The error, met in a named schema. -/
def forSchema (name : String) (e : Error) : Error :=
  .schema name e

/-- The error, met in an API. An error that says already in which API it was met stays as it is. -/
def forApi (selector : String) : Error → Error
  | .api inner source => .api inner source
  | e => .api selector e

end Error

end ClientGen
