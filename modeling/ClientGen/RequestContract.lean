import ClientGen.Declaration

/-!
# What requests are built on

The client runtime has a base type for requests. Its shape is a contract: which type parameters it
takes, and which constructors it has with which parameters in which order. The request type of an
API repeats that shape, and every method of the API passes on one argument for each parameter.
-/

namespace ClientGen

/-! ## The contract -/

/-- What a parameter of the runtime's request type is for. -/
inductive ParamRole
  | client
  /-- The value that stands for the type of the response. -/
  | responseType
  | httpMethod
  /-- The path of the request below the base address. -/
  | path
  /-- The body of the request, which may be absent. -/
  | content
deriving DecidableEq, Repr

/-- A parameter of the runtime's request type. -/
structure RuntimeParam where
  name : String
  role : ParamRole

/-- A constructor of the runtime's request type. -/
structure RuntimeConstructor where
  name : String
  params : List RuntimeParam

/-- The shape of the runtime's request type. -/
structure RequestContract where
  version : Nat
  typeParameters : List String
  /-- The constructor that methods call. -/
  primary : RuntimeConstructor
  others : List RuntimeConstructor := []

namespace RequestContract

/-- All constructors, the one that methods call first. -/
def constructors (c : RequestContract) : List RuntimeConstructor :=
  c.primary :: c.others

/-- The request type applied to its own type parameters. -/
def genericType (c : RequestContract) : TypeRef :=
  .applied (.runtime .request) (c.typeParameters.map .variable)

end RequestContract

/-- The contract that clients are generated for. -/
def baseRequest : RequestContract where
  version := 1
  typeParameters := ["T"]
  primary := {
    name := "new"
    params := [⟨"client", .client⟩, ⟨"response_type", .responseType⟩, ⟨"method", .httpMethod⟩,
      ⟨"path", .path⟩, ⟨"content", .content⟩] }

/-! ## Parameters and arguments -/

/-- The parameter as the request type of an API declares it, for a type of response. -/
def RuntimeParam.declared (p : RuntimeParam) (response : TypeRef) : Param where
  identifier := ⟨p.name⟩
  type :=
    match p.role with
    | .client => .runtime .client
    | .responseType => .applied (.runtime .responseType) [response]
    | .httpMethod => .runtime .httpMethod
    | .path => .primitive .string
    | .content => .runtime .content

/-- What a method says about its requests. -/
structure MethodCall where
  response : TypeRef
  httpMethod : String
  /-- The constant of the method that holds its path. -/
  pathConstant : String
  /-- The parameter that holds the body. -/
  body : Option Identifier

/-- What a method passes for a parameter. -/
def MethodCall.argument (call : MethodCall) : ParamRole → Expr
  | .client => .client
  | .responseType => .type call.response
  | .httpMethod => .verb call.httpMethod
  | .path => .constant call.pathConstant
  | .content =>
    match call.body with
    | some body => .param body
    | none => .absent

/-- What a method passes to a constructor, in the order of the parameters. -/
def RuntimeConstructor.arguments (c : RuntimeConstructor) (call : MethodCall) : List Expr :=
  c.params.map fun p => call.argument p.role

end ClientGen
