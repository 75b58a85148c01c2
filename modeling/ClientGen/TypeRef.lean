import ClientGen.QualifiedName

/-!
# Types of generated values

What fields, parameters and responses hold: a generated type, a type of the client runtime, a
built-in value, or a list, map or application made of other types.
-/

namespace ClientGen

/-- Built-in kinds of values. -/
inductive Primitive
  | string
  | boolean
  | int32
  | int64
  | float32
  | float64
  /-- A calendar date without a time. -/
  | date
  /-- A point in time with its offset. -/
  | dateTime
  /-- The name of a time zone. -/
  | timeZone
  /-- Any JSON value. -/
  | any
deriving DecidableEq, Repr

/-- Types of the client runtime. -/
inductive RuntimeType
  /-- What a generated client is built on. -/
  | client
  /-- What a request is built on; takes the type of the response. -/
  | request
  | httpMethod
  /-- A value that only carries the type of the response. -/
  | responseType
  /-- A request body, which may be absent. -/
  | content
deriving DecidableEq, Repr

/-- A type. -/
inductive TypeRef
  | named (name : QualifiedName)
  | runtime (type : RuntimeType)
  | primitive (type : Primitive)
  | list (item : TypeRef)
  /-- A map from text to values. -/
  | map (value : TypeRef)
  | applied (raw : TypeRef) (args : List TypeRef)
  | variable (name : String)
  | void
deriving Inhabited

namespace TypeRef

/-- The type is that of a request body. -/
def isContent : TypeRef → Bool
  | .runtime .content => true
  | _ => false

/-- The type is that of a point in time. -/
def isDateTime : TypeRef → Bool
  | .primitive .dateTime => true
  | _ => false

/-- The type inside all lists and maps around it. -/
def leaf : TypeRef → TypeRef
  | .list item => item.leaf
  | .map value => value.leaf
  | type => type

end TypeRef

end ClientGen
