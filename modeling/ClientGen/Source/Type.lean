import ClientGen.Source.Name

/-!
# Types in generated source

How a type is written. Generated types are reached by their absolute path, types of the client
runtime by the path that the runtime itself is reached by.
-/

namespace ClientGen.Source

/-- A type of the runtime, which is reached by the path `rt`. -/
def runtimeType (rt : String) : RuntimeType → String
  | .client => rt ++ "::Client"
  | .request => rt ++ "::ClientRequest"
  | .httpMethod => rt ++ "::Method"
  | .responseType => "std::marker::PhantomData"
  | .content => s!"Option<{rt}::Content>"

/-- A built-in type. -/
def primitiveType (rt : String) : Primitive → String
  | .string => "String"
  | .boolean => "bool"
  | .int32 => "i32"
  | .int64 => "i64"
  | .float32 => "f32"
  | .float64 => "f64"
  | .date => rt ++ "::Date"
  | .dateTime => rt ++ "::DateTime"
  | .timeZone => rt ++ "::TimeZone"
  | .any => "serde_json::Value"

mutual

/-- A type. -/
def typeText (rt : String) : TypeRef → String
  | .named name => typePath name
  | .runtime type => runtimeType rt type
  | .primitive type => primitiveType rt type
  | .list item => "Vec<" ++ typeText rt item ++ ">"
  | .map value => "std::collections::BTreeMap<String, " ++ typeText rt value ++ ">"
  | .applied raw args => typeText rt raw ++ "<" ++ ", ".intercalate (typeTexts rt args) ++ ">"
  | .variable name => name
  | .void => "()"

/-- Each of the types. -/
def typeTexts (rt : String) : List TypeRef → List String
  | [] => []
  | type :: rest => typeText rt type :: typeTexts rt rest

end

/-- The type without its arguments, as it stands in front of a constructor. -/
def rawTypeText (rt : String) : TypeRef → String
  | .applied raw _ => typeText rt raw
  | type => typeText rt type

end ClientGen.Source
