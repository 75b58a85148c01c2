import ClientGen.Json.Record
import ClientGen.Text.Blank

/-!
# Schemas

A schema describes the values of a type: a document's named schemas, the properties of an object,
the items of an array, and the parameters of a method are all schemas. What kind of type it is
follows from its reference or its type tag; a reference wins.
-/

namespace ClientGen

/-! ## The schema and its kind -/

/-- A schema, with every keyword that matters here. -/
structure Schema where
  id : Option String := none
  reference : Option String := none
  type : Option String := none
  description : Option String := none
  format : Option String := none
  properties : Option (List (String × Schema)) := none
  additionalProperties : Option Schema := none
  items : Option Schema := none
  required : Option Bool := none
  enumValues : Option (List String) := none
  enumDescriptions : Option (List String) := none
deriving Inhabited

/-- What a schema describes. -/
inductive SchemaKind
  | reference (target : String)
  | object
  | string
  | number
  | integer
  | boolean
  | null
  | array
  | any
  | unknown (tag : Option String)
deriving DecidableEq, Repr

namespace Schema

/-- The kind of a type tag. -/
def kindOfTag : String → SchemaKind
  | "object" => .object
  | "string" => .string
  | "number" => .number
  | "integer" => .integer
  | "boolean" => .boolean
  | "null" => .null
  | "array" => .array
  | "any" => .any
  | tag => .unknown (some tag)

/-- What the schema describes. -/
def kind (s : Schema) : SchemaKind :=
  match s.reference, s.type with
  | some target, _ => .reference target
  | none, some tag => kindOfTag tag
  | none, none => .unknown none

/-- The schema, as that of a parameter, asks for a value. -/
def isRequired (s : Schema) : Bool :=
  s.required.getD false

/-- A description that says something, without white space around it. -/
def spoken? (description : Option String) : Option String :=
  (description.map Text.trim).filter (· ≠ "")

/-- What the schema's description says. -/
def documentation (s : Schema) : Option String :=
  spoken? s.description

/-! ## Reading a schema -/

open Json

/-- The keywords of a schema, in declared order. -/
def keywords : List String :=
  ["id", "$ref", "type", "description", "format", "properties", "additionalProperties", "items",
    "required", "enum", "enumDescriptions"]

/-- The record of a schema, given readers for the schemas inside it: for those that stand in it
directly, and for those in its map of properties. -/
def recordKind (levels : Nat) (inner entry : Json → Reading Schema) : RecordKind Schema where
  name := "JsonSchema"
  keys := keywords
  required := []
  store key json s :=
    match key with
    | "id" => do return { s with id := ← readOptional readString json }
    | "$ref" => do return { s with reference := ← readOptional readString json }
    | "type" => do return { s with type := ← readOptional readString json }
    | "description" => do return { s with description := ← readOptional readString json }
    | "format" => do return { s with format := ← readOptional readString json }
    | "properties" => do
      return { s with properties := ← readOptional (readMap levels entry) json }
    | "additionalProperties" => do
      return { s with additionalProperties := ← readOptional inner json }
    | "items" => do return { s with items := ← readOptional inner json }
    | "required" => do return { s with required := ← readOptional readBool json }
    | "enum" => do
      return { s with enumValues := ← readOptional (readList levels readString) json }
    | "enumDescriptions" => do
      return { s with enumDescriptions := ← readOptional (readList levels readString) json }
    | _ => return s

/-- Nothing can be read: no level is left. -/
def tooDeep (_ : Json) : Reading Schema :=
  .error (.broken .malformed)

/-- Reads a schema that may enter the given number of levels. -/
def ofJson : (levels : Nat) → Json → Reading Schema
  | 0 => (recordKind 0 tooDeep tooDeep).read 0 {}
  | 1 => (recordKind 0 (ofJson 0) tooDeep).read 1 {}
  | n + 2 => (recordKind (n + 1) (ofJson (n + 1)) (ofJson n)).read (n + 2) {}

/-- Reads the schema in a text. -/
def ofText (text : String) : Reading Schema :=
  readText? ofJson text

end Schema

end ClientGen
