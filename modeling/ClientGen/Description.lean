import ClientGen.Schema

/-!
# API descriptions

A discovery document describes an API: its name and version, where it is served, its named schemas,
and its methods, which hang directly on the API or on a tree of resources. Only what a client needs
is kept. Schemas, parameters, methods and resources are maps, so they have an order of their own.
-/

namespace ClientGen

/-! ## Methods, resources and the API -/

/-- A method: one kind of request to the API. -/
structure Method where
  id : Option String := none
  path : String := ""
  httpMethod : String := ""
  description : Option String := none
  /-- Names of required parameters, in call order. -/
  parameterOrder : List String := []
  parameters : Keyed Schema := []
  /-- The named schema of the request body. -/
  request : Option String := none
  /-- The named schema of the response. -/
  response : Option String := none
deriving Inhabited

/-- A resource: a named group of methods and of resources below it. -/
structure Resource where
  methods : List (String × Method) := []
  resources : List (String × Resource) := []
deriving Inhabited

/-- The description of an API. -/
structure Description where
  name : String := ""
  version : String := ""
  title : Option String := none
  description : Option String := none
  rootUrl : Option String := none
  servicePath : Option String := none
  batchPath : Option String := none
  /-- Parameters that every method takes. -/
  parameters : Keyed Schema := []
  schemas : Keyed Schema := []
  resources : Keyed Resource := []
  /-- Methods that belong to no resource. -/
  methods : Keyed Method := []
deriving Inhabited

/-- The API's name and version, as it is referred to in messages. -/
def Description.selector (d : Description) : String :=
  d.name ++ ":" ++ d.version

/-! ## Reading -/

open Json

/-- A pointer to a named schema. -/
def schemaPointer : RecordKind String where
  name := "SchemaRef"
  keys := ["$ref"]
  required := ["$ref"]
  store _ json _ := readString json

/-- A map of schemas that may enter the given number of levels. -/
def readSchemas (levels : Nat) : Json → Reading (Keyed Schema) :=
  readMap levels (Schema.ofJson (levels - 1))

/-- The record of a method, whose values may enter the given number of levels. -/
def Method.recordKind (levels : Nat) : RecordKind Method where
  name := "RestMethod"
  keys := ["id", "path", "httpMethod", "description", "parameterOrder", "parameters", "request",
    "response"]
  required := ["path", "httpMethod"]
  store key json m :=
    match key with
    | "id" => do return { m with id := ← readOptional readString json }
    | "path" => do return { m with path := ← readString json }
    | "httpMethod" => do return { m with httpMethod := ← readString json }
    | "description" => do return { m with description := ← readOptional readString json }
    | "parameterOrder" => do return { m with parameterOrder := ← readList levels readString json }
    | "parameters" => do return { m with parameters := ← readSchemas levels json }
    | "request" => do
      return { m with request := ← readOptional (schemaPointer.read levels "") json }
    | "response" => do
      return { m with response := ← readOptional (schemaPointer.read levels "") json }
    | _ => return m

/-- Reads a method that may enter the given number of levels. -/
def Method.ofJson (levels : Nat) : Json → Reading Method :=
  (recordKind (levels - 1)).read levels {}

/-- A map of methods that may enter the given number of levels. -/
def readMethods (levels : Nat) : Json → Reading (Keyed Method) :=
  readMap levels (Method.ofJson (levels - 1))

/-- The record of a resource, given a reader for the resources in it. -/
def Resource.recordKind (levels : Nat) (entry : Json → Reading Resource) : RecordKind Resource where
  name := "RestResource"
  keys := ["methods", "resources"]
  required := []
  store key json r :=
    match key with
    | "methods" => do return { r with methods := ← readMethods levels json }
    | "resources" => do return { r with resources := ← readMap levels entry json }
    | _ => return r

/-- Reads a resource that may enter the given number of levels. -/
def Resource.ofJson : (levels : Nat) → Json → Reading Resource
  | 0 => (recordKind 0 fun _ => .error (.broken .malformed)).read 0 {}
  | 1 => (recordKind 0 fun _ => .error (.broken .malformed)).read 1 {}
  | n + 2 => (recordKind (n + 1) (ofJson n)).read (n + 2) {}

namespace Description

/-- The record of a description, whose values may enter the given number of levels. -/
def recordKind (levels : Nat) : RecordKind Description where
  name := "RestDescription"
  keys := ["name", "version", "title", "description", "rootUrl", "servicePath", "batchPath",
    "parameters", "schemas", "resources", "methods"]
  required := ["name", "version"]
  store key json d :=
    match key with
    | "name" => do return { d with name := ← readString json }
    | "version" => do return { d with version := ← readString json }
    | "title" => do return { d with title := ← readOptional readString json }
    | "description" => do return { d with description := ← readOptional readString json }
    | "rootUrl" => do return { d with rootUrl := ← readOptional readString json }
    | "servicePath" => do return { d with servicePath := ← readOptional readString json }
    | "batchPath" => do return { d with batchPath := ← readOptional readString json }
    | "parameters" => do return { d with parameters := ← readSchemas levels json }
    | "schemas" => do return { d with schemas := ← readSchemas levels json }
    | "resources" => do
      return { d with resources := ← readMap levels (Resource.ofJson (levels - 1)) json }
    | "methods" => do return { d with methods := ← readMethods levels json }
    | _ => return d

/-- Reads a description that may enter the given number of levels. -/
def ofJson (levels : Nat) : Json → Reading Description :=
  (recordKind (levels - 1)).read levels {}

/-- Reads the description in a text. -/
def ofText (text : String) : Reading Description :=
  readText? ofJson text

end Description

end ClientGen
