import ClientGen.Component.Work
import ClientGen.Description
import ClientGen.Registry
import ClientGen.RequestContract
import ClientGen.Resolution
import ClientGen.Settings

/-!
# The client of an API

From a description come the models of its schemas, a type that all its requests are built on, and a
client class. In the client, and in every resource class, the methods and resources directly below
it are nested as components, methods first, each group in the order of its names.

Generation stops at the first error, which is then reported as one in this API.
-/

namespace ClientGen

/-! ## The generated client -/

/-- Everything generated for one API. -/
structure Api where
  /-- The name and version of the API. -/
  selector : String
  /-- The package of the client and request types. -/
  package : List String
  modelPackage : List String
  /-- The models, in the order of their names. -/
  models : List Class
  request : Class
  client : Class

namespace Api

/-- The classes that are not nested in another: models, then the request type, then the client. -/
def topLevel (a : Api) : List Class :=
  a.models ++ [a.request, a.client]

/-- The model with the given simple name. -/
def model? (a : Api) (name : String) : Option Class :=
  a.models.find? (·.simpleName == name)

end Api

/-! ## Names -/

/-- The sub-package that models are in. -/
def modelSegment : String := "model"

/-- The parameter that holds the body of a request. -/
def bodyIdentifier : Identifier := ⟨"content"⟩

/-- The constant of a method that holds its path. -/
def pathConstant : String := "REST_PATH"

/-- The names that the parts of a generated client have. -/
structure Naming where
  package : List String
  client : QualifiedName
  request : QualifiedName

namespace Naming

/-- The names for a description under a base package. -/
def ofDescription (d : Description) (base : List String) : Naming :=
  let package := base ++ [Text.snakeCase d.name]
  let client := Text.upperCamelCase d.name
  { package
    client := .topLevel package client
    request := .topLevel package (client ++ "Request") }

/-- The package of the models. -/
def modelPackage (n : Naming) : List String :=
  n.package ++ [modelSegment]

/-- The type of a named schema. -/
def reference (n : Naming) (target : String) : TypeRef :=
  Resolution.reference n.modelPackage target

end Naming

/-! ## Models -/

/-- Registers a model and reports it. -/
def Registry.enter (r : Registry) (c : Class) : Traced Registry :=
  match r.register c with
  | .error e => .fail e
  | .ok entered => do
    Traced.report (.registered c.name c.nested.length)
    return entered

namespace Generation

/-- A type resolved for a class, the models it needed having been registered. -/
structure Settled where
  registry : Registry
  type : TypeRef
  /-- Declarations to be nested in the class. -/
  nested : List Declaration

/-- Resolves a schema and registers the models that it needs. -/
def settle (n : Naming) (r : Registry) (scope : Scope) (schema : Schema) : Traced Settled := do
  let resolved ← Resolution.resolve n.modelPackage scope schema
  let registry ← resolved.topLevel.foldlM Registry.enter r
  return ⟨registry, resolved.type, resolved.nested⟩

/-- The models of the named schemas. -/
def models (n : Naming) (schemas : Keyed Schema) : Traced Registry :=
  schemas.foldlM (fun r (name, schema) => do
    Traced.report (.resolvingSchema name)
    let settled ← (settle n r .root schema).mapError (Error.forSchema name)
    return settled.registry) .empty

/-! ## Parameters -/

/-- The optional parameters of a class as its fields, and what their types need. -/
structure Optionals where
  registry : Registry
  fields : List Field := []
  nested : List Declaration := []

/-- The field of an optional parameter, given its type. -/
def optionalField (name : String) (schema : Schema) (type : TypeRef) : Field where
  identifier := ⟨name⟩
  type
  key := true
  documentation := schema.documentation.map escapeDoc

/-- Makes fields of the optional parameters of the class `owner`. -/
def optionals (n : Naming) (owner : QualifiedName) (r : Registry) :
    Keyed Schema → Traced Optionals
  | [] => pure { registry := r }
  | (name, schema) :: rest => do
    let settled ← settle n r (.field ⟨name⟩ owner) schema
    let others ← optionals n owner settled.registry rest
    return {
      registry := others.registry
      fields := optionalField name schema settled.type :: others.fields
      nested := settled.nested ++ others.nested }

/-- The required parameters of a class, and what their types need. -/
structure Requireds where
  registry : Registry
  params : List Param := []
  nested : List Declaration := []

/-- Types the named parameters of a method, whose class is `owner`. -/
def requireds (n : Naming) (owner : QualifiedName) (method : String) (parameters : Keyed Schema)
    (r : Registry) : (names : List String) → Traced Requireds
  | [] => pure { registry := r }
  | name :: rest =>
    match parameters.find? name with
    | none => .fail (.undeclaredParameter method name)
    | some schema => do
      let settled ← settle n r (.field ⟨name⟩ owner) schema
      let others ← requireds n owner method parameters settled.registry rest
      return {
        registry := others.registry
        params := ⟨⟨name⟩, settled.type⟩ :: others.params
        nested := settled.nested ++ others.nested }

end Generation

/-- The required parameters in call order: those listed, then, in the order of their names, those
that say themselves that they are required. -/
def Method.requiredNames (m : Method) : List String :=
  m.parameterOrder ++
    Keyed.keys (m.parameters.filter fun (name, schema) =>
      schema.isRequired && !m.parameterOrder.contains name)

/-- The parameters that are not required. -/
def Method.optionalParameters (m : Method) : Keyed Schema :=
  m.parameters.filter fun (name, _) => !m.requiredNames.contains name

namespace Generation

/-! ## The request type -/

/-- The constructor of the request type for one of the runtime's: it passes on its parameters. -/
def requestConstructor (response : TypeRef) (c : RuntimeConstructor) : Constructor :=
  let params := c.params.map (·.declared response)
  { name := c.name, params, body := [.forward (params.map (.param ·.identifier))] }

/-- What is said about the request type. -/
def requestDocumentation (n : Naming) : String :=
  s!"Base type of every {n.client.simpleName} request, " ++
    s!"built on runtime request contract version {baseRequest.version}."

/-- The type that all requests of the API are built on. -/
def requestClass (n : Naming) (o : Optionals) : Class :=
  let response := (baseRequest.typeParameters.head?.map TypeRef.variable).getD .void
  { name := n.request
    kind := .requestBase
    documentation := some (requestDocumentation n)
    typeParameters := baseRequest.typeParameters
    superType := some baseRequest.genericType
    fields := o.fields
    constructors := baseRequest.constructors.map (requestConstructor response)
    nested := o.nested }

/-! ## The client class -/

/-- The client class without its components. -/
def clientRoot (n : Naming) (d : Description) : Class where
  name := n.client
  kind := .client
  documentation := d.description.map escapeDoc
  superType := some (.runtime .client)
  constants := [
    ⟨"API_TITLE", .literal (d.title.getD "")⟩,
    ⟨"API_VERSION", .literal d.version⟩,
    ⟨"DEFAULT_ROOT_URL", .literal (d.rootUrl.getD "")⟩,
    ⟨"DEFAULT_SERVICE_PATH", .literal (d.servicePath.getD "")⟩,
    ⟨"DEFAULT_BATCH_PATH", .literal (d.batchPath.getD "")⟩,
    ⟨"DEFAULT_BASE_URL", .concat ["DEFAULT_ROOT_URL", "DEFAULT_SERVICE_PATH"]⟩]

open Component

/-- The parameter for the body of a method's requests. -/
def bodyParam (n : Naming) (m : Method) : Option Param :=
  m.request.map fun target => ⟨bodyIdentifier, n.reference target⟩

/-- The type of a method's responses. -/
def responseType (n : Naming) (m : Method) : TypeRef :=
  (m.response.map n.reference).getD .void

/-- What a method says about its requests. -/
def methodCall (n : Naming) (m : Method) : MethodCall where
  response := responseType n m
  httpMethod := m.httpMethod
  pathConstant
  body := m.request.map fun _ => bodyIdentifier

/-- Fills in the class of a method. -/
def methodContent (n : Naming) (m : Method) (pending : List Declaration) (o : Optionals)
    (c : Class) : Class :=
  { c with
    superType := some (.applied (.named n.request) [responseType n m])
    constants := c.constants ++ [⟨pathConstant, .literal m.path⟩]
    fields := c.fields ++ o.fields
    nested := c.nested ++ pending ++ o.nested }

/-- Adds the component of a method to the current class. -/
def addMethod (n : Naming) (r : Registry) (name : String) (m : Method) : Work Registry := do
  let owner ← Work.ask (·.childName ⟨name⟩)
  let required ← Work.traced
    (requireds n owner (m.id.getD name) m.parameters r m.requiredNames)
  let spec : Spec := {
    identifier := ⟨name⟩
    documentation := m.description
    body := bodyParam n m
    required := required.params }
  Work.within spec do
    let o ← Work.traced (optionals n owner required.registry m.optionalParameters)
    Work.change (·.modifyCurrent (methodContent n m required.nested o))
    let arguments := baseRequest.primary.arguments (methodCall n m)
    Work.change (·.modifyConstructor fun c => { c with body := c.body ++ [.forward arguments] })
    return o.registry

/-- Adds the components of methods to the current class. -/
def addMethods (n : Naming) (r : Registry) (methods : Keyed Method) : Work Registry :=
  methods.foldlM (fun r (name, m) => addMethod n r name m) r

mutual

/-- Adds the component of a resource, with all that is below it, to the current class. -/
def addResource (n : Naming) (name : String) (r : Registry) : Resource → Work Registry
  | ⟨methods, resources⟩ =>
    Work.within { identifier := ⟨name⟩ } do
      let r ← addMethods n r methods
      addResources n r resources

/-- Adds the components of resources to the current class. -/
def addResources (n : Naming) (r : Registry) : List (String × Resource) → Work Registry
  | [] => pure r
  | (name, resource) :: rest => do
    let r ← addResource n name r resource
    addResources n r rest

end

/-- The client class with all its components. -/
def clientClass (n : Naming) (r : Registry) (d : Description) : Traced (Registry × Class) := do
  let work : Work Registry := do
    let r ← addMethods n r d.methods
    addResources n r d.resources
  let done := work { root := clientRoot n d }
  let r ← Traced.mk done.events done.result
  let client ← Traced.ofExcept done.stack.finish
  return (r, client)

end Generation

/-! ## Generation -/

open Generation in
/-- Generates the client of an API, with errors as they arise. -/
def Description.build (d : Description) (n : Naming) : Traced Api := do
  let r ← models n d.schemas
  let o ← optionals n n.request r d.parameters
  let (r, client) ← clientClass n o.registry d
  Traced.report (.generated d.selector r.size)
  return {
    selector := d.selector
    package := n.package
    modelPackage := n.modelPackage
    models := r.classes
    request := requestClass n o
    client }

/-- Generates the client of an API. An error says in which API it was met. -/
def Description.generate (d : Description) (settings : Settings) : Traced Api :=
  (d.build (.ofDescription d settings.baseSegments)).mapError (Error.forApi d.selector)

end ClientGen
