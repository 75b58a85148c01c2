import ClientGen.Declaration
import ClientGen.EnumProse
import ClientGen.Schema
import ClientGen.Traced

/-!
# Types from schemas

Resolving a schema gives the type of its values, and the declarations that this type needs. An
object with an id becomes a model of its own. An object without one, and a text whose values are
listed, become types nested in the type around them, named after the field that holds them.

Declarations come in depth-first post-order: whatever a declaration is made of stands before it. A
nested type of a property ends up inside the class that has the property, a model is passed on.
-/

namespace ClientGen

/-! ## Where a schema is used -/

/-- Where a schema is used. -/
structure Scope where
  /-- The field or parameter that holds the schema. -/
  hint : Option Identifier := none
  /-- The type that nested types will belong to. -/
  enclosing : Option QualifiedName := none
deriving DecidableEq, Repr, Inhabited

namespace Scope

/-- A named schema of the document: no field holds it, and no type is around it. -/
def root : Scope := {}

/-- A field of a type. -/
def field (hint : Identifier) (enclosing : QualifiedName) : Scope :=
  ⟨some hint, some enclosing⟩

/-- The wire name of the field. -/
def hintName (s : Scope) : Option String :=
  s.hint.map (·.wireName)

end Scope

/-! ## What resolving gives -/

/-- A declaration made on the way to a type. -/
inductive Emission
  /-- A model. -/
  | topLevel (c : Class)
  /-- A type nested in the one around the schema. -/
  | nested (d : Declaration)

/-- A type, with the declarations it needs. -/
structure Resolved where
  type : TypeRef
  emitted : List Emission := []

namespace Resolved

/-- The declarations to be nested in the type around the schema. -/
def nested (r : Resolved) : List Declaration :=
  r.emitted.filterMap fun
    | .topLevel _ => none
    | .nested d => some d

/-- The models. -/
def topLevel (r : Resolved) : List Class :=
  r.emitted.filterMap fun
    | .topLevel c => some c
    | .nested _ => none

end Resolved

/-- What the properties of an object add up to: the fields of a class, the declarations nested in
it, and the models met on the way. -/
structure Properties where
  fields : List Field := []
  nested : List Declaration := []
  passedOn : List Class := []

/-- The model class made of properties. -/
def Properties.toClass (p : Properties) (name : QualifiedName) : Class where
  name
  kind := .model
  fields := p.fields
  nested := p.nested

namespace Resolution

/-! ## Texts and numbers -/

/-- What a description says when the text is a timestamp. -/
def timestampMarker : String := "formatted according to RFC3339"

/-- The field that always holds the name of a time zone. -/
def timeZoneField : String := "timeZone"

/-- The constants of listed values, each with the description at its place. -/
def listedConstants : List String → List String → List EnumConstant
  | [], _ => []
  | value :: values, descriptions =>
    ⟨⟨value⟩, (Schema.spoken? descriptions.head?).map escapeDoc⟩ ::
      listedConstants values descriptions.tail

/-- The constants that a text schema lists, if it does: in prose, or as values. -/
def enumConstants? (s : Schema) : Option (List EnumConstant) :=
  match s.description.filter EnumProse.appliesTo with
  | some description =>
    some <| (EnumProse.mine description).map fun value =>
      ⟨⟨value.token⟩, some (escapeDoc value.documentation)⟩
  | none =>
    match s.enumValues with
    | some (value :: values) =>
      some (listedConstants (value :: values) (s.enumDescriptions.getD []))
    | _ => none

/-- An enum nested in the type around the schema, named after its field. -/
def nestedEnum (scope : Scope) (constants : List EnumConstant) : Traced Resolved :=
  match scope.hint, scope.enclosing with
  | none, _ => .fail .unnamedEnum
  | some hint, none => .fail (.missingContext .enumType hint.wireName)
  | some hint, some enclosing =>
    let name := enclosing.nested hint.typeName
    pure ⟨.named name, [.nested (.ofEnum ⟨name, none, constants⟩)]⟩

/-- The type of a format that a text schema may have. -/
def formatType? : String → Option Primitive
  | "date" => some .date
  | "date-time" => some .dateTime
  | "int64" => some .int64
  | _ => none

/-- Resolves a text schema. -/
def resolveText (s : Schema) (scope : Scope) : Traced Resolved :=
  match s.format.bind formatType? with
  | some type => pure { type := .primitive type }
  | none =>
    match enumConstants? s with
    | some constants => nestedEnum scope constants
    | none =>
      let isTimeZone := scope.hintName = some timeZoneField
      pure { type := .primitive (if isTimeZone then .timeZone else .string) }

/-- Resolves a number schema. A format that is not known is reported. -/
def resolveNumber (s : Schema) (scope : Scope) : Traced Resolved :=
  match s.format with
  | some "float" => pure { type := .primitive .float32 }
  | some "double" => pure { type := .primitive .float64 }
  | some other => do
    Traced.report (.unknownFormat other s.id scope.hintName)
    return { type := .primitive .int64 }
  | none => pure { type := .primitive .int64 }

/-! ## All schemas -/

/-- The type of a named schema. -/
def reference (package : List String) (target : String) : TypeRef :=
  .named (.topLevel package target)

/-- The field of a property, given its type. -/
def propertyField (key : String) (property : Schema) (type : TypeRef) : Field where
  identifier := ⟨key⟩
  type
  documentation := property.documentation.map escapeDoc
  rfc3339 := (property.description.map (Text.mentions · timestampMarker)).getD false

mutual

/-- Resolves a schema, with the package that models are in. -/
def resolve (package : List String) (scope : Scope) : Schema → Traced Resolved
  | schema@⟨id, _, tag, _, _, properties, additional, items, _, _, _⟩ =>
    match schema.kind with
    | .reference target => pure { type := reference package target }
    | .string => resolveText schema scope
    | .number => resolveNumber schema scope
    | .integer => pure { type := .primitive .int32 }
    | .boolean => pure { type := .primitive .boolean }
    | .null => pure { type := .void }
    | .any => pure { type := .primitive .any }
    | .unknown _ => do
      Traced.report (.unknownType tag id scope.hintName)
      return { type := .void }
    | .array =>
      match items with
      | none => .fail (.missingItems scope.hintName)
      | some items => do
        let item ← resolve package scope items
        return { item with type := .list item.type }
    | .object =>
      let members (owner : QualifiedName) : Traced Properties :=
        match properties with
        | none => pure {}
        | some entries => resolveProperties package owner entries
      match id, scope.hint, properties.isSome with
      | some id, _, _ => do
        let name := QualifiedName.topLevel package id
        let p ← members name
        let documentation :=
          if scope.enclosing.isNone then schema.documentation.map escapeDoc else none
        let model := { p.toClass name with documentation }
        return ⟨.named name, p.passedOn.map .topLevel ++ [.topLevel model]⟩
      | none, some hint, true =>
        match scope.enclosing with
        | none => .fail (.missingContext .classType hint.wireName)
        | some enclosing => do
          let name := enclosing.nested hint.typeName
          let p ← members name
          return ⟨.named name, p.passedOn.map .topLevel ++ [.nested (.ofClass (p.toClass name))]⟩
      | none, _, _ =>
        match additional with
        | none => .fail (.unnamedObject scope.hintName)
        | some value => do
          let value ← resolve package scope value
          return { value with type := .map value.type }

/-- Resolves the properties of an object whose class is `owner`. -/
def resolveProperties (package : List String) (owner : QualifiedName) :
    List (String × Schema) → Traced Properties
  | [] => pure {}
  | (key, property) :: rest => do
    let resolved ← resolve package (.field ⟨key⟩ owner) property
    let others ← resolveProperties package owner rest
    return {
      fields := propertyField key property resolved.type :: others.fields
      nested := resolved.nested ++ others.nested
      passedOn := resolved.topLevel ++ others.passedOn }

end

end Resolution

end ClientGen
