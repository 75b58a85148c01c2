import ClientGen.Source.Item
import ClientGen.Source.Type

/-!
# Models and enums in generated source

A model is a struct with one optional field for each property, in the order of the properties. A
field whose name is not the wire name says so, and a variant of an enum says so always.
-/

namespace ClientGen.Source

/-- What has to be said about the serialised form of a field. -/
def serdeArguments (rt : String) (f : Field) : List SerdeArgument :=
  let wireName := f.identifier.wireName
  (if fieldName f.identifier = wireName then [] else [.rename wireName]) ++
    (if f.rfc3339 && f.type.isDateTime then [.useDefault, .codec (rt ++ "::rfc3339::option")]
      else []) ++
    [.skipAbsent]

/-- The field of a model struct. -/
def modelField (rt : String) (f : Field) : ModelField where
  documentation := f.documentation
  arguments := serdeArguments rt f
  name := fieldName f.identifier
  type := typeText rt f.type

/-- The struct of a model. -/
def modelItem (rt : String) (c : Class) : Item :=
  .model c.documentation (typeName c.name.simpleName) (c.fields.map (modelField rt))

/-- The item of an enum. -/
def enumItem (e : Enum) : Item :=
  .enumeration e.documentation (typeName e.name.simpleName) <|
    (variants e.constants).map fun (name, constant) =>
      ⟨constant.documentation, constant.identifier.wireName, name⟩

end ClientGen.Source
