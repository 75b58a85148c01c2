import ClientGen.QualifiedName

/-!
# Events

What a run reports about itself while it works: warnings about schemas that are not fully
understood, and the steps taken. Events are data; whoever runs the program decides which of them
are shown, and how.
-/

namespace ClientGen

/-- How much an event matters. -/
inductive Level
  | debug
  | info
  | warn
deriving DecidableEq, Repr

/-- An event. -/
inductive Event
  /-- A schema has no type tag, or one that is not known; it becomes no value at all. -/
  | unknownType (tag id field : Option String)
  /-- A number schema has a format that is not known; it becomes a 64-bit integer. -/
  | unknownFormat (format : String) (id field : Option String)
  | resolvingSchema (name : String)
  /-- A model has been registered, with so many declarations directly in it. -/
  | registered (type : QualifiedName) (nested : Nat)
  /-- A component is opened, as the given number of open ones. -/
  | opening (component : QualifiedName) (depth : Nat)
  | closing (component : QualifiedName)
  | generated (api : String) (models : Nat)
  | wroteUnit (path : String)
  | finished (apis files : Nat) (output : String)
deriving DecidableEq, Repr

namespace Event

/-- What is said about one aspect of an event. -/
inductive Value
  | text (value : String)
  | count (value : Nat)

/-- How much the event matters. -/
def level : Event → Level
  | unknownType .. | unknownFormat .. => .warn
  | generated .. | finished .. => .info
  | _ => .debug

/-- What happened. -/
def message : Event → String
  | unknownType .. => "don't know how to handle schema type, falling back to void"
  | unknownFormat .. => "don't know how to handle number format, defaulting to 64-bit integer"
  | resolvingSchema .. => "resolving schema"
  | registered .. => "registered model type"
  | opening .. => "opening component"
  | closing .. => "closing component"
  | generated .. => "generated API"
  | wroteUnit .. => "wrote source unit"
  | finished .. => "generation finished"

/-- A schema's id, or the words for having none. -/
def idText (id : Option String) : Value :=
  .text (id.getD "<anonymous>")

/-- The field that a schema belongs to, or the words for there being none. -/
def fieldText (field : Option String) : Value :=
  .text (field.getD "<none>")

/-- The particulars of the event, by name. -/
def fields : Event → List (String × Value)
  | unknownType tag id field =>
    [("schema_type", .text (tag.getD "<missing>")), ("schema_id", idText id),
      ("field", fieldText field)]
  | unknownFormat format id field =>
    [("format", .text format), ("schema_id", idText id), ("field", fieldText field)]
  | resolvingSchema name => [("schema", .text name)]
  | registered type nested => [("type_name", .text type.dotted), ("nested", .count nested)]
  | opening component depth =>
    [("component", .text component.dotted), ("depth", .count depth)]
  | closing component => [("component", .text component.dotted)]
  | generated api models => [("api", .text api), ("models", .count models)]
  | wroteUnit path => [("path", .text path)]
  | finished apis files output =>
    [("apis", .count apis), ("files", .count files), ("output", .text output)]

end Event

end ClientGen
