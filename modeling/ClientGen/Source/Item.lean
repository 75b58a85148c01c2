import ClientGen.Source.Block
import ClientGen.Source.Name
import ClientGen.Text.Literal

/-!
# Items of generated source

The generated Rust source as data: structs, enums, implementations with their methods, and modules.
Types stand in it as their text. Every item is written as a group of lines and blocks, and the items
of a module have a blank line between them.
-/

namespace ClientGen.Source

/-! ## Structs and enums -/

/-- What has to be said about the serialised form of a field. -/
inductive SerdeArgument
  /-- The name on the wire, where it is not the name of the field. -/
  | rename (wireName : String)
  /-- A missing value takes the default. -/
  | useDefault
  /-- The module that writes and reads the value. -/
  | codec (path : String)
  /-- An absent value is not written. -/
  | skipAbsent

/-- The argument as it is written. -/
def SerdeArgument.text : SerdeArgument → String
  | .rename wireName => "rename = " ++ Text.literal wireName
  | .useDefault => "default"
  | .codec path => "with = \"" ++ path ++ "\""
  | .skipAbsent => "skip_serializing_if = \"Option::is_none\""

/-- A field of a model struct. -/
structure ModelField where
  documentation : Option String
  arguments : List SerdeArgument
  name : String
  type : String

/-- A field of a service struct. -/
structure ServiceField where
  documentation : Option String := none
  name : String
  type : String

/-- A variant of an enum. -/
structure Variant where
  documentation : Option String
  wireName : String
  name : String

/-! ## Methods -/

/-- How a method is called. -/
structure Signature where
  name : String
  receiver : Option String := none
  /-- Names and types of the parameters. -/
  params : List (String × String) := []
  result : String

/-- What a constructor passes to the one of its super type. -/
inductive Argument
  /-- The runtime client of the component. -/
  | client
  /-- A value that only carries a type. -/
  | marker (type : String)
  | verb (runtime verb : String)
  | constant (name : String)
  /-- A variable turned into the body of a request, which may fail. -/
  | content (runtime name : String)
  | variable (name : String)
  | absent

/-- A step of a constructor. -/
inductive Step
  /-- Makes the value of the super type. -/
  | base (type constructor : String) (arguments : List Argument)
  /-- Refuses a parameter without a value, which may fail. -/
  | require (runtime name message : String)

/-- How a constructor sets a field. -/
inductive Setting
  /-- To the variable of the same name. -/
  | same (name : String)
  | to (name value : String)
  /-- To no value. -/
  | absent (name : String)

/-- Puts a parameter into the list of those to be sent. -/
structure Push where
  wireName : String
  field : String
  /-- The field always has a value. -/
  always : Bool

/-- What a method does. -/
inductive Body
  /-- Makes a value of the type itself; `fallible` if a step may fail. -/
  | construct (steps : List Step) (settings : List Setting) (fallible : Bool)
  /-- Gives a field. -/
  | field (name : String)
  /-- Gives a field for changing. -/
  | fieldMut (name : String)
  /-- Gives the value of a field, if there is one. -/
  | fieldValue (name : String)
  /-- Sets a field. -/
  | setField (name : String)
  /-- Makes a component. -/
  | make (type : String) (arguments : List String)
  /-- Collects the parameters to be sent, after those of the super type if it `inherits` some. -/
  | collect (inherits : Bool) (pushes : List Push)

/-- A method. -/
structure MethodItem where
  documentation : Option String := none
  signature : Signature
  body : Body

/-! ## Items -/

/-- An item of a module. -/
inductive Item
  | model (documentation : Option String) (name : String) (fields : List ModelField)
  | service (documentation : Option String) (name generics : String) (fields : List ServiceField)
  | implementation (name generics : String) (constants : List (String × String))
      (methods : List MethodItem)
  | enumeration (documentation : Option String) (name : String) (variants : List Variant)
  | module (name : String) (items : List Item)
  /-- A module whose text is finished first, and then put in line by line. -/
  | embedded (name : String) (items : List Item)
  /-- Modules that have files of their own. -/
  | submodules (names : List String)
  /-- Types of submodules that can be reached directly, each with its module. -/
  | reexports (types : List (String × String))

/-! ## Writing structs and enums -/

/-- The blocks of a model field. -/
def ModelField.blocks (f : ModelField) : List Block :=
  docBlocks f.documentation ++
    [.line ("#[serde(" ++ ", ".intercalate (f.arguments.map (·.text)) ++ ")]"),
      .line s!"pub {f.name}: Option<{f.type}>,"]

/-- The blocks of a service field. -/
def ServiceField.blocks (f : ServiceField) : List Block :=
  docBlocks f.documentation ++ [.line s!"{f.name}: {f.type},"]

/-- The blocks of a variant. -/
def Variant.blocks (v : Variant) : List Block :=
  docBlocks v.documentation ++
    [.line ("#[serde(rename = " ++ Text.literal v.wireName ++ ")]"), .line (v.name ++ ",")]

/-! ## Writing methods -/

/-- The first line of a method. -/
def Signature.text (s : Signature) : String :=
  let params := s.receiver.toList ++ s.params.map fun (name, type) => name ++ ": " ++ type
  "pub fn " ++ s.name ++ "(" ++ ", ".intercalate params ++ ") -> " ++ s.result ++ " \x7b"

/-- The argument as it is written. -/
def Argument.text : Argument → String
  | .client => clientField ++ ".clone()"
  | .marker type => s!"std::marker::PhantomData::<{type}>"
  | .verb runtime word => s!"{runtime}::Method::{word}"
  | .constant name => s!"Self::{name}.to_string()"
  | .content runtime name => s!"Some({runtime}::Content::json(&{name})?)"
  | .variable name => name
  | .absent => "None"

/-- The step as it is written. -/
def Step.text : Step → String
  | .base type constructor arguments =>
    let passed := ", ".intercalate (arguments.map (·.text))
    s!"let {baseField} = {type}::{constructor}({passed});"
  | .require runtime name message =>
    s!"let {name} = {runtime}::require({name}, " ++ Text.literal message ++ ")?;"

/-- The setting as it is written. -/
def Setting.text : Setting → String
  | .same name => name
  | .to name value => s!"{name}: {value}"
  | .absent name => s!"{name}: None"

/-- A value of the type itself with its fields set. -/
def selfValue (settings : List Setting) : String :=
  if settings.isEmpty then "Self \x7b\x7d"
  else "Self \x7b " ++ ", ".intercalate (settings.map (·.text)) ++ " \x7d"

/-- The type of a list of parameters to be sent. -/
def parameterList : String := "Vec<(&'static str, serde_json::Value)>"

/-- The blocks that put a parameter into the list. -/
def Push.block (p : Push) : Block :=
  let push (value : String) : Block :=
    .line
      ("parameters.push((" ++ Text.literal p.wireName ++ s!", serde_json::to_value({value})?));")
  if p.always then push s!"&self.{p.field}"
  else .group (s!"if let Some(ref value) = self.{p.field}" ++ " \x7b") [push "value"] "\x7d"

/-- The blocks of what a method does. -/
def Body.blocks : Body → List Block
  | .construct steps settings fallible =>
    let value := selfValue settings
    steps.map (.line ·.text) ++ [.line (if fallible then s!"Ok({value})" else value)]
  | .field name => [.line s!"&self.{name}"]
  | .fieldMut name => [.line s!"&mut self.{name}"]
  | .fieldValue name => [.line s!"self.{name}.as_ref()"]
  | .setField name => [.line s!"self.{name} = Some({name});", .line "self"]
  | .make type arguments =>
    let passed := ", ".intercalate arguments
    [.line s!"{type}::new({passed})"]
  | .collect inherits [] =>
    [.line (if inherits then s!"self.{baseField}.parameters()" else "Ok(Vec::new())")]
  | .collect inherits pushes =>
    let start := if inherits then s!"self.{baseField}.parameters()?" else "Vec::new()"
    .line s!"let mut parameters: {parameterList} = {start};" ::
      pushes.map (·.block) ++ [.line "Ok(parameters)"]

/-- The blocks of a method. -/
def MethodItem.blocks (m : MethodItem) : List Block :=
  docBlocks m.documentation ++ [.group m.signature.text m.body.blocks "\x7d"]

/-! ## Writing items -/

/-- What a model struct derives. -/
def modelDerives : String :=
  "#[derive(Debug, Clone, Default, PartialEq, serde::Serialize, serde::Deserialize)]"

/-- What a service struct derives. -/
def serviceDerives : String :=
  "#[derive(Debug, Clone)]"

/-- What an enum derives. -/
def enumDerives : String :=
  "#[derive(Debug, Clone, Copy, PartialEq, Eq, Hash, serde::Serialize, serde::Deserialize)]"

/-- The constants of an implementation as they are written. -/
def constantBlocks (constants : List (String × String)) : List Block :=
  constants.map fun (name, value) =>
    .line (s!"pub const {name}: &str = " ++ Text.literal value ++ ";")

/-- Reexported types as they are written. -/
def reexportBlocks (types : List (String × String)) : List Block :=
  types.map fun (module, type) => .line s!"pub use {module}::{type};"

mutual

/-- The blocks of an item. -/
def Item.blocks : Item → List Block
  | .model documentation name fields =>
    docBlocks documentation ++
      [.line modelDerives,
        .group (s!"pub struct {name}" ++ " \x7b") (fields.flatMap (·.blocks)) "\x7d"]
  | .service documentation name generics fields =>
    docBlocks documentation ++
      [.line serviceDerives,
        .group (s!"pub struct {name}{generics}" ++ " \x7b") (fields.flatMap (·.blocks)) "\x7d"]
  | .implementation name generics constants methods =>
    [.group (s!"impl{generics} {name}{generics}" ++ " \x7b")
      (separated (constantBlocks constants :: methods.map (·.blocks))) "\x7d"]
  | .enumeration documentation name variants =>
    docBlocks documentation ++
      [.line enumDerives,
        .group (s!"pub enum {name}" ++ " \x7b") (variants.flatMap (·.blocks)) "\x7d"]
  | .module name items =>
    [.group (s!"pub mod {name}" ++ " \x7b") (separated (itemBlocks items)) "\x7d"]
  | .embedded name items =>
    [.group (s!"pub mod {name}" ++ " \x7b")
      (reindented (printBlocks 0 (separated (itemBlocks items)))) "\x7d"]
  | .submodules names => names.map fun name => .line s!"pub mod {name};"
  | .reexports types => reexportBlocks types

/-- The blocks of each of the items. -/
def itemBlocks : List Item → List (List Block)
  | [] => []
  | item :: rest => item.blocks :: itemBlocks rest

end

/-- The text of a module with the given items. -/
def printItems (items : List Item) : String :=
  printBlocks 0 (separated (itemBlocks items))

end ClientGen.Source
