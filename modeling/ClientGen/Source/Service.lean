import ClientGen.RequestContract
import ClientGen.Source.Item
import ClientGen.Source.Type

/-!
# Services in generated source

A client, a request type or a component is a struct and its implementation: constructors, accessors
for the value of the super type and for the fields, the collection of the parameters to be sent,
and factory methods for the components nested in it. A constructor that may fail gives a `Result`.
-/

namespace ClientGen.Source

/-! ## Constructors -/

/-- The argument is a parameter of another type than that of a request body, and stands where the
runtime takes the body; the index is its place among the arguments. -/
def wrapsContent (params : List Param) (argument : Expr) (index : Nat) : Bool :=
  match argument with
  | .param identifier =>
    (baseRequest.primary.params[index]?.map (·.role)) == some .content &&
      !params.any fun p => p.identifier == identifier && p.type.isContent
  | _ => false

/-- The statement may fail. -/
def Statement.isFallible (params : List Param) : Statement → Bool
  | .require .. => true
  | .forward args => args.zipIdx.any fun (argument, index) => wrapsContent params argument index

/-- The constructor may fail. -/
def Constructor.isFallible (c : Constructor) : Bool :=
  c.body.any (Statement.isFallible c.params)

/-- An argument that a constructor passes on, by its place. -/
def argument (rt : String) (params : List Param) (e : Expr) (index : Nat) : Argument :=
  match e with
  | .client => .client
  | .type type => .marker (typeText rt type)
  | .verb name => .verb rt (Text.upperCase name)
  | .constant name => .constant name
  | .param identifier =>
    if wrapsContent params e index then .content rt (fieldName identifier)
    else .variable (fieldName identifier)
  | .absent => .absent

/-- A step of a constructor. Without a super type there is no constructor to call. -/
def step? (rt : String) (c : Class) (params : List Param) : Statement → Option Step
  | .forward args =>
    c.superType.map fun base =>
      .base (rawTypeText rt base) baseRequest.primary.name
        (args.zipIdx.map fun (e, index) => argument rt params e index)
  | .require identifier message => some (.require rt (fieldName identifier) message)

/-- The statement calls a constructor of the super type. -/
def Statement.isForward : Statement → Bool
  | .forward _ => true
  | .require .. => false

/-- The constructor makes a value of the super type. -/
def makesBase (c : Class) (init : Constructor) : Bool :=
  c.superType.isSome && init.body.any Statement.isForward

/-- How a constructor sets the field for a field of the class. -/
def setting (f : Field) : Setting :=
  if f.required then .same (fieldName f.identifier) else .absent (fieldName f.identifier)

/-- A parameter with its type. -/
def paramText (rt : String) (p : Param) : String × String :=
  (fieldName p.identifier, typeText rt p.type)

/-- The class is a component, which holds the runtime client. -/
def holdsClient (c : Class) : Bool :=
  c.kind == .component

/-- The type of a value, or of an error of the runtime. -/
def resultType (rt : String) (fallible : Bool) (type : String) : String :=
  if fallible then s!"Result<{type}, {rt}::Error>" else type

/-- The method for a constructor. -/
def constructorItem (rt : String) (c : Class) (init : Constructor) : MethodItem :=
  let fallible := Constructor.isFallible init
  let client := if holdsClient c then [(clientField, runtimeType rt .client)] else []
  { signature := {
      name := init.name
      params := client ++ init.params.map (paramText rt)
      result := resultType rt fallible "Self" }
    body := .construct (init.body.filterMap (step? rt c init.params))
      ((if holdsClient c then [.same clientField] else []) ++
        (if makesBase c init then [.same baseField] else []) ++ c.fields.map setting)
      fallible }

/-- The constructor of a client, which takes the runtime's client. -/
def clientConstructor (rt : String) : MethodItem where
  documentation := some "Creates the client on top of a configured runtime client."
  signature := {
    name := "new"
    params := [("base", runtimeType rt .client)]
    result := "Self" }
  body := .construct [] [.to baseField "base"] false

/-! ## Accessors -/

/-- The methods that give the value of the super type. -/
def baseAccessors (rt : String) (base : TypeRef) : List MethodItem :=
  let type := typeText rt base
  [{ signature := { name := baseField, receiver := some "&self", result := "&" ++ type }
     body := .field baseField },
    { signature :=
        { name := baseMutMethod, receiver := some "&mut self", result := "&mut " ++ type }
      body := .fieldMut baseField }]

/-- The name without collision suffixes at its end. -/
def dropSuffix (name : List Char) : List Char :=
  let rec strip : List Char → List Char
    | '_' :: '_' :: rest => strip rest
    | rest => rest
  (strip name.reverse).reverse

/-- The name of the method that sets a field. -/
def setterName (i : Identifier) : String :=
  "set_" ++ String.ofList (dropSuffix (fieldName i).toList)

/-- The methods that give and set a field. A required field is only given. -/
def fieldAccessors (rt : String) (f : Field) : List MethodItem :=
  let name := fieldName f.identifier
  let type := typeText rt f.type
  if f.required then
    [{ documentation := f.documentation
       signature := { name, receiver := some "&self", result := "&" ++ type }
       body := .field name }]
  else
    [{ documentation := f.documentation
       signature := { name, receiver := some "&self", result := s!"Option<&{type}>" }
       body := .fieldValue name },
      { signature := {
          name := setterName f.identifier
          receiver := some "&mut self"
          params := [(name, type)]
          result := "&mut Self" }
        body := .setField name }]

/-! ## Parameters to be sent -/

/-- The class is built on a generated request type. -/
def extendsRequest (c : Class) : Bool :=
  match c.superType with
  | some (.applied (.named _) _) => true
  | _ => false

/-- How a field is sent. -/
def push (f : Field) : Push where
  wireName := f.identifier.wireName
  field := fieldName f.identifier
  always := f.required

/-- The method that collects the parameters to be sent. -/
def parametersItem (c : Class) : MethodItem where
  documentation := some "Request parameters sent on the wire, by wire name."
  signature := {
    name := "parameters"
    receiver := some "&self"
    result := s!"Result<{parameterList}, serde_json::Error>" }
  body := .collect (extendsRequest c) ((c.fields.filter (·.key)).map push)

/-! ## Factory methods -/

/-- The method that makes a component. -/
def factoryItem (rt : String) (c : Class) (f : Factory) : MethodItem :=
  let target := typePath f.returns
  let made := (c.nestedClass? f.returns.simpleName).bind (·.constructors.head?)
  let client := if c.kind == .client then baseField else clientField
  { documentation := f.documentation
    signature := {
      name := fieldName f.identifier
      receiver := some "&self"
      params := f.params.map (paramText rt)
      result := resultType rt (made.any Constructor.isFallible) target }
    body := .make target
      (s!"self.{client}.clone()" :: f.params.map fun p => fieldName p.identifier) }

/-! ## Services -/

/-- The fields of a service struct. -/
def serviceFields (rt : String) (c : Class) : List ServiceField :=
  (if holdsClient c then [{ name := clientField, type := runtimeType rt .client }] else []) ++
    c.superType.toList.map (fun base => { name := baseField, type := typeText rt base }) ++
    c.fields.map fun f =>
      let type := typeText rt f.type
      { documentation := f.documentation
        name := fieldName f.identifier
        type := if f.required then type else s!"Option<{type}>" }

/-- The methods of a service. -/
def serviceMethods (rt : String) (c : Class) : List MethodItem :=
  (if c.kind == .client then [clientConstructor rt] else []) ++
    c.constructors.map (constructorItem rt c) ++
    c.superType.toList.flatMap (baseAccessors rt) ++
    c.fields.flatMap (fieldAccessors rt) ++
    (if c.kind == .requestBase || extendsRequest c then [parametersItem c] else []) ++
    c.factories.map (factoryItem rt c)

/-- The type parameters of a class. -/
def generics (c : Class) : String :=
  if c.typeParameters.isEmpty then "" else "<" ++ ", ".intercalate c.typeParameters ++ ">"

/-- The struct and the implementation of a service. -/
def serviceItems (rt : String) (c : Class) : List Item :=
  let name := typeName c.name.simpleName
  [.service c.documentation name (generics c) (serviceFields rt c),
    .implementation name (generics c)
      (c.constants.map fun constant => (constant.name, c.constantText constant))
      (serviceMethods rt c)]

end ClientGen.Source
