import ClientGen.Declaration
import ClientGen.Error

/-!
# Components

Every resource and every method of an API becomes a class nested in what it belongs to, and a
factory method there that makes it. Components under construction are on a stack above a root class:
opening one puts it on top and hands out a handle, closing one takes it off and nests it in the
class below. Only the innermost component can be closed, and only with its handle.
-/

namespace ClientGen.Component

/-! ## What a component is made of -/

/-- What a component is called, and what its constructor takes. -/
structure Spec where
  identifier : Identifier
  documentation : Option String := none
  /-- The request body, which comes after the required parameters. -/
  body : Option Param := none
  /-- Required parameters, in call order. -/
  required : List Param := []

/-- The parameters of the constructor and of the factory method. -/
def Spec.params (s : Spec) : List Param :=
  s.required ++ s.body.toList

/-- What refuses a missing value for a parameter. -/
def requirement (p : Param) : Statement :=
  .require p.identifier s!"Required parameter {p.identifier.name} must be specified."

/-- The field that holds the value of a parameter. -/
def paramField (key : Bool) (p : Param) : Field where
  identifier := p.identifier
  type := p.type
  required := true
  key

/-- A component under construction. -/
structure Draft where
  spec : Spec
  type : Class
  /-- Its one constructor. -/
  init : Constructor

namespace Draft

/-- The component that `spec` describes, with the given name, as yet without content. -/
def new (name : QualifiedName) (spec : Spec) : Draft where
  spec
  type := { name, kind := .component }
  init := { name := "new", params := spec.params }

/-- The fields for the parameters: those that are sent as request parameters, then the body. -/
def paramFields (d : Draft) : List Field :=
  d.spec.required.map (paramField true) ++ d.spec.body.toList.map (paramField false)

/-- The finished class: fields for the parameters, and a constructor that asks for all of them. -/
def finish (d : Draft) : Class :=
  { d.type with
    fields := d.type.fields ++ d.paramFields
    constructors := d.type.constructors ++
      [{ d.init with body := d.init.body ++ d.spec.params.map requirement }] }

/-- The factory method for the component. -/
def factory (d : Draft) : Factory where
  identifier := d.spec.identifier
  params := d.spec.params
  returns := d.type.name
  documentation := d.spec.documentation.map escapeDoc

/-- The class below a component with the finished component in it. -/
def nestIn (d : Draft) (parent : Class) : Class :=
  { parent with
    nested := parent.nested ++ [.ofClass d.finish]
    factories := parent.factories ++ [d.factory] }

end Draft

/-! ## The stack -/

/-- What is handed out for an open component: how many were open with it, and its name. -/
structure Handle where
  depth : Nat
  name : QualifiedName
deriving DecidableEq, Repr, Inhabited

/-- The components under construction, innermost first, above a root class. -/
structure Stack where
  root : Class
  drafts : List Draft := []

namespace Stack

/-- The number of open components. -/
def depth (s : Stack) : Nat :=
  s.drafts.length

/-- The innermost class under construction; the root if no component is open. -/
def current (s : Stack) : Class :=
  match s.drafts with
  | [] => s.root
  | d :: _ => d.type

/-- Changes the innermost class under construction. -/
def modifyCurrent (s : Stack) (f : Class → Class) : Stack :=
  match s.drafts with
  | [] => { s with root := f s.root }
  | d :: below => { s with drafts := { d with type := f d.type } :: below }

/-- The constructor of the innermost component; the root has none. -/
def constructor? (s : Stack) : Option Constructor :=
  s.drafts.head?.map (·.init)

/-- Changes the constructor of the innermost component, if one is open. -/
def modifyConstructor (s : Stack) (f : Constructor → Constructor) : Stack :=
  match s.drafts with
  | [] => s
  | d :: below => { s with drafts := { d with init := f d.init } :: below }

/-- The name that a component gets when it is opened in the current class. -/
def childName (s : Stack) (identifier : Identifier) : QualifiedName :=
  s.current.name.nested identifier.typeName

/-- Opens a component in the current class. -/
def openChild (s : Stack) (spec : Spec) : Stack × Handle :=
  let name := s.childName spec.identifier
  ({ s with drafts := Draft.new name spec :: s.drafts }, ⟨s.depth + 1, name⟩)

/-- Nests the component of the handle in the class below it, if it is the innermost one. -/
def close (s : Stack) (handle : Handle) : Except Error Stack :=
  match s.drafts with
  | d :: below =>
    if handle.depth = s.depth then
      .ok (modifyCurrent { s with drafts := below } d.nestIn)
    else .error (.handleOutOfOrder handle.name.dotted (s.depth - handle.depth))
  | [] => .error (.handleOutOfOrder handle.name.dotted 0)

/-- The root class, once no component is open. -/
def finish (s : Stack) : Except Error Class :=
  if s.drafts.isEmpty then .ok s.root else .error (.unclosedHandles s.depth)

end Stack

end ClientGen.Component
