import ClientGen.Api

/-!
# Declarations in other packages

Names carry their package, and they are everywhere in a declaration: in types, in what constructors
pass on, in what factories return, in whatever is nested. `Class.mapPackages f` puts every one of
them into the package that `f` gives for its own, and changes nothing else; so does each of the
other `mapPackages` with its kind of data. They are opened by lemmas with one equation for each kind
of type, step or declaration.
-/

namespace ClientGen

variable (f : List String → List String)

/-! ## Names and types -/

/-- The name in another package. -/
def QualifiedName.mapPackage (q : QualifiedName) : QualifiedName :=
  { q with package := f q.package }

@[simp] theorem QualifiedName.mapPackage_topLevel (package : List String) (name : String) :
    (topLevel package name).mapPackage f = topLevel (f package) name := rfl

@[simp] theorem QualifiedName.mapPackage_nested (q : QualifiedName) (name : String) :
    (q.nested name).mapPackage f = (q.mapPackage f).nested name := rfl

mutual

/-- The type with all its names in other packages. -/
def TypeRef.mapPackages : TypeRef → TypeRef
  | .named name => .named (name.mapPackage f)
  | .list item => .list (TypeRef.mapPackages item)
  | .map value => .map (TypeRef.mapPackages value)
  | .applied raw args => .applied (TypeRef.mapPackages raw) (TypeRef.mapAllPackages args)
  | .runtime type => .runtime type
  | .primitive type => .primitive type
  | .variable name => .variable name
  | .void => .void

/-- The types with all their names in other packages. -/
def TypeRef.mapAllPackages : List TypeRef → List TypeRef
  | [] => []
  | type :: rest => TypeRef.mapPackages type :: TypeRef.mapAllPackages rest

end

/-! ## Parts of a class -/

def Field.mapPackages (field : Field) : Field :=
  { field with type := field.type.mapPackages f }

def Param.mapPackages (p : Param) : Param :=
  { p with type := p.type.mapPackages f }

def Expr.mapPackages : Expr → Expr
  | .type literal => .type (literal.mapPackages f)
  | .client => .client
  | .verb name => .verb name
  | .constant name => .constant name
  | .param identifier => .param identifier
  | .absent => .absent

def Statement.mapPackages : Statement → Statement
  | .forward args => .forward (args.map (Expr.mapPackages f))
  | .require identifier message => .require identifier message

def Constructor.mapPackages (c : Constructor) : Constructor :=
  { c with
    params := c.params.map (Param.mapPackages f)
    body := c.body.map (Statement.mapPackages f) }

def Factory.mapPackages (factory : Factory) : Factory :=
  { factory with
    params := factory.params.map (Param.mapPackages f)
    returns := factory.returns.mapPackage f }

def Enum.mapPackages (e : Enum) : Enum :=
  { e with name := e.name.mapPackage f }

/-! ## Declarations -/

mutual

/-- The class with all names in it in other packages, at every depth. -/
def Class.mapPackages : Class → Class
  | ⟨name, kind, documentation, typeParameters, superType, constants, fields, constructors,
      factories, nested⟩ =>
    ⟨name.mapPackage f, kind, documentation, typeParameters, superType.map (TypeRef.mapPackages f),
      constants, fields.map (Field.mapPackages f), constructors.map (Constructor.mapPackages f),
      factories.map (Factory.mapPackages f), DeclarationOf.mapAllPackages nested⟩

/-- The declaration with all names in it in other packages, at every depth. -/
def DeclarationOf.mapPackages : DeclarationOf Class → DeclarationOf Class
  | .ofClass c => .ofClass (Class.mapPackages c)
  | .ofEnum e => .ofEnum (e.mapPackages f)

/-- The declarations with all names in them in other packages. -/
def DeclarationOf.mapAllPackages : List (DeclarationOf Class) → List (DeclarationOf Class)
  | [] => []
  | d :: rest => DeclarationOf.mapPackages d :: DeclarationOf.mapAllPackages rest

end

theorem DeclarationOf.mapAllPackages_eq_map (ds : List Declaration) :
    mapAllPackages f ds = ds.map (mapPackages f) := by
  induction ds with
  | nil => rfl
  | cons d rest ih => rw [mapAllPackages, ih, List.map_cons]

theorem Class.mapPackages_eq (c : Class) :
    c.mapPackages f = { c with
      name := c.name.mapPackage f
      superType := c.superType.map (TypeRef.mapPackages f)
      fields := c.fields.map (Field.mapPackages f)
      constructors := c.constructors.map (Constructor.mapPackages f)
      factories := c.factories.map (Factory.mapPackages f)
      nested := c.nested.map (DeclarationOf.mapPackages f) } := by
  obtain ⟨name, kind, documentation, typeParameters, superType, constants, fields, constructors,
    factories, nested⟩ := c
  rw [mapPackages, DeclarationOf.mapAllPackages_eq_map]

@[simp] theorem Class.simpleName_mapPackages (c : Class) :
    (c.mapPackages f).simpleName = c.simpleName := by
  rw [mapPackages_eq]
  rfl

/-- The API with all names in it in other packages, its own packages included. -/
def Api.mapPackages (api : Api) : Api where
  selector := api.selector
  package := f api.package
  modelPackage := f api.modelPackage
  models := api.models.map (Class.mapPackages f)
  request := api.request.mapPackages f
  client := api.client.mapPackages f

end ClientGen
