/-!
# Qualified names

A generated type has a package and a chain of names: the types around it, outermost first, and its
own simple name. Nesting a type in another makes the chain one longer and keeps the package.
-/

namespace ClientGen

/-- The full name of a generated type. -/
structure QualifiedName where
  package : List String
  /-- The names of the types around it, outermost first. -/
  enclosing : List String := []
  simpleName : String
deriving DecidableEq, Repr, Inhabited

namespace QualifiedName

/-- The name of a type that stands directly in a package. -/
def topLevel (package : List String) (name : String) : QualifiedName :=
  { package, simpleName := name }

/-- The chain of names, the simple name last. -/
def names (q : QualifiedName) : List String :=
  q.enclosing ++ [q.simpleName]

/-- The name of a type nested in this one. -/
def nested (q : QualifiedName) (name : String) : QualifiedName :=
  { package := q.package, enclosing := q.names, simpleName := name }

/-- The package and the chain of names, joined by periods. -/
def dotted (q : QualifiedName) : String :=
  ".".intercalate (q.package ++ q.names)

@[simp] theorem package_nested (q : QualifiedName) (name : String) :
    (q.nested name).package = q.package := rfl

@[simp] theorem simpleName_nested (q : QualifiedName) (name : String) :
    (q.nested name).simpleName = name := rfl

@[simp] theorem names_nested (q : QualifiedName) (name : String) :
    (q.nested name).names = q.names ++ [name] := rfl

end QualifiedName

end ClientGen
