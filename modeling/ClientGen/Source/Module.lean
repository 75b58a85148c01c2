import ClientGen.Source.Model
import ClientGen.Source.Service

/-!
# Modules in generated source

A class that is not nested has a module to itself. What is nested in a class goes into a module
named after that class, beside it, so that nested declarations are found in nested modules.
-/

namespace ClientGen.Source

/-- The items of a class, without what is nested in it. -/
def classItems (rt : String) (c : Class) : List Item :=
  if c.kind == .model then [modelItem rt c] else serviceItems rt c

/-- The items of a declaration, without what is nested in it. -/
def declarationItems (rt : String) : Declaration → List Item
  | .ofClass c => classItems rt c
  | .ofEnum e => [enumItem e]

mutual

/-- The module for what is nested in a class, if there is anything. -/
def nestedModule (rt : String) : Class → List Item
  | ⟨_, _, _, _, _, _, _, _, _, []⟩ => []
  | ⟨name, _, _, _, _, _, _, _, _, nested⟩ =>
    [.module (moduleName name.simpleName)
      (nested.flatMap (declarationItems rt) ++ nestedModules rt nested)]

/-- The modules for what is nested in each of the declarations. -/
def nestedModules (rt : String) : List Declaration → List Item
  | [] => []
  | .ofClass c :: rest => nestedModule rt c ++ nestedModules rt rest
  | .ofEnum _ :: rest => nestedModules rt rest

end

/-- The items of the module that a class which is not nested has to itself: the class, and all that
is nested in it. -/
def moduleItems (rt : String) (c : Class) : List Item :=
  classItems rt c ++ c.nested.flatMap (declarationItems rt) ++ nestedModules rt c.nested

end ClientGen.Source
