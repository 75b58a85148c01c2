import ClientGen.Api
import ClientGen.Source.Module

/-!
# Source files

A generated API becomes a directory for its package, with a file for the client and one for the
request type, and a directory for its models with a file for each. Every directory has an index,
which names the modules in it and makes their types reachable directly. The base package, which APIs
share, has indexes of its own, from its first segment down to the APIs.

The same source can be written as one text of nested modules instead.
-/

namespace ClientGen.Source

/-! ## Files and units -/

/-- A source file: the directory and module that it is, and its items. -/
structure File where
  directory : List String
  module : String
  items : List Item

/-- A file as it is written out: its path below the output directory, and its text. -/
structure SourceUnit where
  path : String
  contents : String
deriving DecidableEq, Repr, Inhabited

/-- The first line of every file. -/
def header : String := "//! Generated by discoverygen. Do not edit manually."

/-- The module whose file is the index of a directory. -/
def indexModule : String := "mod"

namespace File

/-- The path of the file: its directory and its module, with the extension of source files. -/
def path (f : File) : String :=
  "/".intercalate (f.directory ++ [f.module ++ ".rs"])

/-- The text of the file. -/
def contents (f : File) : String :=
  header ++ "\n\n" ++ printItems f.items

/-- The file as it is written out. -/
def unit (f : File) : SourceUnit :=
  ⟨f.path, f.contents⟩

/-- The file of a class that is not nested. -/
def ofClass (rt : String) (directory : List String) (c : Class) : File where
  directory
  module := moduleName c.simpleName
  items := moduleItems rt c

/-- The index of a directory: its modules, and the types that can be reached directly. -/
def index (directory : List String) (modules : List String) (types : List (String × String)) :
    File where
  directory
  module := indexModule
  items := [.submodules modules, .reexports types]

end File

/-- The directory of a package. -/
def packageDirectory (package : List String) : List String :=
  package.map moduleName

/-- The module and the type name of a class that is not nested. -/
def reexport (c : Class) : String × String :=
  (moduleName c.simpleName, typeName c.simpleName)

/-! ## The files of an API -/

/-- The files of an API: request type, client and their index, then the models and their index. -/
def files (rt : String) (a : Api) : List File :=
  let package := packageDirectory a.package
  let models := packageDirectory a.modelPackage
  let services := [a.request, a.client]
  services.map (.ofClass rt package) ++
    [.index package
      (a.modelPackage.getLast?.toList.map moduleName ++ services.map fun c => (reexport c).1)
      (services.map reexport)] ++
    a.models.map (.ofClass rt models) ++
    [.index models (a.models.map fun c => (reexport c).1) (a.models.map reexport)]

/-- The files of an API as they are written out. -/
def units (rt : String) (a : Api) : List SourceUnit :=
  (files rt a).map (·.unit)

/-! ## The indexes of the base package -/

/-- The names in their order, each of them once. -/
def sortedDistinct (names : List String) : List String :=
  Keyed.keys (Keyed.ofList (names.map fun name => (name, ())))

/-- The modules of APIs in their base package. -/
def apiModules (apis : List Api) : List String :=
  sortedDistinct <| apis.filterMap fun a => a.package.getLast?.map moduleName

/-- The indexes below `directory`, one for every segment that is left of the base package: each
names the next one, and the last names the modules `apis`. -/
def indexesBelow (apis : List String) (directory : List String) : List String → List File
  | [] => []
  | [segment] => [.index (directory ++ [segment]) apis []]
  | segment :: next :: rest =>
    .index (directory ++ [segment]) [next] [] ::
      indexesBelow apis (directory ++ [segment]) (next :: rest)

/-- The indexes of the base package. An empty one has an index at the very top. -/
def baseIndexes (base : List String) (apis : List Api) : List File :=
  match packageDirectory base with
  | [] => [.index [] (apiModules apis) []]
  | segments => indexesBelow (apiModules apis) [] segments

/-- The indexes of the base package as they are written out. -/
def baseUnits (base : List String) (apis : List Api) : List SourceUnit :=
  (baseIndexes base apis).map (·.unit)

/-! ## One text -/

/-- The module that a class which is not nested has in one text. -/
def classModule (rt : String) (c : Class) : Item :=
  .embedded (moduleName c.simpleName) (moduleItems rt c)

/-- The module of the models. -/
def modelsModule (rt : String) (a : Api) : Item :=
  .module ((a.modelPackage.getLast?.map moduleName).getD modelSegment)
    (a.models.map (classModule rt) ++ [.reexports (a.models.map reexport)])

/-- The items of an API as nested modules, from the first segment of its package on. -/
def inlineItems (rt : String) (a : Api) : List Item :=
  let services := [a.request, a.client]
  (packageDirectory a.package).foldr (fun name items => [.module name items]) <|
    modelsModule rt a :: services.map (classModule rt) ++ [.reexports (services.map reexport)]

/-- The source of an API as one text of nested modules. -/
def inline (rt : String) (a : Api) : String :=
  printItems (inlineItems rt a)

end ClientGen.Source
