import ClientGen.Files
import ClientGen.Source.File

/-!
# Runs over files

Documents are read from a directory, and clients are written below the output directory. A run over
several APIs generates all of them before it writes anything, and refuses APIs that would share a
package; then it writes every API, and last the indexes of the base package.
-/

namespace ClientGen

open Source

/-! ## Computations in a run -/

/-- A traced computation as part of a run, which reports its events. -/
def Traced.run {m : Type → Type} [Monad m] [Files m] {α : Type} (x : Traced α) :
    ExceptT Error m α := do
  x.events.forM Files.note
  match x.result with
  | .ok a => return a
  | .error e => throw e

namespace Batch

variable {m : Type → Type} [Monad m] [Files m]

/-! ## Reading -/

/-- The description in a text. -/
def parse (text : String) : Except Error Description :=
  (Description.ofText text).mapError .json

/-- Reads the description in a file. -/
def load (path : String) : ExceptT Error m Description := do
  let text ← Files.readText path
  match parse text with
  | .ok d => return d
  | .error e => throw e

/-- The file that holds the document of an API. -/
def documentPath (directory : String) (s : Selector) : String :=
  Path.join directory s.fileName

/-! ## Writing -/

/-- Writes units below a directory; gives their paths. -/
def writeUnits (directory : String) : List SourceUnit → ExceptT Error m (List String)
  | [] => return []
  | u :: rest => do
    let path := Path.join directory u.path
    Files.writeAtomic path u.contents
    Files.note (.wroteUnit path)
    return path :: (← writeUnits directory rest)

/-- Writes the indexes of the base package; gives their paths. -/
def writeBaseIndex (settings : Settings) (apis : List Api) : ExceptT Error m (List String) :=
  writeUnits settings.outputDir (baseUnits settings.baseSegments apis)

/-- Writes the client of one API; gives the paths of its files. -/
def writeApi (settings : Settings) (a : Api) : ExceptT Error m (List String) :=
  writeUnits settings.outputDir (units settings.runtimeCrate a)

/-- Generates the client of a description and writes it; gives the paths of its files. -/
def generateToDirectory (settings : Settings) (d : Description) :
    ExceptT Error m (List String) := do
  writeApi settings (← (d.generate settings).run)

/-- The client of a document as one text of nested modules. -/
def generateInline (settings : Settings) (text : String) : Except Error String := do
  let d ← parse text
  let a ← (d.generate settings).result
  return inline settings.runtimeCrate a

/-! ## Several APIs -/

/-- Reads and generates an API. An error says in which API it was met. -/
def generateSelected (directory : String) (settings : Settings) (s : Selector) :
    ExceptT Error m Api :=
  ExceptT.adapt (Error.forApi s.text) do
    let d ← load (documentPath directory s)
    (d.generate settings).run

/-- The first API that has the package of one before it, as an error. -/
def collision? (before : List Api) : List Api → Option Error
  | [] => none
  | a :: rest =>
    match before.find? (·.package == a.package) with
    | some first =>
      some (.packageCollision (".".intercalate a.package) first.selector a.selector)
    | none => collision? (a :: before) rest

/-- Writes several APIs, one after the other; gives the paths of their files. -/
def writeApis (settings : Settings) : List Api → ExceptT Error m (List String)
  | [] => return []
  | a :: rest => do
    let written ← writeApi settings a
    return written ++ (← writeApis settings rest)

/-- Generates the selected APIs and writes them, with the indexes of their base package; gives the
paths of all files. -/
def generateAll (directory : String) (selectors : List Selector) (settings : Settings) :
    ExceptT Error m (List String) := do
  let apis ← selectors.mapM (generateSelected directory settings)
  if let some e := collision? [] apis then
    throw e
  let written ← writeApis settings apis
  return written ++ (← writeBaseIndex settings apis)

end Batch

end ClientGen
