import ClientGen.Error
import ClientGen.Event
import ClientGen.Path

/-!
# Working on files

What a run needs of a file system, and what is done with it. A file is written to a temporary file
first, which then takes its place, so that no half-written file is ever seen under the path itself.
-/

namespace ClientGen

/-! ## The operations -/

/-- A place with directories and files, and with somebody to report to. -/
class Files (m : Type → Type) where
  makeDirectory : String → m (Except FileFailure Unit)
  isDirectory : String → m Bool
  readFile : String → m (Except FileFailure ByteArray)
  writeFile : String → String → m (Except FileFailure Unit)
  /-- Moves a file to another path, in place of the file that is there. -/
  rename : String → String → m (Except FileFailure Unit)
  report : Event → m Unit

namespace Files

variable {m : Type → Type} [Monad m] [Files m]

/-- An operation whose failure is an error of the run. -/
def orFail {α : Type} (wrap : FileFailure → Error) (x : m (Except FileFailure α)) :
    ExceptT Error m α := do
  match ← (x : ExceptT Error m _) with
  | .ok a => return a
  | .error failure => throw (wrap failure)

/-- Reports an event of the run. -/
def note (e : Event) : ExceptT Error m Unit :=
  ExceptT.lift (report e)

/-! ## Directories -/

/-- Makes a directory, unless it is there. -/
def ensureOne (path : String) : m (Except FileFailure Unit) := do
  match ← makeDirectory path with
  | .ok () => return .ok ()
  | .error failure => return if ← isDirectory path then .ok () else .error failure

/-- Makes a directory and those that lead to it, given as a list with the nearest first, unless they
are there. -/
def ensureAll : List String → m (Except FileFailure Unit)
  | [] => return .ok ()
  | path :: above => do
    match ← makeDirectory path with
    | .ok () => return .ok ()
    | .error .notFound =>
      match ← ensureAll above with
      | .ok () => ensureOne path
      | .error failure => return .error failure
    | .error failure => return if ← isDirectory path then .ok () else .error failure

/-- Makes the directories that lead to a path. -/
def ensureParents (path : String) : ExceptT Error m Unit :=
  match Path.parents path with
  | [] => return
  | parent :: above => orFail (.write parent) (ensureAll (parent :: above))

/-! ## Writing and reading -/

/-- The extension of temporary files. -/
def temporaryExtension : String := "rs.tmp"

/-- The file that takes the text before it is moved to the path. -/
def temporaryPath (path : String) : String :=
  Path.withExtension path temporaryExtension

/-- Writes a file as a whole: the path holds the text, or what it held before. -/
def writeAtomic (path text : String) : ExceptT Error m Unit := do
  ensureParents path
  let temporary := temporaryPath path
  orFail (.write temporary) (writeFile temporary text)
  orFail (.write path) (rename temporary path)

/-- Reads a file of text. -/
def readText (path : String) : ExceptT Error m String := do
  let bytes ← orFail .io (readFile path)
  match String.fromUTF8? bytes with
  | some text => return text
  | none => throw (.io .invalidText)

end Files

end ClientGen
