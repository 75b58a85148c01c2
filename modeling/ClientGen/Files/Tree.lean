import ClientGen.Files
import ClientGen.Keyed

/-!
# A file system as a value

Directories and files as a tree, without links. A path is followed from the top of the tree, name by
name: every name but the last must lead to a directory. The operations on files are functions on the
tree, and an operation that fails leaves it as it is.
-/

namespace ClientGen

/-! ## The tree -/

/-- A file or a directory. -/
inductive FileNode
  | file (bytes : ByteArray)
  | directory (entries : List (String × FileNode))

/-- The place of a file or directory: the names that lead to it from the top. -/
abbrev Location := List String

namespace FileNode

instance : Inhabited FileNode := ⟨.directory []⟩

/-- It is a directory. -/
def isDirectory : FileNode → Bool
  | .directory _ => true
  | .file _ => false

/-- The entry of that name, if it is a directory and has one. -/
def entry? (node : FileNode) (name : String) : Option FileNode :=
  match node with
  | .directory entries => Keyed.find? entries name
  | .file _ => none

/-- What is at a place below the node. -/
def get? (node : FileNode) : Location → Option FileNode
  | [] => some node
  | name :: rest => (node.entry? name).bind (get? · rest)

/-- The node with the entries of the directory at a place changed; nothing changes if no directory
is there. -/
def update (change : Keyed FileNode → Keyed FileNode) : Location → FileNode → FileNode
  | [], .directory entries => .directory (change entries)
  | name :: rest, .directory entries =>
    match Keyed.find? entries name with
    | some inner => .directory (Keyed.insert name (update change rest inner) entries)
    | none => .directory entries
  | _, .file bytes => .file bytes

end FileNode

/-! ## Following a path -/

/-- What the last name of a path is. -/
inductive LastName
  | name (name : String)
  /-- The directory itself. -/
  | self
  /-- The directory above. -/
  | up

/-- The end of a path: the directory that it is followed from, and the last name. -/
structure PathEnd where
  directory : Location
  last : LastName
  /-- There is a slash after the last name. -/
  trailing : Bool

namespace FileNode

/-- The number of bytes in the longest name. -/
def maxNameSize : Nat := 255

/-- The number of bytes in the longest path. -/
def maxPathSize : Nat := 4095

/-- The name is longer than names may be. -/
def isTooLong (name : List Char) : Bool :=
  maxNameSize < (String.ofList name).utf8ByteSize

/-- Takes one step from a directory to another. -/
def step (root : FileNode) (here : Location) (name : List Char) : Except FileFailure Location :=
  if name = [] ∨ name = ['.'] then .ok here
  else if name = ['.', '.'] then .ok here.dropLast
  else if isTooLong name then .error .nameTooLong
  else
    let next := here ++ [String.ofList name]
    match root.get? next with
    | none => .error .notFound
    | some (.file _) => .error .notADirectory
    | some (.directory _) => .ok next

/-- What a last name is. -/
def lastName (name : List Char) : LastName :=
  if name = [] ∨ name = ['.'] then .self
  else if name = ['.', '.'] then .up
  else .name (String.ofList name)

/-- Follows a path up to its last name. -/
def follow (root : FileNode) (path : String) : Except FileFailure PathEnd := do
  if path.toList.contains '\x00' then throw .nulInPath
  if path = "" then throw .notFound
  if maxPathSize < path.utf8ByteSize then throw .nameTooLong
  let names := Path.names path
  let reversed := names.reverse.dropWhile (· = [])
  let directory ← (reversed.drop 1).reverse.foldlM root.step []
  let last := reversed.head?.getD []
  if isTooLong last then throw .nameTooLong
  return ⟨directory, lastName last, reversed.length < names.length⟩

/-- The place that the end of a path stands for. -/
def PathEnd.location (e : PathEnd) : Location :=
  match e.last with
  | .name name => e.directory ++ [name]
  | .self => e.directory
  | .up => e.directory.dropLast

/-- What a path leads to, and its place. A path with a slash at its end leads to a directory. -/
def find (root : FileNode) (path : String) : Except FileFailure (Location × FileNode) := do
  let e ← root.follow path
  let location := PathEnd.location e
  match root.get? location with
  | none => throw .notFound
  | some node =>
    if e.trailing && !node.isDirectory then throw .notADirectory
    return (location, node)

/-- The path leads to a directory. -/
def leadsToDirectory (root : FileNode) (path : String) : Bool :=
  match root.find path with
  | .ok (_, node) => node.isDirectory
  | .error _ => false

/-! ## Operations -/

/-- Makes a directory. -/
def makeDirectory (root : FileNode) (path : String) : Except FileFailure FileNode := do
  let e ← root.follow path
  match e.last with
  | .self | .up => throw .alreadyExists
  | .name name =>
    if (root.get? (e.directory ++ [name])).isSome then throw .alreadyExists
    return root.update (Keyed.insert name (.directory [])) e.directory

/-- Writes a file, which may be there already. -/
def writeFile (root : FileNode) (path : String) (bytes : ByteArray) :
    Except FileFailure FileNode := do
  let e ← root.follow path
  match e.last with
  | .self | .up => throw .isADirectory
  | .name name =>
    if e.trailing then throw .isADirectory
    match root.get? (e.directory ++ [name]) with
    | some (.directory _) => throw .isADirectory
    | _ => return root.update (Keyed.insert name (.file bytes)) e.directory

/-- The bytes of a file. -/
def readFile (root : FileNode) (path : String) : Except FileFailure ByteArray := do
  match ← root.find path with
  | (_, .file bytes) => return bytes
  | (_, .directory _) => throw .isADirectory

/-- Moves a file to another path, in place of the file that is there. -/
def rename (root : FileNode) (source target : String) : Except FileFailure FileNode := do
  let s ← root.follow source
  let t ← root.follow target
  match s.last, t.last with
  | .name name, .name newName =>
    match root.get? (s.directory ++ [name]) with
    | none => throw .notFound
    | some (.directory _) => throw .isADirectory
    | some (.file bytes) =>
      if s.trailing || t.trailing then throw .notADirectory
      match root.get? (t.directory ++ [newName]) with
      | some (.directory _) => throw .isADirectory
      | _ =>
        return (root.update (Keyed.erase name) s.directory).update
          (Keyed.insert newName (.file bytes)) t.directory
  | _, _ => throw .busy

end FileNode

/-! ## The tree as a place to work -/

/-- A tree of files, and what has been reported. -/
structure Workspace where
  root : FileNode := .directory []
  events : List Event := []

/-- Work on a tree of files. -/
abbrev OnTree := StateM Workspace

namespace OnTree

/-- An operation that may change the tree. -/
def changing (f : FileNode → Except FileFailure FileNode) : OnTree (Except FileFailure Unit) :=
  fun w =>
    match f w.root with
    | .ok root => (.ok (), { w with root })
    | .error failure => (.error failure, w)

/-- A question about the tree. -/
def asking {α : Type} (f : FileNode → α) : OnTree α :=
  fun w => (f w.root, w)

instance : Files OnTree where
  makeDirectory path := changing (·.makeDirectory path)
  isDirectory path := asking (·.leadsToDirectory path)
  readFile path := asking (·.readFile path)
  writeFile path text := changing (·.writeFile path text.toUTF8)
  rename source target := changing (·.rename source target)
  report event := fun w => ((), { w with events := w.events ++ [event] })

end OnTree

end ClientGen
