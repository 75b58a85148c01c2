import ClientGen.Text.Lines

/-!
# Paths

A path is text: names with slashes between them. Empty names and single periods count for nothing,
except a period at the very start. Joining paths keeps their text as it is written; a path that
starts with a slash stands for itself, wherever it is joined to.
-/

namespace ClientGen.Path

/-! ## Joining -/

/-- The path `rest` as seen from the directory `base`. -/
def join (base rest : String) : String :=
  if rest.toList.head? = some '/' ∨ base = "" then rest
  else if base.toList.getLast? = some '/' then base ++ rest
  else base ++ "/" ++ rest

/-! ## Names in a path -/

/-- The names of a path as they are written, with those that count for nothing. -/
def names (path : String) : List (List Char) :=
  Text.pieces '/' path.toList

/-- The path made of names. -/
def ofNames (names : List (List Char)) : String :=
  String.ofList (['/'].intercalate names)

/-- A name counts, coming after the given ones. -/
def counts (before : List (List Char)) (name : List Char) : Bool :=
  name ≠ [] && (name ≠ ['.'] || before.isEmpty)

/-- The beginnings of a path that end in a name that counts, the shortest first; the names in front
of it are given. -/
def beginnings (before : List (List Char)) : List (List Char) → List (List (List Char))
  | [] => []
  | name :: rest =>
    let here := before ++ [name]
    if counts before name then here :: beginnings here rest else beginnings here rest

/-- The path up to its last name, and the directories that lead to it, the nearest first. -/
def ancestors (path : String) : List String :=
  ((beginnings [] (names path)).reverse).map ofNames

/-- The directories that lead to what the path names, the nearest first. -/
def parents (path : String) : List String :=
  (ancestors path).tail

/-! ## The name of a file -/

/-- The names in front of the last name that counts, and that name, if it can be a file's. -/
def fileName? (path : String) : Option (List (List Char) × List Char) :=
  match (beginnings [] (names path)).getLast? with
  | none => none
  | some beginning =>
    match beginning.getLast? with
    | none => none
    | some name =>
      if name = ['.'] ∨ name = ['.', '.'] then none else some (beginning.dropLast, name)

/-- A name without its extension: what stands before its last period. A period at the start begins
no extension. -/
def stem (name : List Char) : List Char :=
  match (name.reverse.dropWhile (· ≠ '.')).tail with
  | [] => name
  | reversed => reversed.reverse

/-- The extension of a name: what stands behind its last period, unless that is at the start. -/
def extension? (name : List Char) : Option (List Char) :=
  if stem name = name then none else some (name.drop ((stem name).length + 1))

/-- The path with the stem of its file's name, and the extension behind it; a path that names no
file stays. -/
def putExtension (path extension : String) : String :=
  match fileName? path with
  | none => path
  | some (before, name) => ofNames (before ++ [stem name ++ '.' :: extension.toList])

/-- How many characters the extension of the path's file has. -/
def extensionLength (path : String) : Nat :=
  (((fileName? path).bind fun (_, name) => extension? name).getD []).length

/-- The path with the extension of its file replaced. The old one is first cut off the end of the
text, its period left behind, and what is then the name of a file gets the new one: the name `..x`
leaves `..`, which names no file and stays. -/
def withExtension (path extension : String) : String :=
  let kept := path.toList.take (path.length - extensionLength path)
  putExtension (String.ofList kept) extension

end ClientGen.Path
