import ClientGen.Error
import ClientGen.Text.Blank
import ClientGen.Text.Lines

/-!
# Settings and selectors

What a run is told: the package that generated packages are nested in, the directory that files go
to, how generated source refers to the client runtime, and which APIs are wanted. An API is selected
by its name and version, written with a colon between them.
-/

namespace ClientGen

/-! ## Settings -/

/-- The settings of a run. -/
structure Settings where
  /-- A package, its segments separated by periods. -/
  basePackage : String := "generated"
  outputDir : String := "generated"
  /-- The path by which generated source reaches the client runtime. -/
  runtimeCrate : String := "discovery_runtime"
deriving DecidableEq, Repr, Inhabited

/-- The segments of the base package; blank ones count for nothing. -/
def Settings.baseSegments (s : Settings) : List String :=
  ((Text.split '.' s.basePackage).map Text.trim).filter (· ≠ "")

/-! ## Selectors -/

/-- The name and version of an API. -/
structure Selector where
  name : String
  version : String
deriving DecidableEq, Repr, Inhabited

namespace Selector

/-- The selector in writing. -/
def text (s : Selector) : String :=
  s.name ++ ":" ++ s.version

/-- Reads a selector: two parts with one colon between them, neither of them blank. White space
around a part does not belong to it. -/
def parse (s : String) : Except Error Selector :=
  match (Text.pieces ':' s.toList).map Text.trimChars with
  | [name, version] =>
    if name = [] ∨ version = [] then .error (.invalidSelector s)
    else .ok ⟨String.ofList name, String.ofList version⟩
  | _ => .error (.invalidSelector s)

/-- The name of the file that holds the API's document. -/
def fileName (s : Selector) : String :=
  s.name ++ "." ++ s.version ++ ".json"

end Selector

end ClientGen
