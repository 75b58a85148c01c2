import ClientGen.Text.Blank
import ClientGen.Text.Lines

/-!
# Lines and blocks of source text

Source text is laid out as lines and blocks. What stands inside a block is indented by four spaces
more than its first and last line. An empty line is not indented.
-/

namespace ClientGen.Source

/-! ## Layout -/

/-- A piece of source text. -/
inductive Block
  | line (text : String)
  /-- Lines between a first and a last one. -/
  | group (first : String) (body : List Block) (last : String)

/-- A line without text. -/
def Block.blank : Block := .line ""

/-- What stands in front of a line inside so many blocks. -/
def indentation (depth : Nat) : String :=
  "".pushn ' ' (4 * depth)

/-- A line inside so many blocks. -/
def printLine (depth : Nat) (text : String) : String :=
  if text = "" then "\n" else indentation depth ++ text ++ "\n"

mutual

/-- A piece of source text inside so many blocks, written out. -/
def Block.print (depth : Nat) : Block → String
  | .line text => printLine depth text
  | .group first body last =>
    printLine depth first ++ printBlocks (depth + 1) body ++ printLine depth last

/-- Pieces of source text inside so many blocks, written out. -/
def printBlocks (depth : Nat) : List Block → String
  | [] => ""
  | block :: rest => block.print depth ++ printBlocks depth rest

end

/-- Groups of pieces with a blank line between any two; empty groups do not count. -/
def separated : List (List Block) → List Block
  | [] => []
  | [] :: rest => separated rest
  | group :: rest =>
    match separated rest with
    | [] => group
    | others => group ++ .blank :: others

/-- A finished text as lines, to be indented anew. -/
def reindented (text : String) : List Block :=
  (Text.lines text).map .line

/-! ## Documentation -/

/-- A line of documentation. -/
def docLine (line : List Char) : String :=
  match Text.trimEnd line with
  | [] => "///"
  | text => "/// " ++ String.ofList text

/-- Documentation as comment lines, one for each line of the trimmed text; none if that is empty. -/
def docLines (text : String) : List String :=
  match Text.trimChars text.toList with
  | [] => []
  | trimmed => (Text.linesOf trimmed).map docLine

/-- Documentation, if there is any. -/
def docBlocks (documentation : Option String) : List Block :=
  (documentation.toList.flatMap docLines).map .line

end ClientGen.Source
