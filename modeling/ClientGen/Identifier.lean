import ClientGen.Text.Words

/-!
# Identifiers

Fields, parameters, methods and resources have names in the API, and those names go over the wire.
In generated source a name must not be a reserved word; one that is gets a suffix. An identifier
keeps both names, so that what is sent is always what the API said.
-/

namespace ClientGen

/-! ## Reserved words -/

/-- The words that the generated language keeps for itself. -/
def reservedWords : List String :=
  ["Self", "abstract", "as", "async", "await", "become", "box", "break", "const", "continue",
    "crate", "do", "dyn", "else", "enum", "extern", "false", "final", "fn", "for", "gen", "if",
    "impl", "in", "let", "loop", "macro", "match", "mod", "move", "mut", "override", "priv", "pub",
    "ref", "return", "self", "static", "struct", "super", "trait", "true", "try", "type", "typeof",
    "union", "unsafe", "unsized", "use", "virtual", "where", "while", "yield"]

/-- The name is a reserved word. -/
def isReserved (name : String) : Bool :=
  reservedWords.contains name

/-- What tells a name apart from the reserved word that it would be. -/
def collisionSuffix : String := "__"

/-- The name, with the suffix if it is a reserved word. -/
def escapeReserved (name : String) : String :=
  if isReserved name then name ++ collisionSuffix else name

/-! ## Identifiers -/

/-- A name of the API together with the name it has in generated source. -/
structure Identifier where
  wireName : String
deriving DecidableEq, Repr, Inhabited

namespace Identifier

/-- The name in generated source. -/
def name (i : Identifier) : String :=
  escapeReserved i.wireName

/-- The two names differ. -/
def isRenamed (i : Identifier) : Bool :=
  i.name ≠ i.wireName

/-- The name of a type made for the thing that has this name. -/
def typeName (i : Identifier) : String :=
  escapeReserved (Text.upperCamelCase i.wireName)

end Identifier

end ClientGen
