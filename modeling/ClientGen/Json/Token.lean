import ClientGen.Json

/-!
# Tokens of a JSON text

A text is cut into brackets, commas, colons, texts and other scalars. White space separates tokens
and is dropped. The first place that is no token ends the list, with the trouble it makes.

Inside a text a backslash begins an escape. Reading an escape of a surrogate code point needs its
partner right behind it; skipping it does not.
-/

namespace ClientGen.Json

/-- A token. -/
inductive Token
  | openArray
  | closeArray
  | openObject
  | closeObject
  | comma
  | colon
  | text (value : Except Break String)
  | scalar (value : Json)
  | brokenText (trouble : Fault)
  | broken (trouble : Fault)

/-! ## Words and numbers -/

/-- The trouble, if any, of a text that should go on with the given characters. -/
def expectTail : List Char → List Char → Option Break
  | [], _ => none
  | _ :: _, [] => some .truncated
  | e :: expected, c :: rest => if e = c then expectTail expected rest else some .malformed

/-- The word whose first character has been seen, and how many characters it has after that. -/
def wordToken (tail : List Char) (value : Json) (rest : List Char) : Token × Nat :=
  match expectTail tail rest with
  | none => (.scalar value, tail.length)
  | some trouble => (.broken ⟨trouble, trouble⟩, tail.length)

/-- A number that lacks a digit before the rest of the text. Skipping takes the end of the text for
a broken number. -/
def missingDigit (rest : List Char) : Fault :=
  if rest.isEmpty then ⟨.truncated, .malformed⟩ else .malformed

/-- The digits at the start of a text, at least one of them, and what follows. -/
def someDigits (s : List Char) : Except Fault (List Char × List Char) :=
  match s.takeWhile Char.isDigit with
  | [] => .error (missingDigit s)
  | digits => .ok (digits, s.dropWhile Char.isDigit)

/-- The exponent at the start of a text, if one is there. -/
def readExponent : List Char → Except Fault (Option Exponent)
  | mark :: rest =>
    if mark = 'e' ∨ mark = 'E' then do
      let (sign, rest) := match rest with
        | '-' :: rest => (some '-', rest)
        | '+' :: rest => (some '+', rest)
        | rest => (none, rest)
      let (digits, _) ← someDigits rest
      return some ⟨mark, sign, digits⟩
    else pure none
  | [] => pure none

/-- The number at the start of a text. It has no needless zero in front. -/
def readNumeral (s : List Char) : Except Fault Numeral := do
  let (negative, s) := match s with
    | '-' :: rest => (true, rest)
    | _ => (false, s)
  let (whole, s) ← someDigits s
  if whole.head? = some '0' ∧ 1 < whole.length then
    throw .malformed
  let (fraction, s) ← match s with
    | '.' :: rest => someDigits rest
    | _ => pure ([], s)
  return ⟨negative, whole, fraction, ← readExponent s⟩

/-- The number that begins with `first`, and how many characters it has after that. -/
def numberToken (first : Char) (rest : List Char) : Token × Nat :=
  match readNumeral (first :: rest) with
  | .ok numeral => (.scalar (.number numeral), numeral.chars.length - 1)
  | .error trouble => (.broken trouble, 0)

/-! ## Texts -/

/-- The value of a hexadecimal digit. -/
def hexDigit? (c : Char) : Option Nat :=
  if c.isDigit then some (c.toNat - '0'.toNat)
  else if 'a' ≤ c ∧ c ≤ 'f' then some (c.toNat - 'a'.toNat + 10)
  else if 'A' ≤ c ∧ c ≤ 'F' then some (c.toNat - 'A'.toNat + 10)
  else none

/-- The number in the next four hexadecimal digits. Fewer than four bytes are too few, whatever
they are. -/
def hexFour (s : List Char) : Except Break Nat :=
  let next := s.take 4
  if (String.ofList next).utf8ByteSize < 4 then .error .truncated
  else
    match next.mapM hexDigit? with
    | some [a, b, c, d] => .ok (16 * (16 * (16 * a + b) + c) + d)
    | _ => .error .malformed

/-- The code unit is the first of a pair that stands for one character. -/
def isLeading (n : Nat) : Bool :=
  0xd800 ≤ n && n ≤ 0xdbff

/-- The code unit is the second of a pair that stands for one character. -/
def isTrailing (n : Nat) : Bool :=
  0xdc00 ≤ n && n ≤ 0xdfff

/-- The character of an escape that needs no number. -/
def plainEscape? : Char → Option Char
  | '"' => some '"'
  | '\\' => some '\\'
  | '/' => some '/'
  | 'b' => some '\x08'
  | 'f' => some '\x0c'
  | 'n' => some '\n'
  | 'r' => some '\r'
  | 't' => some '\t'
  | _ => none

/-- The character of the escape whose backslash has been seen, and the length of its rest. -/
def readEscape : List Char → Except Break (Char × Nat)
  | [] => .error .truncated
  | 'u' :: rest => do
    let n ← hexFour rest
    if isTrailing n then throw .malformed
    if !isLeading n then return (Char.ofNat n, 5)
    match rest.drop 4 with
    | [] | ['\\'] => throw .truncated
    | '\\' :: 'u' :: second => do
      let m ← hexFour second
      if isTrailing m then
        return (Char.ofNat (0x10000 + 0x400 * (n - 0xd800) + (m - 0xdc00)), 11)
      else throw .malformed
    | _ => throw .malformed
  | c :: _ =>
    match plainEscape? c with
    | some plain => .ok (plain, 1)
    | none => .error .malformed

/-- The length of the escape whose backslash has been seen, without its meaning. -/
def skipEscape : List Char → Except Break Nat
  | [] => .error .truncated
  | 'u' :: rest => (hexFour rest).map fun _ => 5
  | c :: _ => if (plainEscape? c).isSome then .ok 1 else .error .malformed

/-- The characters of the text whose opening quote has been seen. -/
def readText : List Char → Except Break (List Char)
  | [] => .error .truncated
  | c :: rest =>
    if c = '"' then .ok []
    else if c = '\\' then do
      let (escaped, used) ← readEscape rest
      return escaped :: (← readText (rest.drop used))
    else if c.toNat < 32 then .error .malformed
    else do
      return c :: (← readText rest)
termination_by s => s.length
decreasing_by all_goals simp; try omega

/-- The length of the text whose opening quote has been seen, closing quote included. -/
def skipText : List Char → Except Break Nat
  | [] => .error .truncated
  | c :: rest =>
    if c = '"' then .ok 1
    else if c = '\\' then do
      let used ← skipEscape rest
      return 1 + used + (← skipText (rest.drop used))
    else if c.toNat < 32 then .error .malformed
    else do
      return 1 + (← skipText rest)
termination_by s => s.length
decreasing_by all_goals simp; try omega

/-- The text whose opening quote has been seen, and its length after that. -/
def textToken (rest : List Char) : Token × Nat :=
  let value := readText rest
  match skipText rest with
  | .ok used => (.text (value.map String.ofList), used)
  | .error skipped =>
    match value with
    | .ok _ => (.brokenText ⟨skipped, skipped⟩, 0)
    | .error read => (.brokenText ⟨read, skipped⟩, 0)

/-! ## The text as tokens -/

/-- The token that begins with `c`, and how many characters it has after that. -/
def tokenAt (c : Char) (rest : List Char) : Token × Nat :=
  match c with
  | '[' => (.openArray, 0)
  | ']' => (.closeArray, 0)
  | '\x7b' => (.openObject, 0)
  | '\x7d' => (.closeObject, 0)
  | ',' => (.comma, 0)
  | ':' => (.colon, 0)
  | '"' => textToken rest
  | 'n' => wordToken ['u', 'l', 'l'] .null rest
  | 't' => wordToken ['r', 'u', 'e'] (.bool true) rest
  | 'f' => wordToken ['a', 'l', 's', 'e'] (.bool false) rest
  | c => if c = '-' ∨ c.isDigit then numberToken c rest else (.broken .malformed, 0)

/-- The token ends the list. -/
def Token.isBroken : Token → Bool
  | .brokenText _ | .broken _ => true
  | _ => false

/-- White space between tokens. -/
def isSpace (c : Char) : Bool :=
  c == ' ' || c == '\n' || c == '\t' || c == '\r'

/-- The tokens of a text, up to the first trouble. -/
def tokens : List Char → List Token
  | [] => []
  | c :: rest =>
    if isSpace c then tokens rest
    else
      let next := tokenAt c rest
      if next.1.isBroken then [next.1] else next.1 :: tokens (rest.drop next.2)
termination_by s => s.length
decreasing_by all_goals simp; try omega

end ClientGen.Json
