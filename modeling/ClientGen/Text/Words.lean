import ClientGen.Text.Alphanumeric
import ClientGen.Text.LetterCase

/-!
# Words inside names

A name is read as a sequence of words, whatever convention it was written in. Words never hold a
character that is not alphanumeric, and inside a run of alphanumeric characters a new word begins

* at an upper case letter after a lower case one (`timeZone` is `time`, `Zone`), and
* at the last of several upper case letters when a lower case one follows (`HTTPServer` is `HTTP`,
  `Server`).

Characters without case (digits, most scripts) take the case of the letter before them. From its
words a name is written in snake case or in upper camel case.
-/

namespace ClientGen.Text

/-! ## Words -/

/-- The case of the last letter of the word being read that has one. -/
inductive Cased
  | none
  | lower
  | upper
deriving DecidableEq

/-- The case after one more character. -/
def Cased.after (seen : Cased) (c : Char) : Cased :=
  if isLower c then .lower else if isUpper c then .upper else seen

/-- The maximal runs of alphanumeric characters, in order; some may be empty. -/
def alphanumericRuns : List Char → List (List Char)
  | [] => [[]]
  | c :: rest =>
    if isAlphanumeric c then
      match alphanumericRuns rest with
      | [] => [[c]]
      | run :: runs => (c :: run) :: runs
    else [] :: alphanumericRuns rest

/-- The words of one alphanumeric run. The word being read is `current`, last character first, and
`seen` is the case of its last cased letter. -/
def humps (seen : Cased) (current : List Char) : List Char → List (List Char)
  | [] => []
  | [c] => [(c :: current).reverse]
  | c :: next :: rest =>
    if seen.after c = .lower ∧ isUpper next then
      (c :: current).reverse :: humps .none [] (next :: rest)
    else if seen = .upper ∧ isUpper c ∧ isLower next then
      current.reverse :: humps .none [c] (next :: rest)
    else
      humps (seen.after c) (c :: current) (next :: rest)

/-- The words of a name. -/
def words (name : List Char) : List (List Char) :=
  (alphanumericRuns name).flatMap (humps .none [])

/-! ## Writing words -/

/-- A word in lower case. A capital sigma at its end takes the final form. -/
def lowerWord : List Char → List Char
  | [] => []
  | ['Σ'] => ['ς']
  | c :: rest => toLower c ++ lowerWord rest

/-- A word with its first character in upper case and the others in lower case. -/
def capitalWord : List Char → List Char
  | [] => []
  | c :: rest => toUpper c ++ lowerWord rest

/-- The words in lower case, joined by single underscores. -/
def snakeChars (name : List Char) : List Char :=
  ['_'].intercalate ((words name).map lowerWord)

/-- The words, capitalised, one directly after the other. -/
def camelChars (name : List Char) : List Char :=
  ((words name).map capitalWord).flatten

/-- A name in snake case: `timeZone` is written `time_zone`. -/
def snakeCase (name : String) : String :=
  String.ofList (snakeChars name.toList)

/-- A name in upper camel case: `timeZone` is written `TimeZone`. -/
def upperCamelCase (name : String) : String :=
  String.ofList (camelChars name.toList)

end ClientGen.Text
