import ClientGen.Text.Blank
import ClientGen.Text.Search

/-!
# Enum values in prose

Documents often name the values of a text only in its description:
`Possible values are: "default" - A regular event. "focusTime" - A focus-time event.`
A value is written as a quoted word, then a separator of spaces and hyphens, then a sentence up to
and including its period. Values are collected from left to right, and none overlaps the one before
it.
-/

namespace ClientGen

/-- What a description says when it lists the values of a text. -/
def possibleValuesMarker : String := "Possible values are:"

/-- A value named in prose, and what is said about it. -/
structure ProseValue where
  token : String
  documentation : String
deriving DecidableEq, Repr, Inhabited

namespace EnumProse

/-! ## Classes of characters -/

/-- A character of a token. -/
def isWordChar (c : Char) : Bool :=
  c.isAlphanum || c == '_'

/-- A character between a token and its sentence. -/
def isSeparator (c : Char) : Bool :=
  c == ' ' || c == '-'

/-- A character inside a sentence. -/
def inSentence (c : Char) : Bool :=
  c != '.'

/-! ## One value -/

/-- The sentence that follows a separator, without its period. When nothing stands before the
period, the separator gives up its last character to the sentence, if it has another. -/
def sentence? (separator clause : List Char) : Option (List Char) :=
  match clause, separator.reverse with
  | [], last :: _ :: _ => some [last]
  | [], _ => none
  | clause, _ => some clause

/-- The value written at the very start of a text, and what follows it. -/
def valueAt? : List Char → Option (ProseValue × List Char)
  | '"' :: rest =>
    let token := rest.takeWhile isWordChar
    match token, rest.dropWhile isWordChar with
    | _ :: _, '"' :: rest =>
      let separator := rest.takeWhile isSeparator
      let body := rest.dropWhile isSeparator
      match separator, body.dropWhile inSentence with
      | _ :: _, '.' :: rest =>
        (sentence? separator (body.takeWhile inSentence)).map fun sentence =>
          (⟨String.ofList token, Text.trim (String.ofList (sentence ++ ['.']))⟩, rest)
      | _, _ => none
    | _, _ => none
  | _ => none

theorem length_dropWhile_le (p : Char → Bool) (s : List Char) :
    (s.dropWhile p).length ≤ s.length :=
  (List.dropWhile_sublist p).length_le

/-- A value takes up some of the text. -/
theorem length_lt_of_valueAt? {s rest : List Char} {value : ProseValue}
    (h : valueAt? s = some (value, rest)) : rest.length < s.length := by
  unfold valueAt? at h
  split at h <;> try contradiction
  rename_i tail
  simp only at h
  split at h <;> try contradiction
  rename_i _ _ after _ hafter
  split at h <;> try contradiction
  rename_i _ _ last _ hlast
  obtain ⟨sentence, -, hs⟩ := Option.map_eq_some_iff.1 h
  obtain rfl : last = rest := (Prod.mk.inj hs).2
  have h₁ := length_dropWhile_le isWordChar tail
  have h₂ := length_dropWhile_le isSeparator after
  have h₃ := length_dropWhile_le inSentence (after.dropWhile isSeparator)
  simp only [hafter, hlast, List.length_cons] at h₁ h₃ ⊢
  omega

/-! ## All values -/

/-- The values in a text, leftmost first. -/
def mineChars (s : List Char) : List ProseValue :=
  match _h : valueAt? s with
  | some (value, rest) => value :: mineChars rest
  | none =>
    match s with
    | [] => []
    | _ :: rest => mineChars rest
termination_by s.length
decreasing_by
  · exact length_lt_of_valueAt? _h
  · simp

/-- The values in a description, leftmost first. -/
def mine (description : String) : List ProseValue :=
  mineChars description.toList

/-- The description lists the values of a text. -/
def appliesTo (description : String) : Bool :=
  Text.mentions description possibleValuesMarker

end EnumProse

end ClientGen
