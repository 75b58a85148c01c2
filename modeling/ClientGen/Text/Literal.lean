/-!
# String literals of the generated source

Inside a double-quoted literal a backslash takes the character after it with it, so a backslash and
a double quote are each written with a backslash in front; every other character stands for itself.
-/

namespace ClientGen.Text

/-- The text as it stands between the quotes of a literal. -/
def escapeChars : List Char → List Char
  | [] => []
  | c :: rest =>
    if c = '\\' ∨ c = '"' then '\\' :: c :: escapeChars rest else c :: escapeChars rest

/-- The text as it stands between the quotes of a literal. -/
def escapeLiteral (s : String) : String :=
  String.ofList (escapeChars s.toList)

/-- The text between two double quotes. -/
def literal (s : String) : String :=
  "\"" ++ escapeLiteral s ++ "\""

@[simp] theorem escapeChars_nil : escapeChars [] = [] := rfl

theorem escapeChars_append (s t : List Char) :
    escapeChars (s ++ t) = escapeChars s ++ escapeChars t := by
  induction s with
  | nil => rfl
  | cons c rest ih =>
    by_cases h : c = '\\' ∨ c = '"' <;> simp [escapeChars, h, ih]

@[simp] theorem toList_escapeLiteral (s : String) :
    (escapeLiteral s).toList = escapeChars s.toList := by
  simp [escapeLiteral]

end ClientGen.Text
