/-!
# White space at the ends of a text

White space is the Unicode property `White_Space`: the ASCII blanks and line breaks, the next-line
control, the no-break space, and the spaces and separators of the general punctuation block.
Trimming removes it from either end and nowhere else.
-/

namespace ClientGen.Text

/-! ## The property -/

/-- The character is white space. -/
def isBlank (c : Char) : Bool :=
  let n := c.toNat
  (9 ≤ n && n ≤ 13) || n == 32 || n == 0x85 || n == 0xa0 || n == 0x1680 ||
    (0x2000 ≤ n && n ≤ 0x200a) || n == 0x2028 || n == 0x2029 || n == 0x202f || n == 0x205f ||
    n == 0x3000

/-! ## Trimming -/

/-- The text from its first character that is not white space. -/
def trimStart (s : List Char) : List Char :=
  s.dropWhile isBlank

/-- The text up to its last character that is not white space. -/
def trimEnd (s : List Char) : List Char :=
  (s.reverse.dropWhile isBlank).reverse

/-- The text without white space at its ends. -/
def trimChars (s : List Char) : List Char :=
  trimEnd (trimStart s)

/-- The text without white space at its ends. -/
def trim (s : String) : String :=
  String.ofList (trimChars s.toList)

@[simp] theorem toList_trim (s : String) : (trim s).toList = trimChars s.toList := by
  simp [trim]

end ClientGen.Text
