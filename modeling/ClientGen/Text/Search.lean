/-!
# Finding a text inside another
-/

namespace ClientGen.Text

/-- The characters `text` stand somewhere in a row in the given ones. -/
def occursIn (text : List Char) : List Char → Bool
  | [] => text.isEmpty
  | c :: rest => text.isPrefixOf (c :: rest) || occursIn text rest

/-- The string holds `text`. -/
def mentions (s text : String) : Bool :=
  occursIn text.toList s.toList

/-- Holding a text means being that text with something before and something after it. -/
theorem occursIn_iff {text s : List Char} : occursIn text s ↔ text <:+: s := by
  induction s with
  | nil => simp [occursIn]
  | cons c rest ih =>
    rw [occursIn, Bool.or_eq_true, ih, List.isPrefixOf_iff_prefix, List.infix_cons_iff]

end ClientGen.Text
