/-!
# Cutting a text at a character

A text is cut at every occurrence of a separator, so that the pieces, rejoined by it, give the text
back. The lines of a text are its pieces at line feeds, without the empty piece after a final line
feed and without a carriage return before one.
-/

namespace ClientGen.Text

/-! ## Pieces -/

/-- The first piece of `s`, up to a separator, and the pieces after it. -/
def cut (sep : Char) : List Char → List Char × List (List Char)
  | [] => ([], [])
  | c :: rest =>
    let (piece, pieces) := cut sep rest
    if c = sep then ([], piece :: pieces) else (c :: piece, pieces)

/-- The pieces of a text between separators; there is always at least one. -/
def pieces (sep : Char) (s : List Char) : List (List Char) :=
  (cut sep s).1 :: (cut sep s).2

/-- The pieces of a string between separators. -/
def split (sep : Char) (s : String) : List String :=
  (pieces sep s.toList).map String.ofList

/-! ## Lines -/

/-- The piece without a carriage return at its end. -/
def dropReturn (line : List Char) : List Char :=
  if line.getLast? = some '\r' then line.dropLast else line

/-- The lines of a text, without their line ends. -/
def linesOf (s : List Char) : List (List Char) :=
  let all := pieces '\n' s
  let ended := all.dropLast.map dropReturn
  match all.getLast? with
  | none => ended
  | some [] => ended
  | some last => ended ++ [last]

/-- The lines of a string, without their line ends. -/
def lines (s : String) : List String :=
  (linesOf s.toList).map String.ofList

/-! ## Rejoining -/

theorem intercalate_pieces (sep : Char) (s : List Char) :
    [sep].intercalate (pieces sep s) = s := by
  induction s with
  | nil => rfl
  | cons c rest ih =>
    by_cases h : c = sep
    · simpa [pieces, cut, h, List.intercalate, List.intersperse] using ih
    · cases hp : (cut sep rest).2 with
      | nil => simpa [pieces, cut, h, hp, List.intercalate] using ih
      | cons p ps => simpa [pieces, cut, h, hp, List.intercalate] using ih

theorem not_mem_of_mem_pieces {sep : Char} {s : List Char} :
    ∀ p ∈ pieces sep s, sep ∉ p := by
  induction s with
  | nil => simp [pieces, cut]
  | cons c rest ih =>
    intro p hp
    by_cases h : c = sep
    · have : p = [] ∨ p ∈ pieces sep rest := by simpa [pieces, cut, h] using hp
      rcases this with rfl | hp
      · simp
      · exact ih p hp
    · have : p = c :: (cut sep rest).1 ∨ p ∈ (cut sep rest).2 := by
        simpa [pieces, cut, h] using hp
      rcases this with rfl | hp
      · have := ih (cut sep rest).1 (by simp [pieces])
        simp [this, Ne.symm h]
      · exact ih p (by simp [pieces, hp])

end ClientGen.Text
