import ClientGen.Proofs.Source.Unit
import ClientGen.Proofs.Text.Literal

/-!
# Source text row by row

What is printed is printed in rows: the lines of all blocks, each indented as deep as it stands. A
row is one line of text, unless a text in it has line feeds. `toList_printBlocks` is the text of
rows, and `rowsOf_reindented` what becomes of them when the text is cut into lines and indented
anew; `reindentRow_append` says it for a row that has a text of any kind in it.
-/

namespace ClientGen.Source

open Text

/-! ## Rows -/

/-- A line as it stands inside so many blocks, without its end. -/
def row (depth : Nat) (text : String) : String :=
  if text = "" then "" else indentation depth ++ text

mutual

/-- The rows of a piece of source text inside so many blocks. -/
def Block.rows (depth : Nat) : Block → List String
  | .line text => [row depth text]
  | .group first body last => row depth first :: rowsOf (depth + 1) body ++ [row depth last]

/-- The rows of pieces of source text inside so many blocks. -/
def rowsOf (depth : Nat) : List Block → List String
  | [] => []
  | block :: rest => block.rows depth ++ rowsOf depth rest

end

/-- Rows, each with a line feed at its end. -/
def endRows (rows : List String) : List Char :=
  rows.flatMap fun r => r.toList ++ ['\n']

variable {depth : Nat} {blocks more : List Block}

theorem rowsOf_append (depth : Nat) (blocks more : List Block) :
    rowsOf depth (blocks ++ more) = rowsOf depth blocks ++ rowsOf depth more := by
  induction blocks with
  | nil => rfl
  | cons block rest ih => simp [rowsOf, ih]

theorem mem_rowsOf {r : String} (h : r ∈ rowsOf depth blocks) :
    ∃ block ∈ blocks, r ∈ block.rows depth := by
  induction blocks with
  | nil => cases h
  | cons block rest ih =>
    rcases List.mem_append.1 h with h | h
    · exact ⟨block, List.mem_cons_self, h⟩
    · obtain ⟨other, hother, hr⟩ := ih h
      exact ⟨other, List.mem_cons_of_mem _ hother, hr⟩

theorem rowsOf_lines (depth : Nat) (texts : List String) :
    rowsOf depth (texts.map .line) = texts.map (row depth) := by
  induction texts with
  | nil => rfl
  | cons text rest ih =>
    rw [List.map_cons, rowsOf, Block.rows, ih]
    rfl

theorem toList_indentation (depth : Nat) :
    (indentation depth).toList = List.replicate (4 * depth) ' ' := by
  rw [indentation, String.pushn_eq_repeat_push]
  induction 4 * depth with
  | zero => rfl
  | succ n ih => rw [Nat.repeat, String.toList_push, ih, List.replicate_succ']

theorem row_of_ne_nil {text : String} (h : text.toList ≠ []) (depth : Nat) :
    row depth text = indentation depth ++ text := by
  have hne : text ≠ "" := fun heq => h (by rw [heq]; rfl)
  rw [row, if_neg hne]

theorem toList_row_of_ne_nil {text : String} (h : text.toList ≠ []) (depth : Nat) :
    (row depth text).toList = List.replicate (4 * depth) ' ' ++ text.toList := by
  rw [row_of_ne_nil h, String.toList_append, toList_indentation]

theorem toList_printLine (depth : Nat) (text : String) :
    (printLine depth text).toList = (row depth text).toList ++ ['\n'] := by
  by_cases h : text = ""
  · rw [printLine, row, if_pos h, if_pos h]
    rfl
  · rw [printLine, row, if_neg h, if_neg h, String.toList_append]
    rfl

mutual

theorem Block.toList_print (depth : Nat) (block : Block) :
    (block.print depth).toList = endRows (block.rows depth) := by
  cases block with
  | line text =>
    rw [Block.print, Block.rows, toList_printLine]
    simp [endRows]
  | group first body last =>
    rw [Block.print, Block.rows, String.toList_append, String.toList_append, toList_printLine,
      toList_printLine, toList_printBlocks (depth + 1) body]
    simp [endRows]

/-- What is printed are the rows, one after the other. -/
theorem toList_printBlocks (depth : Nat) (blocks : List Block) :
    (printBlocks depth blocks).toList = endRows (rowsOf depth blocks) := by
  cases blocks with
  | nil => rfl
  | cons block rest =>
    rw [printBlocks, rowsOf, String.toList_append, Block.toList_print depth block,
      toList_printBlocks depth rest]
    simp [endRows]

end

/-- A group with what comes after it. -/
theorem separated_cons_eq {group : List Block} (h : group ≠ []) (rest : List (List Block)) :
    separated (group :: rest) =
      group ++ if (separated rest).isEmpty then [] else .blank :: separated rest := by
  obtain ⟨block, blocks, rfl⟩ := List.exists_cons_of_ne_nil h
  rw [separated]
  cases separated rest with
  | nil => simp
  | cons first others => rfl
  all_goals simp

/-- Groups in two parts; there may be a blank line between the parts. -/
theorem separated_append (groups others : List (List Block)) :
    ∃ gap, separated (groups ++ others) = separated groups ++ gap ++ separated others := by
  induction groups with
  | nil => exact ⟨[], rfl⟩
  | cons group rest ih =>
    obtain ⟨gap, hgap⟩ := ih
    by_cases hgroup : group = []
    · subst hgroup
      exact ⟨gap, hgap⟩
    rw [List.cons_append, separated_cons_eq hgroup, separated_cons_eq hgroup, hgap]
    cases hrest : separated rest with
    | cons first more => exact ⟨gap, by simp⟩
    | nil =>
      rw [List.nil_append]
      by_cases hlast : gap ++ separated others = []
      · obtain ⟨hgap, hothers⟩ := List.append_eq_nil_iff.1 hlast
        exact ⟨[], by simp [hgap, hothers]⟩
      · have hsome : (gap ++ separated others).isEmpty = false := by simpa using hlast
        exact ⟨.blank :: gap, by rw [hsome]; simp⟩

/-- Only blank lines are put between groups. -/
theorem mem_separated {groups : List (List Block)} {block : Block} (h : block ∈ separated groups) :
    block = .blank ∨ ∃ group ∈ groups, block ∈ group := by
  induction groups with
  | nil => cases h
  | cons group rest ih =>
    have hrest : block ∈ separated rest → block = .blank ∨ ∃ g ∈ group :: rest, block ∈ g :=
      fun h => (ih h).imp_right fun ⟨g, hg, hblock⟩ => ⟨g, List.mem_cons_of_mem _ hg, hblock⟩
    by_cases hgroup : group = []
    · subst hgroup
      exact hrest h
    rw [separated_cons_eq hgroup] at h
    rcases List.mem_append.1 h with h | h
    · exact .inr ⟨group, List.mem_cons_self, h⟩
    split at h
    · cases h
    · rcases List.mem_cons.1 h with rfl | h
      · exact .inl rfl
      · exact hrest h

/-- The lines of the text are those of its rows, with nothing after the last. -/
theorem pieces_endRows_eq_flatMap (rows : List String) :
    pieces '\n' (endRows rows) = (rows.flatMap fun r => pieces '\n' r.toList) ++ [[]] := by
  induction rows with
  | nil => rfl
  | cons r rest ih =>
    have hrows : endRows (r :: rest) = r.toList ++ '\n' :: endRows rest := by
      simp [endRows]
    rw [hrows, pieces_append, ih, List.flatMap_cons, List.append_assoc]

/-- Rows without line feeds are the lines of the text, with nothing after the last. -/
theorem pieces_endRows {rows : List String} (h : ∀ r ∈ rows, '\n' ∉ r.toList) :
    pieces '\n' (endRows rows) = rows.map String.toList ++ [[]] := by
  rw [pieces_endRows_eq_flatMap, List.map_eq_flatMap]
  congr 1
  exact List.flatMap_congr fun r hr => pieces_of_not_mem (h r hr)

/-! ## Rows that are indented anew -/

/-- A line as it stands inside so many blocks, without its end. -/
def rowChars (front line : List Char) : List Char :=
  if line = [] then [] else front ++ line

/-- A row, cut into lines of which each has `front` in front of it. -/
def reindentRow (front : List Char) (r : List Char) : List Char :=
  ((pieces '\n' r).map dropReturn).flatMap fun line => rowChars front line ++ ['\n']

theorem toList_row (depth : Nat) (line : List Char) :
    (row depth (String.ofList line)).toList = rowChars (indentation depth).toList line := by
  by_cases h : line = []
  · subst h
    rfl
  · have hne : String.ofList line ≠ "" := fun heq => h (by simpa using congrArg String.toList heq)
    rw [row, if_neg hne, rowChars, if_neg h, String.toList_append, String.toList_ofList]

theorem linesOf_endRows (rows : List String) :
    linesOf (endRows rows) = rows.flatMap fun r => (pieces '\n' r.toList).map dropReturn := by
  induction rows with
  | nil => rfl
  | cons r rest ih =>
    have hrows : endRows (r :: rest) = r.toList ++ '\n' :: endRows rest := by
      simp [endRows]
    rw [hrows, linesOf_append, ih, List.flatMap_cons]

/-- A row, cut into lines that stand inside so many blocks. -/
def reindentedRows (depth : Nat) (r : String) : List String :=
  ((pieces '\n' r.toList).map dropReturn).map fun line => row depth (String.ofList line)

/-- A finished text, put in line by line: each of its rows is cut for itself. -/
theorem rowsOf_reindented (depth : Nat) {text : String} {rows : List String}
    (h : text.toList = endRows rows) :
    rowsOf depth (reindented text) = rows.flatMap (reindentedRows depth) := by
  have hlines : reindented text = (lines text).map .line := rfl
  rw [hlines, rowsOf_lines, lines, h, linesOf_endRows, List.map_map, List.map_flatMap]
  rfl

theorem endRows_reindentedRows (depth : Nat) (r : String) :
    endRows (reindentedRows depth r) = reindentRow (indentation depth).toList r.toList := by
  rw [endRows, reindentedRows, List.flatMap_map, reindentRow]
  exact List.flatMap_congr fun line _ => by rw [toList_row]

variable {front s e : List Char}

theorem mem_of_mem_dropReturn {c : Char} {line : List Char} (h : c ∈ dropReturn line) :
    c ∈ line := by
  rw [dropReturn] at h
  split at h
  · exact List.dropLast_subset line h
  · exact h

/-- Only the last character of a line can be a carriage return that is dropped. -/
theorem dropReturn_cons {c : Char} {line : List Char} (h : ¬(c = '\r' ∧ line = [])) :
    dropReturn (c :: line) = c :: dropReturn line := by
  cases line with
  | nil =>
    have hc : c ≠ '\r' := fun hc => h ⟨hc, rfl⟩
    simp [dropReturn, hc]
  | cons a rest =>
    rw [dropReturn, dropReturn, List.getLast?_cons_cons, List.dropLast_cons_cons]
    split <;> rfl

/-- The first line is empty if the text begins with a line feed. -/
theorem cut_eq_nil (hs : s ≠ []) (hfeed : '\n' ∉ s) (e : List Char) :
    (cut '\n' (e ++ s)).1 = [] ↔ e.head? = some '\n' := by
  cases e with
  | nil =>
    obtain ⟨c, rest, rfl⟩ := List.exists_cons_of_ne_nil hs
    have hc : c ≠ '\n' := fun hc => hfeed (hc ▸ List.mem_cons_self)
    simp [cut, hc]
  | cons c rest => by_cases hc : c = '\n' <;> simp [cut, hc]

theorem cut_of_not_mem (hfeed : '\n' ∉ s) : cut '\n' s = (s, []) := by
  have hpieces := pieces_of_not_mem hfeed
  rw [pieces] at hpieces
  exact Prod.ext (List.cons.inj hpieces).1 (List.cons.inj hpieces).2

theorem dropReturn_cut_eq_nil (hs : s ≠ []) (hfeed : '\n' ∉ s) (hreturn : '\r' ∉ s)
    (e : List Char) :
    dropReturn (cut '\n' (e ++ s)).1 = [] ↔ startsWithBreak e := by
  cases e with
  | nil =>
    rw [List.nil_append, cut_of_not_mem hfeed, dropReturn_of_not_mem hreturn]
    exact iff_of_false hs id
  | cons c rest =>
    rw [startsWithBreak, ← cut_eq_nil hs hfeed rest, List.cons_append, cut]
    by_cases hc : c = '\n'
    · simp [hc, dropReturn]
    simp only [if_neg hc, or_iff_right hc]
    by_cases hlast : c = '\r' ∧ (cut '\n' (rest ++ s)).1 = []
    · simp [hlast, dropReturn]
    · rw [dropReturn_cons hlast]
      exact iff_of_false (List.cons_ne_nil _ _) hlast

/-- All lines of a row but the first. -/
def laterLines (front : List Char) (r : List Char) : List Char :=
  ((cut '\n' r).2.map dropReturn).flatMap fun line => rowChars front line ++ ['\n']

theorem reindentRow_eq (front r : List Char) :
    reindentRow front r =
      rowChars front (dropReturn (cut '\n' r).1) ++ '\n' :: laterLines front r := by
  simp [reindentRow, pieces, laterLines]

/-- A row from the first line on, without what is put in front of that. -/
theorem dropReturn_append_laterLines (hs : s ≠ []) (hfeed : '\n' ∉ s) (hreturn : '\r' ∉ s)
    (e : List Char) :
    dropReturn (cut '\n' (e ++ s)).1 ++ '\n' :: laterLines front (e ++ s) =
      indentBreaks front e ++ s ++ ['\n'] := by
  induction e with
  | nil =>
    rw [List.nil_append, laterLines, cut_of_not_mem hfeed, dropReturn_of_not_mem hreturn]
    rfl
  | cons c rest ih =>
    by_cases hc : c = '\n'
    · have hlater : laterLines front (c :: rest ++ s) = reindentRow front (rest ++ s) := by
        simp [laterLines, reindentRow, pieces, cut, hc]
      have hfirst : dropReturn (cut '\n' (c :: rest ++ s)).1 = [] := by
        simp [cut, hc, dropReturn]
      rw [hlater, hfirst, reindentRow_eq, indentBreaks, if_pos hc, rowChars]
      by_cases hbreak : startsWithBreak rest
      · have hnil := (dropReturn_cut_eq_nil hs hfeed hreturn rest).2 hbreak
        rw [hnil] at ih ⊢
        simpa [hbreak] using ih
      · have hsome := mt (dropReturn_cut_eq_nil hs hfeed hreturn rest).1 hbreak
        simpa [hbreak, hsome] using ih
    · have hlater : laterLines front (c :: rest ++ s) = laterLines front (rest ++ s) := by
        simp [laterLines, cut, hc]
      have hfirst : (cut '\n' (c :: rest ++ s)).1 = c :: (cut '\n' (rest ++ s)).1 := by
        simp [cut, hc]
      rw [hlater, hfirst, indentBreaks, if_neg hc]
      by_cases hlast : c = '\r' ∧ rest.head? = some '\n'
      · have hnil := (cut_eq_nil hs hfeed rest).2 hlast.2
        rw [hnil] at ih ⊢
        rw [if_pos hlast, hlast.1]
        exact ih
      · rw [← cut_eq_nil hs hfeed rest] at hlast
        rw [dropReturn_cons hlast, if_neg (mt (And.imp_right (cut_eq_nil hs hfeed rest).2) hlast),
          List.cons_append, ih]
        rfl

/-- A text in the middle of a row: its breaks are indented, and so is the row, unless a break comes
first. -/
theorem reindentRow_append (hs : s ≠ []) (hfeed : '\n' ∉ s) (hreturn : '\r' ∉ s) (e : List Char) :
    reindentRow front (e ++ s) =
      (if startsWithBreak e then [] else front) ++ indentBreaks front e ++ s ++ ['\n'] := by
  have hrow := @dropReturn_append_laterLines front _ hs hfeed hreturn e
  rw [reindentRow_eq, rowChars]
  by_cases hbreak : startsWithBreak e
  · have hnil := (dropReturn_cut_eq_nil hs hfeed hreturn e).2 hbreak
    rw [hnil] at hrow ⊢
    rw [if_pos rfl, if_pos hbreak, hrow]
    simp
  · have hsome := mt (dropReturn_cut_eq_nil hs hfeed hreturn e).1 hbreak
    rw [if_neg hsome, if_neg hbreak, List.append_assoc, hrow]
    simp

/-- A row without line ends gets `front` in front of it. -/
theorem reindentRow_of_line (hs : s ≠ []) (hfeed : '\n' ∉ s) (hreturn : '\r' ∉ s) :
    reindentRow front s = front ++ s ++ ['\n'] := by
  simpa [startsWithBreak, indentBreaks] using @reindentRow_append front _ hs hfeed hreturn []

/-- An escaped text in the middle of a row that begins with a name: `front` comes in front of the
row, and the breaks in the text are indented. -/
theorem reindentRow_escapeChars {start : List Char} (hfront : escapeChars front = front)
    (hstart : start ≠ []) (hsfeed : '\n' ∉ start) (hsreturn : '\r' ∉ start) (hs : s ≠ [])
    (hfeed : '\n' ∉ s) (hreturn : '\r' ∉ s) (value : List Char) :
    reindentRow front (start ++ escapeChars value ++ s) =
      front ++ start ++ escapeChars (indentBreaks front value) ++ s ++ ['\n'] := by
  rw [reindentRow_append hs hfeed hreturn,
    if_neg (not_startsWithBreak_append hstart hsfeed hsreturn _),
    indentBreaks_append hsfeed hsreturn, indentBreaks_escapeChars hfront]
  simp

end ClientGen.Source
