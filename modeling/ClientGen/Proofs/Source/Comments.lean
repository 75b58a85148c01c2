import ClientGen.Proofs.Source.Rows
import ClientGen.Proofs.Text.Blank

/-!
# Documentation stays in its comments

Documentation is text of the API's author, and is written between lines of source as a comment. A
line of it that did not begin with slashes would be source. Each line of the trimmed text becomes a
line of the comment, `map_said?_docLines`: nothing in such a line ends it, and it does not end in a
carriage return that could be lost with the line end, so it is `IsSteady`.

A finished text is put into another one by cutting it into lines and indenting each of them, and
this may happen again with the other one. Lines that are steady get the indentation in front and are
not changed otherwise, and all other rows are cut for themselves, `HasLines.around`. So after any
number of such places the physical lines of the source are those of the comment, indented, between
others that are the same for every documentation, `documentation_stays_comment`: no documentation
gets out of its comment, or changes anything around it.
-/

namespace ClientGen.Source

open Text

/-! ## What a comment says -/

/-- What a line says that is a comment: what is behind its slashes, without the blank. -/
def said? : List Char → Option (List Char)
  | ['/', '/', '/'] => some []
  | '/' :: '/' :: '/' :: ' ' :: rest => some rest
  | _ => none

/-- What the comment for a text says: the lines of the trimmed text, each without white space at its
end. For a text of white space there is none. -/
def saidLines (text : List Char) : List (List Char) :=
  if trimChars text = [] then [] else (pieces '\n' (trimChars text)).map trimEnd

theorem toList_docLine (line : List Char) :
    (docLine line).toList =
      "///".toList ++ if trimEnd line = [] then [] else ' ' :: trimEnd line := by
  unfold docLine
  split
  · rename_i hblank
    simp [hblank]
  · rename_i hsome
    have hne : trimEnd line ≠ [] := hsome
    simp [hne, String.toList_append]

theorem slashes_docLine (line : List Char) : "///".toList <+: (docLine line).toList := by
  rw [toList_docLine]
  exact List.prefix_append _ _

theorem said?_docLine (line : List Char) : said? (docLine line).toList = some (trimEnd line) := by
  rw [toList_docLine]
  split
  · rename_i hblank
    rw [hblank]
    rfl
  · rfl

/-! ### The lines of a trimmed text -/

theorem trimEnd_dropReturn (line : List Char) : trimEnd (dropReturn line) = trimEnd line := by
  unfold dropReturn
  split
  · rename_i hlast
    obtain ⟨init, rfl⟩ := List.getLast?_eq_some_iff.1 hlast
    rw [List.dropLast_concat, trimEnd_concat (by decide)]
  · rfl

/-- No line has a line feed in it. -/
theorem feed_not_mem_linesOf (t : List Char) : ∀ line ∈ linesOf t, '\n' ∉ line := by
  have hended : ∀ line ∈ (pieces '\n' t).dropLast.map dropReturn, '\n' ∉ line := by
    refine List.forall_mem_map.2 fun piece hpiece hfeed => ?_
    exact not_mem_of_mem_pieces piece (List.dropLast_subset _ hpiece) (mem_of_mem_dropReturn hfeed)
  unfold linesOf
  dsimp only
  split
  · exact hended
  · exact hended
  · rename_i last _ hlast
    refine List.forall_mem_append.2 ⟨hended, ?_⟩
    simpa using not_mem_of_mem_pieces last (List.mem_of_getLast? hlast)

/-- With white space at the ends of lines cut off, it does not matter whether a carriage return
before a line feed belongs to the end of the line. -/
theorem map_trimEnd_linesOf {t : List Char} (hne : t ≠ []) (hlast : t.getLast? ≠ some '\n') :
    (linesOf t).map trimEnd = (pieces '\n' t).map trimEnd := by
  by_cases hmem : '\n' ∈ t
  · obtain ⟨before, last, rfl, hfeed⟩ := exists_last_piece hmem
    have hsome : last ≠ [] := by
      rintro rfl
      simp at hlast
    rw [linesOf_append, linesOf_of_not_mem hfeed hsome, pieces_append, pieces_of_not_mem hfeed,
      List.map_append, List.map_append, List.map_map]
    congr 1
    exact List.map_congr_left fun line _ => trimEnd_dropReturn line
  · rw [linesOf_of_not_mem hmem hne, pieces_of_not_mem hmem]

theorem docLines_eq (text : String) :
    docLines text = if trimChars text.toList = [] then []
      else (linesOf (trimChars text.toList)).map docLine := by
  unfold docLines
  split
  · rename_i hblank
    rw [if_pos hblank]
  · rename_i hsome
    rw [if_neg hsome]

/-- What holds of every line made of a text without line feeds holds of all lines of comments. -/
theorem forall_mem_docLines {P : String → Prop} (h : ∀ line, '\n' ∉ line → P (docLine line))
    (text : String) : ∀ line ∈ docLines text, P line := by
  rw [docLines_eq]
  split
  · exact List.forall_mem_nil _
  · exact List.forall_mem_map.2 fun line hline => h line (feed_not_mem_linesOf _ line hline)

/-- **The comment for a text** says its lines, in order. -/
theorem map_said?_docLines (text : String) :
    (docLines text).map (said? ·.toList) = (saidLines text.toList).map some := by
  rw [docLines_eq, saidLines]
  split
  · rfl
  · rename_i hsome
    have hlast : (trimChars text.toList).getLast? ≠ some '\n' := by
      intro h
      exact absurd (getLast?_trimChars h) (by decide)
    rw [← map_trimEnd_linesOf hsome hlast, List.map_map, List.map_map]
    exact List.map_congr_left fun line _ => said?_docLine line

/-- There is a comment unless the text is white space. -/
theorem docLines_eq_nil_iff {text : String} :
    docLines text = [] ↔ ∀ c ∈ text.toList, isBlank c := by
  have hlines : docLines text = [] ↔ saidLines text.toList = [] := by
    rw [← List.map_eq_nil_iff (f := (said? ·.toList)), map_said?_docLines, List.map_eq_nil_iff]
  rw [hlines, saidLines, ← trimChars_eq_nil_iff]
  constructor
  · intro h
    by_contra hsome
    rw [if_neg hsome, List.map_eq_nil_iff] at h
    exact pieces_ne_nil _ _ h
  · exact fun h => if_pos h

/-! ## Lines that stay lines -/

/-- The row is one line of source and stays one when the source is cut into lines: nothing in it
ends a line, and its end is not taken for a part of the line end. -/
structure IsSteady (r : String) : Prop where
  nonempty : r.toList ≠ []
  feed : '\n' ∉ r.toList
  last : r.toList.getLast? ≠ some '\r'

variable {depth : Nat} {r : String}

theorem isSteady_docLine (line : List Char) (h : '\n' ∉ line) : IsSteady (docLine line) where
  nonempty := by simp [toList_docLine]
  feed := by
    have hbegins := trimEnd_prefix line
    have htrimmed : '\n' ∉ trimEnd line := fun hmem => h (hbegins.subset hmem)
    rw [toList_docLine]
    split <;> simp [htrimmed]
  last := by
    rw [toList_docLine]
    split
    · decide
    · rename_i hsome
      rw [← List.singleton_append, ← List.append_assoc, List.getLast?_append_of_ne_nil _ hsome]
      intro hlast
      exact absurd (getLast?_trimEnd hlast) (by decide)

theorem isSteady_docLines (text : String) : ∀ line ∈ docLines text, IsSteady line :=
  forall_mem_docLines isSteady_docLine text

theorem IsSteady.indented (h : IsSteady r) (depth : Nat) : IsSteady (indentation depth ++ r) where
  nonempty := by simp [h.nonempty]
  feed := by simp [toList_indentation, h.feed]
  last := by
    rw [String.toList_append, List.getLast?_append_of_ne_nil _ h.nonempty]
    exact h.last

theorem reindentedRows_of_isSteady (h : IsSteady r) (depth : Nat) :
    reindentedRows depth r = [indentation depth ++ r] := by
  have hkept : dropReturn r.toList = r.toList := if_neg h.last
  rw [reindentedRows, pieces_of_not_mem h.feed, List.map_singleton, List.map_singleton, hkept,
    String.ofList_toList, row_of_ne_nil h.nonempty]

theorem indentation_append (outer inner : Nat) (text : String) :
    indentation outer ++ (indentation inner ++ text) = indentation (outer + inner) ++ text := by
  rw [← String.toList_inj]
  simp only [String.toList_append, toList_indentation, Nat.mul_add, List.replicate_add,
    List.append_assoc]

/-! ## Texts inside other texts -/

/-- What a text is written into: rows that come before and after it, and how many blocks it stands
in. -/
structure Surroundings where
  before : List String
  depth : Nat
  after : List String

/-- The source with the blocks in their place. -/
def Surroundings.around (s : Surroundings) (blocks : List Block) : String :=
  String.ofList (endRows s.before) ++ printBlocks s.depth blocks ++
    String.ofList (endRows s.after)

/-- A finished text put into other texts, line by line, one after the other. -/
def putInto (places : List Surroundings) (text : String) : String :=
  places.foldl (fun text s => s.around (reindented text)) text

/-- How many blocks all of the places stand in together. -/
def totalDepth : List Surroundings → Nat
  | [] => 0
  | s :: rest => s.depth + totalDepth rest

/-- The text has the lines one below the other, each as deep as said, between other rows. -/
def HasLines (lead trail : List String) (depth : Nat) (lines : List String) (text : String) :
    Prop :=
  text.toList = endRows (lead ++ lines.map (indentation depth ++ ·) ++ trail)

theorem toList_around (s : Surroundings) (blocks : List Block) :
    (s.around blocks).toList = endRows (s.before ++ rowsOf s.depth blocks ++ s.after) := by
  simp [Surroundings.around, toList_printBlocks, endRows]

/-- A module whose text is finished first is put into what is around it in this way. -/
theorem printBlocks_embedded (depth : Nat) (name : String) (items : List Item) :
    printBlocks depth (Item.embedded name items).blocks =
      (Surroundings.mk [row depth (s!"pub mod {name}" ++ " \x7b")] (depth + 1)
        [row depth "\x7d"]).around (reindented (printItems items)) := by
  rw [← String.toList_inj, toList_printBlocks, toList_around, Item.blocks, rowsOf, Block.rows,
    rowsOf, List.append_nil, printItems]
  rfl

variable {lead trail lines : List String} {text : String}

/-- **One place more** puts its own indentation in front of the lines, and keeps the rest apart. -/
theorem HasLines.around (s : Surroundings) (hlines : ∀ line ∈ lines, IsSteady line)
    (h : HasLines lead trail depth lines text) :
    HasLines (s.before ++ lead.flatMap (reindentedRows s.depth))
      (trail.flatMap (reindentedRows s.depth) ++ s.after) (s.depth + depth) lines
      (s.around (reindented text)) := by
  have hmoved : (lines.map (indentation depth ++ ·)).flatMap (reindentedRows s.depth) =
      lines.map (indentation (s.depth + depth) ++ ·) := by
    rw [List.flatMap_map, List.map_eq_flatMap]
    refine List.flatMap_congr fun line hline => ?_
    rw [reindentedRows_of_isSteady ((hlines line hline).indented depth), indentation_append]
  rw [HasLines, toList_around, rowsOf_reindented s.depth h, List.flatMap_append,
    List.flatMap_append, hmoved]
  simp only [List.append_assoc]

/-- **Any number of places** leave the lines as they are, but for the indentation, and what comes
before and after them does not depend on the lines. -/
theorem exists_hasLines_putInto (places : List Surroundings) (lead trail : List String)
    (depth : Nat) :
    ∃ lead' trail', ∀ lines text, (∀ line ∈ lines, IsSteady line) →
      HasLines lead trail depth lines text →
        HasLines lead' trail' (totalDepth places + depth) lines (putInto places text) := by
  induction places generalizing lead trail depth with
  | nil =>
    refine ⟨lead, trail, fun lines text _ h => ?_⟩
    rwa [totalDepth, Nat.zero_add]
  | cons s rest ih =>
    obtain ⟨lead', trail', hrest⟩ := ih (s.before ++ lead.flatMap (reindentedRows s.depth))
      (trail.flatMap (reindentedRows s.depth) ++ s.after) (s.depth + depth)
    refine ⟨lead', trail', fun lines text hlines h => ?_⟩
    have hdepth : totalDepth (s :: rest) + depth = totalDepth rest + (s.depth + depth) := by
      rw [totalDepth]
      omega
    rw [hdepth]
    exact hrest lines _ hlines (h.around s hlines)

/-- The physical lines of a text that has some lines between other rows. -/
theorem HasLines.split_eq (hlines : ∀ line ∈ lines, IsSteady line)
    (h : HasLines lead trail depth lines text) :
    split '\n' text =
      lead.flatMap (split '\n') ++ lines.map (indentation depth ++ ·) ++
        (trail.flatMap (split '\n') ++ [""]) := by
  have hkept : (lines.map (indentation depth ++ ·)).flatMap (split '\n') =
      lines.map (indentation depth ++ ·) := by
    rw [List.flatMap_map, List.map_eq_flatMap]
    refine List.flatMap_congr fun line hline => ?_
    rw [split, pieces_of_not_mem ((hlines line hline).indented depth).feed, List.map_singleton,
      String.ofList_toList]
  have hrows (rows : List String) :
      (rows.flatMap fun r => pieces '\n' r.toList).map String.ofList = rows.flatMap (split '\n') :=
    List.map_flatMap
  rw [split, h, pieces_endRows_eq_flatMap, List.map_append, hrows, List.flatMap_append,
    List.flatMap_append, hkept]
  simp only [List.append_assoc]
  rfl

/-! ## Comments inside other texts -/

theorem hasLines_docBlocks (s : Surroundings) (text : String) :
    HasLines s.before s.after s.depth (docLines text) (s.around (docBlocks (some text))) := by
  have hblocks : docBlocks (some text) = (docLines text).map .line := by
    rw [docBlocks, Option.toList_some, List.flatMap_singleton]
  have hrows : (docLines text).map (row s.depth) = (docLines text).map (indentation s.depth ++ ·) :=
    List.map_congr_left fun line hline =>
      row_of_ne_nil (isSteady_docLines text line hline).nonempty _
  rw [HasLines, toList_around, hblocks, rowsOf_lines, hrows]

/-- **Documentation stays in its comment**, wherever that stands and however often the source around
it is put into other source. There are lines before and after, the same for every text, and between
them the physical lines of the comment: each begins with three slashes after its indentation, and
they say the lines of the trimmed text, in order. If the text is white space there are none. -/
theorem documentation_stays_comment (innermost : Surroundings) (places : List Surroundings) :
    ∃ linesBefore linesAfter, ∀ text : String,
      split '\n' (putInto places (innermost.around (docBlocks (some text)))) =
          linesBefore ++
            (docLines text).map (indentation (totalDepth (innermost :: places)) ++ ·) ++
              linesAfter ∧
        (∀ line ∈ docLines text, "///".toList <+: line.toList) ∧
        (docLines text).map (said? ·.toList) = (saidLines text.toList).map some ∧
        (docLines text = [] ↔ ∀ c ∈ text.toList, isBlank c) := by
  obtain ⟨lead, trail, hput⟩ :=
    exists_hasLines_putInto places innermost.before innermost.after innermost.depth
  refine ⟨lead.flatMap (split '\n'), trail.flatMap (split '\n') ++ [""], fun text => ⟨?_,
    forall_mem_docLines (fun line _ => slashes_docLine line) text, map_said?_docLines text,
    docLines_eq_nil_iff⟩⟩
  have hlines := hput _ _ (isSteady_docLines text) (hasLines_docBlocks innermost text)
  rw [hlines.split_eq (isSteady_docLines text), totalDepth, Nat.add_comm innermost.depth]

/-- A text that tries to get out of its comment, in a module that is put into another one. -/
example :
    let inner : Surroundings := ⟨["pub struct A \x7b"], 1, ["\x7d"]⟩
    let outer : Surroundings := ⟨["pub mod a \x7b"], 1, ["\x7d"]⟩
    split '\n' (putInto [outer] (inner.around (docBlocks (some " x\r\n\n\x7d */ fn f() \r\n")))) =
      ["pub mod a \x7b", "    pub struct A \x7b", "        /// x", "        ///",
        "        /// \x7d */ fn f()", "    \x7d", "\x7d", ""] := by
  decide +kernel

end ClientGen.Source
