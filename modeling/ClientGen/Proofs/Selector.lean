import ClientGen.Proofs.Text.Blank
import ClientGen.Proofs.Text.Lines
import ClientGen.Settings

/-!
# Which texts are selectors

A text is read as a selector exactly if there is one colon in it and something but white space on
either side, `parse_eq_ok_iff`. The name and the version are what is on the two sides, without the
white space around it. No colon is left in them and no white space at their ends, so that the
written form of a selector that was read is read as this selector again: `selectors_read_back`.
-/

namespace ClientGen.Selector

open Text

variable {s : String} {selector : Selector} {left right : List Char}

/-- The text has just one colon, and these are its sides. -/
structure Sides (s : String) (left right : List Char) : Prop where
  text : s.toList = left ++ ':' :: right
  once : s.toList.count ':' = 1

theorem sides_iff : Sides s left right ↔ pieces ':' s.toList = [left, right] := by
  rw [pieces_eq_pair]
  exact ⟨fun h => ⟨h.text, h.once⟩, fun h => ⟨h.1, h.2⟩⟩

/-- A text has no more than two sides. -/
theorem Sides.unique {left' right' : List Char} (h : Sides s left right)
    (h' : Sides s left' right') : left = left' ∧ right = right' := by
  have hpieces := (sides_iff.1 h).symm.trans (sides_iff.1 h')
  simpa using hpieces

/-! ## Reading -/

/-- A text with one colon is read if neither side is blank. -/
theorem parse_of_sides (h : Sides s left right) :
    parse s =
      if trimChars left = [] ∨ trimChars right = [] then .error (.invalidSelector s)
      else .ok ⟨String.ofList (trimChars left), String.ofList (trimChars right)⟩ := by
  rw [parse, sides_iff.1 h]
  rfl

/-- A text is refused if it has another number of colons. -/
theorem parse_of_not_sides (h : ∀ left right, ¬ Sides s left right) :
    parse s = .error (.invalidSelector s) := by
  unfold parse
  split
  · rename_i hpieces
    obtain ⟨left, rest, hleft, -, hrest⟩ := List.map_eq_cons_iff.1 hpieces
    obtain ⟨right, last, hright, -, hlast⟩ := List.map_eq_cons_iff.1 hrest
    rw [List.map_eq_nil_iff.1 hlast] at hright
    exact absurd (sides_iff.2 (hleft.trans (hright ▸ rfl))) (h left right)
  · rfl

/-- **A selector is read** from the texts that have one colon, its name on the left and its version
on the right, with nothing but white space around them. -/
theorem parse_eq_ok_iff :
    parse s = .ok selector ↔ ∃ left right, Sides s left right ∧
      IsTrimmed left selector.name.toList ∧ IsTrimmed right selector.version.toList ∧
        selector.name ≠ "" ∧ selector.version ≠ "" := by
  by_cases hsides : ∃ left right, Sides s left right
  · obtain ⟨left, right, h⟩ := hsides
    rw [parse_of_sides h]
    constructor
    · intro hparse
      split at hparse
      · cases hparse
      · rename_i hblank
        cases hparse
        refine ⟨left, right, h, isTrimmed_iff.2 (by simp), isTrimmed_iff.2 (by simp), ?_⟩
        simpa [not_or] using hblank
    · rintro ⟨left', right', h', hname, hversion, hne, hne'⟩
      obtain ⟨rfl, rfl⟩ := h.unique h'
      rw [isTrimmed_iff.1 hname, isTrimmed_iff.1 hversion, if_neg (by simp [hne, hne'])]
      simp
  · push Not at hsides
    rw [parse_of_not_sides hsides]
    exact iff_of_false nofun fun ⟨left, right, h, _⟩ => hsides left right h

/-! ## Writing -/

/-- The parts of a selector that was read are the sides of its written form. -/
theorem sides_text (hname : ':' ∉ selector.name.toList) (hversion : ':' ∉ selector.version.toList) :
    Sides selector.text selector.name.toList selector.version.toList where
  text := by simp [text]
  once := by simp [text, List.count_eq_zero.2 hname, List.count_eq_zero.2 hversion]

theorem Sides.not_mem (h : Sides s left right) : ':' ∉ left ∧ ':' ∉ right := by
  have hpieces : ∀ piece ∈ pieces ':' s.toList, ':' ∉ piece := not_mem_of_mem_pieces
  rw [sides_iff.1 h] at hpieces
  exact ⟨hpieces left (by simp), hpieces right (by simp)⟩

/-- A selector that was read is read again from its written form. -/
theorem parse_text (h : parse s = .ok selector) : parse selector.text = .ok selector := by
  obtain ⟨left, right, hsides, hname, hversion, hne, hne'⟩ := parse_eq_ok_iff.1 h
  obtain ⟨hleft, hright⟩ := hsides.not_mem
  have hwritten := sides_text (fun hmem => hleft (hname.subset hmem))
    (fun hmem => hright (hversion.subset hmem))
  exact parse_eq_ok_iff.2 ⟨_, _, hwritten, hname.self, hversion.self, hne, hne'⟩

/-- **Selectors.** A text is read as a selector exactly if it has one colon and neither side of it
is blank; any other text is refused, and the error has the text. The name and the version are the
two sides without the white space at their ends, and reading the written form of the selector gives
this selector back. -/
theorem selectors_read_back (s : String) :
    ((∃ selector, parse s = .ok selector) ↔
      ∃ left right, Sides s left right ∧ ¬ IsTrimmed left [] ∧ ¬ IsTrimmed right []) ∧
    (∀ e, parse s = .error e → e = .invalidSelector s) ∧
    ∀ selector, parse s = .ok selector →
      (∃ left right, Sides s left right ∧
        IsTrimmed left selector.name.toList ∧ IsTrimmed right selector.version.toList) ∧
      parse selector.text = .ok selector := by
  refine ⟨?_, ?_, ?_⟩
  · constructor
    · rintro ⟨selector, h⟩
      obtain ⟨left, right, hsides, hname, hversion, hne, hne'⟩ := parse_eq_ok_iff.1 h
      rw [isTrimmed_iff] at hname hversion
      refine ⟨left, right, hsides, ?_, ?_⟩
      · rw [isTrimmed_iff, hname]
        simpa using hne
      · rw [isTrimmed_iff, hversion]
        simpa using hne'
    · rintro ⟨left, right, hsides, hleft, hright⟩
      rw [isTrimmed_iff] at hleft hright
      exact ⟨_, (parse_of_sides hsides).trans (if_neg (not_or.2 ⟨hleft, hright⟩))⟩
  · intro e h
    by_cases hsides : ∃ left right, Sides s left right
    · obtain ⟨left, right, hsides⟩ := hsides
      rw [parse_of_sides hsides] at h
      split at h
      · exact (Except.error.inj h).symm
      · cases h
    · push Not at hsides
      rw [parse_of_not_sides hsides] at h
      exact (Except.error.inj h).symm
  · intro selector h
    obtain ⟨left, right, hsides, hname, hversion, -, -⟩ := parse_eq_ok_iff.1 h
    exact ⟨⟨left, right, hsides, hname, hversion⟩, parse_text h⟩

end ClientGen.Selector
