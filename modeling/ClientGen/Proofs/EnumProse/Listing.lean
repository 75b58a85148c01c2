import ClientGen.Proofs.EnumProse.Leftmost

/-!
# Mining a listing

A description lists the values of a text after an introduction: each as a quoted word, a dash, and a
sentence, with white space and hyphens before the next one. `mine_listing` says that mining such a
description gives the list back, as long as the introduction has no quotes and the sentences no
period. Sentences may have quotes, and even quoted words: a value is read up to its period, so that
nothing is looked for inside it.
-/

namespace ClientGen.EnumProse

open Text

/-! ## Listings -/

/-- A value of a listing, and what stands between it and the next one. -/
structure Item where
  token : String
  sentence : String
  gap : String

namespace Item

/-- What is written for a value. -/
def text (i : Item) : String :=
  "\"" ++ i.token ++ "\" - " ++ i.sentence ++ "."

/-- The value is written as values are: a word, and a sentence that neither ends before its period
nor begins with what could belong to the dash. -/
structure IsProper (i : Item) : Prop where
  token_ne : i.token ≠ ""
  token_word : ∀ c ∈ i.token.toList, isWordChar c
  sentence_ne : i.sentence ≠ ""
  sentence_period : '.' ∉ i.sentence.toList
  sentence_trim : trim i.sentence = i.sentence
  sentence_hyphen : i.sentence.toList.head? ≠ some '-'
  gap_blank : ∀ c ∈ i.gap.toList, isBlank c ∨ c = '-'

/-- The parts of the value. -/
def parts (i : Item) : Parts :=
  ⟨i.token.toList, [' ', '-', ' '], i.sentence.toList⟩

end Item

/-- A description that lists values. -/
def listing (introduction : String) (items : List Item) : String :=
  introduction ++ String.join (items.map fun i => i.text ++ i.gap)

variable {i : Item} {s l rest : List Char}

/-! ## One item -/

namespace Item

theorem toList_text (i : Item) : i.text.toList = i.parts.text := by
  simp [text, parts, Parts.text_eq]

namespace IsProper

theorem head?_sentence (h : i.IsProper) :
    ∀ c ∈ i.sentence.toList.head?, isBlank c = false ∧ isSeparator c = false := by
  intro c hc
  have hblank : isBlank c = false := by
    rw [← h.sentence_trim, toList_trim] at hc
    exact head?_trimChars hc
  refine ⟨hblank, ?_⟩
  -- of the separators, a space is white space, and a sentence does not begin with a hyphen
  rw [Bool.eq_false_iff, isSeparator, Ne, Bool.or_eq_true, beq_iff_eq, beq_iff_eq]
  rintro (rfl | rfl)
  · exact absurd hblank (by decide)
  · exact h.sentence_hyphen hc

theorem wellFormed (h : i.IsProper) : i.parts.WellFormed where
  token_ne := by simpa [parts] using h.token_ne
  token_word := h.token_word
  separator_ne := List.cons_ne_nil _ _
  separator_all := by simp [parts, isSeparator]
  sentence_ne := by simpa [parts] using h.sentence_ne
  sentence_all := fun c hc => by
    rw [inSentence, bne_iff_ne]
    rintro rfl
    exact h.sentence_period hc

theorem isSettled (h : i.IsProper) : i.parts.IsSettled :=
  .inl fun c hc => (h.head?_sentence c hc).2

theorem value_parts (h : i.IsProper) : i.parts.value = ⟨i.token, i.sentence ++ "."⟩ := by
  have hstart : trimStart i.sentence.toList = i.sentence.toList := by
    cases hsentence : i.sentence.toList with
    | nil => rfl
    | cons c others =>
      have hc := (h.head?_sentence c (by rw [hsentence]; rfl)).1
      simp [trimStart, hc]
  have hdoc : i.parts.value.documentation = i.sentence ++ "." := by
    rw [← String.toList_inj, i.parts.documentation_toList, String.toList_append]
    exact congrArg (· ++ ['.']) hstart
  rw [← hdoc]
  simp [Parts.value, parts]

theorem quote_not_mem_gap (h : i.IsProper) : '"' ∉ i.gap.toList := by
  intro hmem
  rcases h.gap_blank _ hmem with hblank | heq
  · exact absurd hblank (by decide)
  · exact absurd heq (by decide)

end IsProper

end Item

/-! ## All items -/

/-- No value begins where there is no quote. -/
theorem mineChars_append_of_not_mem (h : '"' ∉ l) : mineChars (l ++ s) = mineChars s := by
  induction l with
  | nil => rfl
  | cons c others ih =>
    obtain ⟨hc, hothers⟩ := not_or.1 (mt List.mem_cons.2 h)
    have hnone : valueAt? (c :: (others ++ s)) = none := by
      rw [valueAt?]
      exact fun tail heq => hc (List.cons.inj heq).1.symm
    rw [List.cons_append, mineChars_of_none hnone, ih hothers]

theorem toList_listing (introduction : String) (items : List Item) :
    (listing introduction items).toList =
      introduction.toList ++ items.flatMap fun i => i.parts.text ++ i.gap.toList := by
  simp [listing, List.flatMap_map, Item.toList_text]

/-- **Mining gives a listing back**: its values in their order, each with its sentence, and nothing
else. -/
theorem mine_listing {introduction : String} {items : List Item}
    (hintroduction : '"' ∉ introduction.toList) (hitems : ∀ i ∈ items, i.IsProper) :
    mine (listing introduction items) = items.map fun i => ⟨i.token, i.sentence ++ "."⟩ := by
  rw [mine, toList_listing, mineChars_append_of_not_mem hintroduction]
  induction items with
  | nil => simp
  | cons i others ih =>
    obtain ⟨hi, hothers⟩ := List.forall_mem_cons.1 hitems
    rw [List.flatMap_cons, List.append_assoc,
      mineChars_of_some (valueAt?_text hi.wellFormed hi.isSettled _),
      mineChars_append_of_not_mem hi.quote_not_mem_gap, ih hothers, hi.value_parts, List.map_cons]

/-- A sentence in which another value is quoted, and one that begins with a quoted word. -/
theorem mine_listing_quotes :
    mine (listing "Possible values are: "
        [⟨"a_1", "As \"b\" - but first", "\n - "⟩, ⟨"b", "\"a_1\" again", ""⟩]) =
      [⟨"a_1", "As \"b\" - but first."⟩, ⟨"b", "\"a_1\" again."⟩] := by
  have hfirst : Item.IsProper ⟨"a_1", "As \"b\" - but first", "\n - "⟩ := {
    token_ne := by decide
    token_word := List.all_eq_true.1 (by decide)
    sentence_ne := by decide
    sentence_period := by decide
    sentence_trim := by decide +kernel
    sentence_hyphen := by decide
    gap_blank := by simp [isBlank] }
  have hsecond : Item.IsProper ⟨"b", "\"a_1\" again", ""⟩ := {
    token_ne := by decide
    token_word := List.all_eq_true.1 (by decide)
    sentence_ne := by decide
    sentence_period := by decide
    sentence_trim := by decide +kernel
    sentence_hyphen := by decide
    gap_blank := by simp }
  exact mine_listing (by decide)
    (List.forall_mem_cons.2 ⟨hfirst, List.forall_mem_singleton.2 hsecond⟩)

end ClientGen.EnumProse
