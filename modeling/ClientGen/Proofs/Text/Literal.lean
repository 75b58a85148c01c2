import ClientGen.Proofs.Text.Lines
import ClientGen.Text.Literal

/-!
# String literals, read back

A literal is read up to its closing quote, with the backslashes taken off, and this gives the text
that was written: `readLiteral_escapeChars`. A literal may go over several lines, though. When
source text is cut into lines and each line is indented, `indentBreaks` says what becomes of a text
in it. Escaping does not interfere, `indentBreaks_escapeChars`, so that is what the literal then
denotes, and it is what was written only if there are no line feeds, `indentBreaks_eq_self_iff`.
-/

namespace ClientGen.Text

/-! ## Reading a literal -/

/-- What a literal denotes whose opening quote has been read, and what follows its closing quote. A
backslash takes the character after it with it. -/
def readLiteral : List Char → Option (List Char × List Char)
  | [] => none
  | '"' :: rest => some ([], rest)
  | '\\' :: c :: rest => (readLiteral rest).map fun (text, after) => (c :: text, after)
  | c :: rest => (readLiteral rest).map fun (text, after) => (c :: text, after)

theorem readLiteral_cons {c : Char} (hquote : c ≠ '"') (hbackslash : c ≠ '\\') (rest : List Char) :
    readLiteral (c :: rest) = (readLiteral rest).map fun (text, after) => (c :: text, after) := by
  rw [readLiteral]
  · exact hquote
  · intro c' rest' h
    exact absurd h hbackslash

/-- **What is written is read.** -/
theorem readLiteral_escapeChars (s after : List Char) :
    readLiteral (escapeChars s ++ '"' :: after) = some (s, after) := by
  induction s with
  | nil => rfl
  | cons c rest ih =>
    by_cases h : c = '\\' ∨ c = '"'
    · rw [escapeChars, if_pos h, List.cons_append, List.cons_append, readLiteral, ih]
      rfl
    · obtain ⟨hbackslash, hquote⟩ := not_or.1 h
      rw [escapeChars, if_neg h, List.cons_append, readLiteral_cons hquote hbackslash, ih]
      rfl

example : readLiteral "a\\\"b\\\\c\" + 1".toList = some ("a\"b\\c".toList, " + 1".toList) := by
  decide

/-- A literal is a text of its own: what is left was not looked at. -/
theorem exists_own_of_readLiteral {literal text after : List Char}
    (h : readLiteral literal = some (text, after)) :
    ∃ own, literal = own ++ after ∧ ∀ more, readLiteral (own ++ more) = some (text, more) := by
  fun_induction readLiteral literal generalizing text with
  | case1 => cases h
  | case2 rest =>
    cases h
    exact ⟨['"'], rfl, fun more => rfl⟩
  | case3 x rest ih =>
    obtain ⟨⟨t, a⟩, hread, heq⟩ := Option.map_eq_some_iff.1 h
    cases heq
    obtain ⟨own, rfl, hown⟩ := ih hread
    refine ⟨'\\' :: x :: own, rfl, fun more => ?_⟩
    rw [List.cons_append, List.cons_append, readLiteral, hown]
    rfl
  | case4 x rest hquote hescape ih =>
    obtain ⟨⟨t, a⟩, hread, heq⟩ := Option.map_eq_some_iff.1 h
    cases heq
    have hbackslash : x ≠ '\\' := by
      cases rest with
      | nil => cases hread
      | cons c rest => exact fun hx => hescape c rest hx rfl
    obtain ⟨own, rfl, hown⟩ := ih hread
    refine ⟨x :: own, rfl, fun more => ?_⟩
    rw [List.cons_append, readLiteral_cons hquote hbackslash, hown]
    rfl

/-- What is denoted begins as the literal does, unless that begins with a backslash. -/
theorem exists_cons_of_readLiteral {literal text after : List Char} {c : Char}
    (h : readLiteral literal = some (c :: text, after)) :
    ∃ c' rest, literal = c' :: rest ∧ (c' = c ∨ c' = '\\') := by
  cases literal with
  | nil => cases h
  | cons first rest =>
    refine ⟨first, rest, rfl, ?_⟩
    by_cases hquote : first = '"'
    · rw [hquote] at h
      cases h
    by_cases hbackslash : first = '\\'
    · exact .inr hbackslash
    · rw [readLiteral_cons hquote hbackslash] at h
      obtain ⟨_, -, heq⟩ := Option.map_eq_some_iff.1 h
      cases heq
      exact .inl rfl

/-- There is a line feed in the text, and what comes after it begins with the character or with a
backslash. -/
def HasFeedBefore (c : Char) (text : List Char) : Prop :=
  ∃ start c' rest, text = start ++ '\n' :: c' :: rest ∧ (c' = c ∨ c' = '\\')

theorem HasFeedBefore.cons {c : Char} {text : List Char} (h : HasFeedBefore c text) (x : Char) :
    HasFeedBefore c (x :: text) := by
  obtain ⟨start, c', rest, rfl, hc⟩ := h
  exact ⟨x :: start, c', rest, rfl, hc⟩

/-- Where a literal denotes a line feed it has one, and what comes after it begins alike. -/
theorem hasFeedBefore_of_readLiteral {literal before text after : List Char} {c : Char}
    (h : readLiteral literal = some (before ++ '\n' :: c :: text, after)) :
    HasFeedBefore c literal := by
  -- a character that is read stands in the literal, and the rest of the literal is read after it
  have hstep : ∀ {x : Char} {rest before : List Char},
      (∀ {before : List Char}, readLiteral rest = some (before ++ '\n' :: c :: text, after) →
        HasFeedBefore c rest) →
      ((readLiteral rest).map fun (t, a) => (x :: t, a)) =
        some (before ++ '\n' :: c :: text, after) → HasFeedBefore c (x :: rest) := by
    intro x rest before ih h
    obtain ⟨⟨t, a⟩, hread, heq⟩ := Option.map_eq_some_iff.1 h
    cases before with
    | nil =>
      cases heq
      obtain ⟨c', rest', rfl, hc⟩ := exists_cons_of_readLiteral hread
      exact ⟨[], c', rest', rfl, hc⟩
    | cons first before =>
      cases heq
      exact (ih hread).cons x
  fun_induction readLiteral literal generalizing before with
  | case1 => cases h
  | case2 rest => simp at h
  | case3 x rest ih => exact (hstep ih h).cons _
  | case4 x rest _ _ ih => exact hstep ih h

/-! ## Indenting anew -/

/-- The first line of the text is empty, and ends there. -/
def startsWithBreak : List Char → Prop
  | [] => False
  | c :: rest => c = '\n' ∨ c = '\r' ∧ rest.head? = some '\n'

instance : (s : List Char) → Decidable (startsWithBreak s)
  | [] => inferInstanceAs (Decidable False)
  | c :: rest => inferInstanceAs (Decidable (c = '\n' ∨ c = '\r' ∧ rest.head? = some '\n'))

theorem not_startsWithBreak_append {s : List Char} (hs : s ≠ []) (hfeed : '\n' ∉ s)
    (hreturn : '\r' ∉ s) (t : List Char) : ¬ startsWithBreak (s ++ t) := by
  obtain ⟨c, rest, rfl⟩ := List.exists_cons_of_ne_nil hs
  rintro (rfl | ⟨rfl, -⟩)
  · exact hfeed List.mem_cons_self
  · exact hreturn List.mem_cons_self

/-- A text in a line of source, after the source was cut into lines and `front` was put in front of
each line that is not empty. Carriage returns before line feeds get lost. -/
def indentBreaks (front : List Char) : List Char → List Char
  | [] => []
  | c :: rest =>
    if c = '\n' then
      '\n' :: ((if startsWithBreak rest then [] else front) ++ indentBreaks front rest)
    else if c = '\r' ∧ rest.head? = some '\n' then indentBreaks front rest
    else c :: indentBreaks front rest

example : indentBreaks "  ".toList "a\r\nb\n\nc\r".toList = "a\n  b\n\n  c\r".toList := by decide

variable {front s t : List Char}

theorem indentBreaks_cons {c : Char} (hfeed : c ≠ '\n') (hreturn : c ≠ '\r') (rest : List Char) :
    indentBreaks front (c :: rest) = c :: indentBreaks front rest := by
  rw [indentBreaks, if_neg hfeed, if_neg fun h => hreturn h.1]

/-- What ends no line stays as it is. -/
theorem indentBreaks_append (hfeed : '\n' ∉ s) (hreturn : '\r' ∉ s) (t : List Char) :
    indentBreaks front (s ++ t) = s ++ indentBreaks front t := by
  induction s with
  | nil => rfl
  | cons c rest ih =>
    obtain ⟨hc, hrest⟩ : '\n' ≠ c ∧ '\n' ∉ rest := by simpa using hfeed
    obtain ⟨hc', hrest'⟩ : '\r' ≠ c ∧ '\r' ∉ rest := by simpa using hreturn
    rw [List.cons_append, indentBreaks_cons (Ne.symm hc) (Ne.symm hc'), ih hrest hrest',
      List.cons_append]

/-! ### Escaped texts -/

theorem escapeChars_cons {c : Char} (hbackslash : c ≠ '\\') (hquote : c ≠ '"') (s : List Char) :
    escapeChars (c :: s) = c :: escapeChars s := by
  rw [escapeChars, if_neg (not_or.2 ⟨hbackslash, hquote⟩)]

/-- The first character after escaping is a line feed if it was one before. -/
theorem head?_escapeChars_feed : (escapeChars s).head? = some '\n' ↔ s.head? = some '\n' := by
  cases s with
  | nil => rfl
  | cons c rest =>
    by_cases h : c = '\\' ∨ c = '"'
    · rw [escapeChars, if_pos h]
      rcases h with rfl | rfl <;> simp
    · rw [escapeChars, if_neg h]
      rfl

theorem startsWithBreak_escapeChars : startsWithBreak (escapeChars s) ↔ startsWithBreak s := by
  cases s with
  | nil => rfl
  | cons c rest =>
    by_cases h : c = '\\' ∨ c = '"'
    · rw [escapeChars, if_pos h]
      rcases h with rfl | rfl <;> simp [startsWithBreak]
    · rw [escapeChars, if_neg h, startsWithBreak, startsWithBreak, head?_escapeChars_feed]

/-- Escaping and indenting anew do not get in each other's way. -/
theorem indentBreaks_escapeChars (hfront : escapeChars front = front) (s : List Char) :
    indentBreaks front (escapeChars s) = escapeChars (indentBreaks front s) := by
  induction s with
  | nil => rfl
  | cons c rest ih =>
    by_cases hfeed : c = '\n'
    · subst hfeed
      rw [escapeChars_cons (by decide) (by decide), indentBreaks, if_pos rfl, indentBreaks,
        if_pos rfl, escapeChars_cons (by decide) (by decide), escapeChars_append, ih]
      by_cases hbreak : startsWithBreak rest
      · rw [if_pos hbreak, if_pos (startsWithBreak_escapeChars.2 hbreak), escapeChars_nil]
      · rw [if_neg hbreak, if_neg (mt startsWithBreak_escapeChars.1 hbreak), hfront]
    by_cases hreturn : c = '\r'
    · subst hreturn
      rw [escapeChars_cons (by decide) (by decide), indentBreaks, if_neg hfeed, indentBreaks,
        if_neg hfeed]
      by_cases hnext : rest.head? = some '\n'
      · rw [if_pos ⟨rfl, head?_escapeChars_feed.2 hnext⟩, if_pos ⟨rfl, hnext⟩, ih]
      · rw [if_neg fun h => hnext (head?_escapeChars_feed.1 h.2), if_neg fun h => hnext h.2,
          escapeChars_cons (by decide) (by decide), ih]
    by_cases hescape : c = '\\' ∨ c = '"'
    · rw [indentBreaks_cons hfeed hreturn, escapeChars, if_pos hescape, escapeChars, if_pos hescape,
        indentBreaks_cons (by decide) (by decide), indentBreaks_cons hfeed hreturn, ih]
    · obtain ⟨hbackslash, hquote⟩ := not_or.1 hescape
      rw [indentBreaks_cons hfeed hreturn, escapeChars_cons hbackslash hquote,
        escapeChars_cons hbackslash hquote, indentBreaks_cons hfeed hreturn, ih]

/-! ### What stays as it is -/

/-- A text of one line stays as it is. -/
theorem indentBreaks_of_not_mem (h : '\n' ∉ s) : indentBreaks front s = s := by
  induction s with
  | nil => rfl
  | cons c rest ih =>
    obtain ⟨hc, hrest⟩ : '\n' ≠ c ∧ '\n' ∉ rest := by simpa using h
    have hnext : rest.head? ≠ some '\n' := fun hhead => hrest (List.mem_of_head? hhead)
    rw [indentBreaks, if_neg (Ne.symm hc), if_neg fun hreturn => hnext hreturn.2, ih hrest]

/-- The last line of a text is indented, whatever is before it. -/
theorem exists_indentBreaks_feed (h : '\n' ∉ t) (s : List Char) :
    ∃ before, indentBreaks front (s ++ '\n' :: t) = before ++ '\n' :: (front ++ t) := by
  induction s with
  | nil =>
    refine ⟨[], ?_⟩
    have hbreak : ¬ startsWithBreak t := by
      cases t with
      | nil => exact id
      | cons c rest =>
        obtain ⟨hc, hrest⟩ : '\n' ≠ c ∧ '\n' ∉ rest := by simpa using h
        rintro (hfeed | ⟨-, hnext⟩)
        · exact hc hfeed.symm
        · exact hrest (List.mem_of_head? hnext)
    rw [List.nil_append, indentBreaks, if_pos rfl, if_neg hbreak, indentBreaks_of_not_mem h]
    rfl
  | cons c rest ih =>
    obtain ⟨before, hbefore⟩ := ih
    rw [List.cons_append, indentBreaks, hbefore]
    by_cases hfeed : c = '\n'
    · rw [if_pos hfeed]
      exact ⟨_, by rw [← List.append_assoc, ← List.cons_append]⟩
    · rw [if_neg hfeed]
      by_cases hreturn : c = '\r' ∧ (rest ++ '\n' :: t).head? = some '\n'
      · exact ⟨before, by rw [if_pos hreturn]⟩
      · exact ⟨c :: before, by rw [if_neg hreturn, List.cons_append]⟩

/-- **Only a text of one line stays as it is**, if there is anything to put in front of lines. -/
theorem indentBreaks_eq_self_iff (hfront : front ≠ []) (hline : '\n' ∉ front) :
    indentBreaks front s = s ↔ '\n' ∉ s := by
  refine ⟨fun heq hmem => hfront ?_, indentBreaks_of_not_mem⟩
  obtain ⟨before, t, hs, ht⟩ := exists_last_piece hmem
  -- the last lines of both sides are the same
  have hlast : ∀ (before : List Char) {l : List Char}, '\n' ∉ l →
      (pieces '\n' (before ++ '\n' :: l)).getLast? = some l := by
    intro before l hl
    rw [pieces_append, pieces_of_not_mem hl, List.getLast?_concat]
  obtain ⟨start, hstart⟩ := @exists_indentBreaks_feed front _ ht before
  rw [← hs, heq] at hstart
  have hindented := hlast start (l := front ++ t) (by simp [hline, ht])
  rw [← hstart, hs, hlast before ht] at hindented
  simpa using hindented

end ClientGen.Text
