import ClientGen.EnumProse
import ClientGen.Proofs.Text.Blank
import ClientGen.Proofs.Text.Pattern

/-!
# Values in prose, leftmost first

`Parts` are what a value in prose consists of, and `Parts.Begins` says that a text begins with a
value: with a quoted word, a separator and a sentence. Spaces and hyphens can stand in a sentence
too, so it has to be said where the separator ends: it takes all of them, `Parts.IsSettled`, unless
nothing but the period would be left. This is what backtracking finds for the pattern of a value,
`begins_iff_find?`, and what is read at the beginning of a text, `valueAt?_eq_some_iff`.

`Scanned` says which values there are in a text, from left to right: each begins in the first place
where any does, from the end of the one before it on. `mine_leftmost` says that mining gives these.
-/

namespace ClientGen.EnumProse

open Text

/-! ## The parts of a value -/

/-- A value as it stands in a text: its word, the separator, and the sentence without its period. -/
structure Parts where
  token : List Char
  separator : List Char
  sentence : List Char

namespace Parts

/-- The pieces of the text of a value. -/
def pieces (p : Parts) : List (List Char) :=
  [['"'], p.token, ['"'], p.separator, p.sentence, ['.']]

/-- The text of a value. -/
def text (p : Parts) : List Char :=
  p.pieces.flatten

/-- The value: its word, and its sentence with the period, without white space around it. -/
def value (p : Parts) : ProseValue :=
  ⟨String.ofList p.token, trim (String.ofList (p.sentence ++ ['.']))⟩

/-- Each part has the characters that it may have, and at least one. -/
structure WellFormed (p : Parts) : Prop where
  token_ne : p.token ≠ []
  token_word : ∀ c ∈ p.token, isWordChar c
  separator_ne : p.separator ≠ []
  separator_all : ∀ c ∈ p.separator, isSeparator c
  sentence_ne : p.sentence ≠ []
  sentence_all : ∀ c ∈ p.sentence, inSentence c

/-- The separator takes all the spaces and hyphens after the word, but if nothing is left before the
period then, it gives back one of them. -/
def IsSettled (p : Parts) : Prop :=
  (∀ c ∈ p.sentence.head?, isSeparator c = false) ∨ ∃ c, isSeparator c ∧ p.sentence = [c]

/-- The text begins with a value of these parts. -/
def Begins (p : Parts) (s : List Char) : Prop :=
  p.WellFormed ∧ p.IsSettled ∧ p.text <+: s

theorem text_eq (p : Parts) :
    p.text = '"' :: (p.token ++ '"' :: (p.separator ++ (p.sentence ++ ['.']))) := by
  simp [text, pieces]

theorem text_append (p : Parts) (rest : List Char) :
    p.text ++ rest =
      '"' :: (p.token ++ '"' :: (p.separator ++ (p.sentence ++ '.' :: rest))) := by
  simp [text_eq]

theorem text_ne_nil (p : Parts) : p.text ≠ [] :=
  List.cons_ne_nil _ _

theorem eq_of_pieces {p q : Parts} (h : p.pieces = q.pieces) : p = q := by
  obtain ⟨token, separator, sentence⟩ := p
  obtain ⟨token', separator', sentence'⟩ := q
  simp only [pieces, List.cons.injEq] at h
  obtain ⟨-, rfl, -, rfl, rfl, -⟩ := h
  rfl

/-- Where the separator ends is a matter of choice: there is always a way to settle it. -/
theorem WellFormed.exists_settled {p : Parts} (h : p.WellFormed) :
    ∃ q : Parts, q.WellFormed ∧ q.IsSettled ∧ q.text = p.text := by
  have hsplit := List.takeWhile_append_dropWhile (p := isSeparator) (l := p.sentence)
  have hrun : ∀ c ∈ p.separator ++ p.sentence.takeWhile isSeparator, isSeparator c := by
    intro c hc
    rcases List.mem_append.1 hc with hc | hc
    · exact h.separator_all c hc
    · exact List.all_eq_true.1 List.all_takeWhile c hc
  by_cases hrest : p.sentence.dropWhile isSeparator = []
  · -- the sentence has nothing but spaces and hyphens, and keeps the last one of them
    rw [hrest, List.append_nil] at hsplit
    rw [hsplit] at hrun
    obtain ⟨front, last, hlast⟩ := List.eq_nil_or_concat p.sentence |>.resolve_left h.sentence_ne
    rw [List.concat_eq_append] at hlast
    refine ⟨⟨p.token, p.separator ++ front, [last]⟩, ⟨h.token_ne, h.token_word, ?_, ?_,
      List.cons_ne_nil _ _, ?_⟩, .inr ⟨last, hrun last (by simp [hlast]), rfl⟩, ?_⟩
    · simp [h.separator_ne]
    · intro c hc
      refine hrun c ?_
      rw [hlast, ← List.append_assoc]
      exact List.mem_append_left _ hc
    · exact fun c hc => h.sentence_all c (by simp_all)
    · simp [text_eq, hlast]
  · refine ⟨⟨p.token, p.separator ++ p.sentence.takeWhile isSeparator,
      p.sentence.dropWhile isSeparator⟩, ⟨h.token_ne, h.token_word, ?_, hrun, hrest, ?_⟩, .inl ?_,
      ?_⟩
    · simp [h.separator_ne]
    · exact fun c hc => h.sentence_all c ((List.dropWhile_sublist _).mem hc)
    · intro c hc
      have hnot := List.head?_dropWhile_not isSeparator p.sentence
      rw [hc] at hnot
      simpa using hnot
    · simp only [text_eq, List.append_assoc]
      rw [← List.append_assoc (List.takeWhile _ _), hsplit]

end Parts

/-! ## One value -/

variable {s rest : List Char} {p : Parts}

/-- What goes on as long as characters are in a class, ends before the first one that is not. -/
theorem span_append {class? : Char → Bool} {l t : List Char} (h : ∀ c ∈ l, class? c)
    (ht : ∀ c ∈ t.head?, class? c = false) :
    (l ++ t).takeWhile class? = l ∧ (l ++ t).dropWhile class? = t := by
  rw [List.takeWhile_append_of_pos h, List.dropWhile_append_of_pos h]
  cases t with
  | nil => simp
  | cons c rest => simp [ht c rfl]

/-- A quoted word is read with all the separators after it, which then may have to give one back. -/
theorem valueAt?_quoted {token run clause : List Char} (htoken : token ≠ [])
    (hword : ∀ c ∈ token, isWordChar c) (hrun : run ≠ []) (hseparators : ∀ c ∈ run, isSeparator c)
    (hclause : ∀ c ∈ clause, inSentence c) (hhead : ∀ c ∈ clause.head?, isSeparator c = false)
    (rest : List Char) :
    valueAt? ('"' :: (token ++ '"' :: (run ++ (clause ++ '.' :: rest)))) =
      (sentence? run clause).map fun sentence =>
        (⟨String.ofList token, trim (String.ofList (sentence ++ ['.']))⟩, rest) := by
  obtain ⟨first, word, rfl⟩ := List.exists_cons_of_ne_nil htoken
  obtain ⟨space, spaces, rfl⟩ := List.exists_cons_of_ne_nil hrun
  obtain ⟨htake, hdrop⟩ := span_append hword
    (t := '"' :: (space :: spaces ++ (clause ++ '.' :: rest))) fun c hc => by cases hc; rfl
  have hbody : ∀ c ∈ (clause ++ '.' :: rest).head?, isSeparator c = false := by
    cases clause with
    | nil => exact fun c hc => by cases hc; rfl
    | cons c others => exact hhead
  obtain ⟨htakeRun, hdropRun⟩ := span_append hseparators hbody
  obtain ⟨htakeClause, hdropClause⟩ := span_append hclause (t := '.' :: rest)
    fun c hc => by cases hc; rfl
  rw [valueAt?]
  simp only [htake, hdrop, htakeRun, hdropRun, htakeClause, hdropClause]

/-- A value at the beginning of a text is read. -/
theorem valueAt?_text (hp : p.WellFormed) (hsettled : p.IsSettled) (rest : List Char) :
    valueAt? (p.text ++ rest) = some (p.value, rest) := by
  rw [Parts.text_append]
  rcases hsettled with hhead | ⟨c, hc, hsentence⟩
  · obtain ⟨c, clause, hsentence⟩ := List.exists_cons_of_ne_nil hp.sentence_ne
    rw [valueAt?_quoted hp.token_ne hp.token_word hp.separator_ne hp.separator_all hp.sentence_all
      hhead, Parts.value, hsentence]
    rfl
  · have hrun : ∀ c' ∈ p.separator ++ [c], isSeparator c' :=
      List.forall_mem_append.2 ⟨hp.separator_all, List.forall_mem_singleton.2 hc⟩
    have hne : p.separator ++ [c] ≠ [] := by simp
    have hquoted := valueAt?_quoted hp.token_ne hp.token_word hne hrun (List.forall_mem_nil _)
      (fun c' hc' => by cases hc') rest
    obtain ⟨before, last, hlast⟩ := List.eq_nil_or_concat p.separator |>.resolve_left
      hp.separator_ne
    have hreverse : (p.separator ++ [c]).reverse = c :: last :: before.reverse := by simp [hlast]
    have hgiven : sentence? (p.separator ++ [c]) [] = some [c] := by
      simp only [sentence?, hreverse]
    rw [hgiven, List.append_assoc] at hquoted
    rw [Parts.value, hsentence]
    exact hquoted

theorem inSentence_of_isSeparator {c : Char} (h : isSeparator c) : inSentence c := by
  simp only [isSeparator, Bool.or_eq_true, beq_iff_eq] at h
  rcases h with rfl | rfl <;> decide

/-- What follows a word is cut into a separator and a sentence, neither of them empty. -/
theorem exists_of_sentence? {run clause sentence : List Char} (hrun : run ≠ [])
    (h : sentence? run clause = some sentence) :
    sentence ≠ [] ∧ ∃ separator, separator ≠ [] ∧ separator <+: run ∧
      run ++ clause = separator ++ sentence := by
  unfold sentence? at h
  split at h
  · rename_i last next more hreverse
    cases h
    have heq : run = (next :: more).reverse ++ [last] := by
      rw [← List.reverse_reverse run, hreverse, List.reverse_cons]
    refine ⟨List.cons_ne_nil _ _, (next :: more).reverse, by simp, ⟨[last], heq.symm⟩, ?_⟩
    rw [List.append_nil, heq]
  · cases h
  · rename_i hne _
    cases h
    exact ⟨hne, run, hrun, List.prefix_refl run, rfl⟩

/-- Where a value is read, the text begins with one. -/
theorem exists_of_valueAt? {value : ProseValue} (h : valueAt? s = some (value, rest)) :
    ∃ p : Parts, p.WellFormed ∧ p.text <+: s := by
  unfold valueAt? at h
  split at h <;> try contradiction
  rename_i tail
  simp only at h
  split at h <;> try contradiction
  rename_i first word after htoken hafter
  split at h <;> try contradiction
  rename_i space spaces last hrun hlast
  obtain ⟨sentence, hsentence, -⟩ := Option.map_eq_some_iff.1 h
  have hword := List.all_eq_true.1 (List.all_takeWhile (p := isWordChar) (l := tail))
  have hseparators := List.all_eq_true.1 (List.all_takeWhile (p := isSeparator) (l := after))
  have hclause := List.all_eq_true.1
    (List.all_takeWhile (p := inSentence) (l := after.dropWhile isSeparator))
  rw [hrun] at hseparators
  rw [hrun] at hsentence
  obtain ⟨hne, separator, hseparator, hbegins, hcut⟩ :=
    exists_of_sentence? (List.cons_ne_nil _ _) hsentence
  refine ⟨⟨first :: word, separator, sentence⟩, ⟨List.cons_ne_nil _ _, htoken ▸ hword, hseparator,
    fun c hc => hseparators c (hbegins.subset hc), hne, fun c hc => ?_⟩, last, ?_⟩
  · have hmem := List.mem_append_right separator hc
    rw [← hcut] at hmem
    rcases List.mem_append.1 hmem with hmem | hmem
    · exact inSentence_of_isSeparator (hseparators c hmem)
    · exact hclause c hmem
  · rw [Parts.text_append, ← List.append_assoc separator, ← hcut, ← hrun, ← htoken,
      List.append_assoc, ← hlast, List.takeWhile_append_dropWhile,
      List.takeWhile_append_dropWhile, ← hafter, List.takeWhile_append_dropWhile]

/-- **What is read at the beginning of a text** is the value that it begins with. -/
theorem valueAt?_eq_some_iff {value : ProseValue} : valueAt? s = some (value, rest) ↔
    ∃ p : Parts, p.WellFormed ∧ p.IsSettled ∧ s = p.text ++ rest ∧ value = p.value := by
  constructor
  · intro h
    obtain ⟨q, hq, after, rfl⟩ := exists_of_valueAt? h
    obtain ⟨p, hp, hsettled, htext⟩ := hq.exists_settled
    rw [← htext, valueAt?_text hp hsettled] at h
    cases h
    exact ⟨p, hp, hsettled, by rw [htext], rfl⟩
  · rintro ⟨p, hp, hsettled, rfl, rfl⟩
    exact valueAt?_text hp hsettled rest

/-- Nothing is read exactly if the text begins with no value, wherever its separator may end. -/
theorem valueAt?_eq_none_iff :
    valueAt? s = none ↔ ∀ p : Parts, p.WellFormed → ¬ p.text <+: s := by
  constructor
  · rintro h q hq ⟨after, rfl⟩
    obtain ⟨p, hp, hsettled, htext⟩ := hq.exists_settled
    rw [← htext, valueAt?_text hp hsettled] at h
    cases h
  · intro h
    rw [Option.eq_none_iff_forall_ne_some]
    rintro ⟨value, rest⟩ hvalue
    obtain ⟨p, hp, hbegins⟩ := exists_of_valueAt? hvalue
    exact h p hp hbegins

/-! ## Backtracking -/

/-- The pattern of a value: a quoted word, a separator, and a sentence with its period. -/
def valuePattern : Pattern :=
  [.one (· == '"'), .many isWordChar, .one (· == '"'), .many isSeparator, .many inSentence,
    .one (· == '.')]

/-- A value at the beginning of a text is what backtracking finds. -/
theorem find?_text (hp : p.WellFormed) (hsettled : p.IsSettled) (rest : List Char) :
    valuePattern.find? (p.text ++ rest) = some (p.pieces, rest) := by
  have hperiod : Pattern.find? [.one (· == '.')] ('.' :: rest) = some ([['.']], rest) :=
    Pattern.find?_one rfl rest
  obtain ⟨words, hwords⟩ := Atom.beginnings_eq_cons hp.token_ne hp.token_word
    (t := '"' :: (p.separator ++ (p.sentence ++ '.' :: rest))) fun c hc => by cases hc; rfl
  obtain ⟨sentences, hsentences⟩ := Atom.beginnings_eq_cons hp.sentence_ne hp.sentence_all
    (t := '.' :: rest) fun c hc => by cases hc; rfl
  have hclause := Pattern.find?_of_first hsentences hperiod
  have hafter : Pattern.find? [.many isSeparator, .many inSentence, .one (· == '.')]
      (p.separator ++ (p.sentence ++ '.' :: rest)) =
        some ([p.separator, p.sentence, ['.']], rest) := by
    rcases hsettled with hhead | ⟨c, hc, hsentence⟩
    · obtain ⟨more, hmore⟩ := Atom.beginnings_eq_cons hp.separator_ne hp.separator_all
        (t := p.sentence ++ '.' :: rest) (by
          obtain ⟨c, clause, hsentence⟩ := List.exists_cons_of_ne_nil hp.sentence_ne
          rw [hsentence] at hhead ⊢
          exact hhead)
      exact Pattern.find?_of_first hmore hclause
    · -- with the whole run as the separator, no sentence is left
      obtain ⟨more, hmore⟩ := Atom.beginnings_eq_cons_cons hp.separator_ne hp.separator_all hc
        (t := '.' :: rest) fun c hc => by cases hc; rfl
      rw [hsentence] at hclause ⊢
      exact Pattern.find?_of_second hmore rfl hclause
  rw [Parts.text_append, valuePattern, Pattern.find?_one rfl,
    Pattern.find?_of_first hwords (by rw [Pattern.find?_one rfl, hafter]; rfl)]
  rfl

/-- **What a text begins with** is what backtracking finds at its beginning. -/
theorem begins_iff_find? :
    p.Begins s ↔ ∃ rest, valuePattern.find? s = some (p.pieces, rest) := by
  constructor
  · rintro ⟨hp, hsettled, rest, rfl⟩
    exact ⟨rest, find?_text hp hsettled rest⟩
  · rintro ⟨rest, h⟩
    obtain ⟨hfits, rfl⟩ := Pattern.fits_of_find? h
    have hp : p.WellFormed := by
      simp only [valuePattern, Parts.pieces, List.forall₂_cons] at hfits
      obtain ⟨-, ⟨htoken, hword⟩, -, ⟨hseparator, hseparators⟩, ⟨hsentence, hclause⟩, -⟩ := hfits
      exact ⟨htoken, hword, hseparator, hseparators, hsentence, hclause⟩
    obtain ⟨q, hq, hsettled, htext⟩ := hp.exists_settled
    have hfound := find?_text hq hsettled rest
    rw [htext, Parts.text, h] at hfound
    cases Parts.eq_of_pieces (Prod.mk.inj (Option.some.inj hfound)).1
    exact ⟨hp, hsettled, rest, rfl⟩

/-- A text begins with one value at most. -/
theorem Parts.Begins.unique {q : Parts} (hp : p.Begins s) (hq : q.Begins s) : p = q := by
  obtain ⟨rest, hrest⟩ := begins_iff_find?.1 hp
  obtain ⟨after, hafter⟩ := begins_iff_find?.1 hq
  rw [hrest] at hafter
  exact Parts.eq_of_pieces (Prod.mk.inj (Option.some.inj hafter)).1

/-- What is said about a value: its sentence with no white space before it, and then the period. -/
theorem Parts.documentation_toList (p : Parts) :
    p.value.documentation.toList = trimStart p.sentence ++ ['.'] := by
  rw [Parts.value, toList_trim, String.toList_ofList, trimChars_concat (by decide)]

/-- A sentence ends with the only period in it. -/
theorem Parts.WellFormed.period_not_mem (h : p.WellFormed) : '.' ∉ trimStart p.sentence :=
  fun hmem => absurd (h.sentence_all _ ((List.dropWhile_sublist _).mem hmem)) (by decide)

/-! ## All values -/

variable {text : List Char} {i : Nat} {found : List Parts}

/-- No value begins in the text at a place from `i` on and before `j`. -/
def NoneBetween (text : List Char) (i j : Nat) : Prop :=
  ∀ k, i ≤ k → k < j → ∀ p : Parts, p.WellFormed → ¬ p.text <+: text.drop k

/-- The values of a text from a place on. -/
inductive Scanned (text : List Char) : Nat → List Parts → Prop
  /-- No value begins there or later. -/
  | done {i : Nat} (hnone : ∀ j, NoneBetween text i j) : Scanned text i []
  /-- A value begins there or later, and none before it. The next one is looked for where it
  ends. -/
  | next {i j : Nat} {p : Parts} {found : List Parts} (hle : i ≤ j)
      (hnone : NoneBetween text i j) (hp : p.Begins (text.drop j))
      (hfound : Scanned text (j + p.text.length) found) : Scanned text i (p :: found)

/-- Places in which no value begins can be passed over. -/
theorem Scanned.skip (hfirst : ∀ p : Parts, p.WellFormed → ¬ p.text <+: text.drop i)
    (h : Scanned text (i + 1) found) : Scanned text i found := by
  have hback {j : Nat} (hnone : NoneBetween text (i + 1) j) : NoneBetween text i j := by
    intro k hk hkj
    rcases Nat.eq_or_lt_of_le hk with rfl | hk
    · exact hfirst
    · exact hnone k hk hkj
  cases h with
  | done hnone => exact .done fun j => hback (hnone j)
  | next hle hnone hp hfound => exact .next (Nat.le_of_succ_le hle) (hback hnone) hp hfound

@[simp] theorem mineChars_nil : mineChars [] = [] := by
  rw [mineChars]
  rfl

theorem mineChars_of_some {value : ProseValue} (h : valueAt? s = some (value, rest)) :
    mineChars s = value :: mineChars rest := by
  rw [mineChars]
  split
  · rename_i hvalue
    cases h.symm.trans hvalue
    rfl
  · rename_i hvalue
    cases h.symm.trans hvalue

theorem mineChars_of_none {c : Char} (h : valueAt? (c :: s) = none) :
    mineChars (c :: s) = mineChars s := by
  rw [mineChars]
  split
  · rename_i hvalue
    cases h.symm.trans hvalue
  · rfl

/-- **From any place on**, the values that are read are those of the text. -/
theorem exists_scanned (text : List Char) (i : Nat) :
    ∃ found, Scanned text i found ∧ mineChars (text.drop i) = found.map Parts.value := by
  generalize hs : text.drop i = s
  -- by the recursion of the reader, which goes on behind a value or one place further on
  induction s using mineChars.induct generalizing i with
  | case1 s value rest hvalue ih =>
    obtain ⟨p, hp, hsettled, rfl, rfl⟩ := valueAt?_eq_some_iff.1 hvalue
    have hrest : text.drop (i + p.text.length) = rest := by
      rw [← List.drop_drop, hs, List.drop_left]
    obtain ⟨found, hfound, hmine⟩ := ih _ hrest
    refine ⟨p :: found, .next (Nat.le_refl i) ?_ ⟨hp, hsettled, hs ▸ List.prefix_append _ _⟩ hfound,
      ?_⟩
    · exact fun k hk hki => absurd hki (Nat.not_lt.2 hk)
    · rw [mineChars_of_some hvalue, hmine, List.map_cons]
  | case2 hvalue =>
    refine ⟨[], .done fun j k hk _ p _ hbegins => p.text_ne_nil ?_, by simp⟩
    have hlength : text.length ≤ k := Nat.le_trans (List.drop_eq_nil_iff.1 hs) hk
    rwa [List.drop_eq_nil_of_le hlength, List.prefix_nil] at hbegins
  | case3 c rest hvalue ih =>
    have hrest : text.drop (i + 1) = rest := by
      rw [← List.drop_drop, hs, List.drop_one, List.tail_cons]
    obtain ⟨found, hfound, hmine⟩ := ih _ hrest
    refine ⟨found, hfound.skip ?_, (mineChars_of_none hvalue).trans hmine⟩
    rw [hs]
    exact valueAt?_eq_none_iff.1 hvalue

/-- The values of a text are determined by the text. -/
theorem Scanned.unique {others : List Parts} (h : Scanned text i found)
    (h' : Scanned text i others) : others = found := by
  induction h generalizing others with
  | done hnone =>
    cases h' with
    | done => rfl
    | @next _ j _ _ hle _ hp =>
      exact absurd hp.2.2 (hnone (j + 1) j hle (Nat.lt_succ_self j) _ hp.1)
  | @next i j p found hle hnone hp _ ih =>
    cases h' with
    | done hnone' => exact absurd hp.2.2 (hnone' (j + 1) j hle (Nat.lt_succ_self j) _ hp.1)
    | @next _ j' p' _ hle' hnone' hp' hfound' =>
      -- the first place where a value begins is the same, and so is what begins there
      obtain rfl : j = j' := by
        rcases Nat.lt_trichotomy j j' with hlt | heq | hlt
        · exact absurd hp.2.2 (hnone' j hle hlt _ hp.1)
        · exact heq
        · exact absurd hp'.2.2 (hnone j' hle' hlt _ hp'.1)
      obtain rfl := hp.unique hp'
      rw [ih hfound']

theorem Scanned.wellFormed (h : Scanned text i found) : ∀ p ∈ found, p.WellFormed := by
  induction h with
  | done => exact List.forall_mem_nil _
  | next _ _ hp _ ih => exact List.forall_mem_cons.2 ⟨hp.1, ih⟩

/-- Nothing is mined exactly if no value stands anywhere in the text. -/
theorem mine_eq_nil_iff {description : String} :
    mine description = [] ↔ ∀ p : Parts, p.WellFormed → ¬ p.text <:+: description.toList := by
  obtain ⟨found, hfound, hmine⟩ := exists_scanned description.toList 0
  rw [List.drop_zero] at hmine
  rw [mine, hmine, List.map_eq_nil_iff]
  cases hfound with
  | done hnone =>
    refine iff_of_true rfl ?_
    rintro p hp ⟨before, after, htext⟩
    refine hnone (before.length + 1) before.length (Nat.zero_le _) (Nat.lt_succ_self _) p hp ?_
    rw [← htext, List.append_assoc, List.drop_left]
    exact List.prefix_append _ _
  | next _ _ hp _ =>
    refine iff_of_false (List.cons_ne_nil _ _) fun h => ?_
    exact h _ hp.1 (hp.2.2.isInfix.trans (List.drop_suffix _ _).isInfix)

/-- **Mining gives the values of a text, leftmost first**: exactly one list of values is scanned
from the beginning of the text, each is found by backtracking where it begins, and what is said
about it ends with its only period. -/
theorem mine_leftmost (description : String) :
    ∃ found, (∀ others, Scanned description.toList 0 others ↔ others = found) ∧
      mine description = found.map Parts.value ∧
      (∀ p ∈ found, ∃ body, p.value.documentation = String.ofList (body ++ ['.']) ∧ '.' ∉ body) ∧
      ∀ s p, Parts.Begins p s ↔ ∃ rest, valuePattern.find? s = some (p.pieces, rest) := by
  obtain ⟨found, hfound, hmine⟩ := exists_scanned description.toList 0
  refine ⟨found, fun others => ⟨hfound.unique, fun h => h ▸ hfound⟩, hmine, fun p hp => ?_,
    fun s p => begins_iff_find?⟩
  refine ⟨trimStart p.sentence, ?_, (hfound.wellFormed p hp).period_not_mem⟩
  rw [← p.documentation_toList, String.ofList_toList]

end ClientGen.EnumProse
