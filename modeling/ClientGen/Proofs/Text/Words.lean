import ClientGen.Proofs.Source.Name

/-!
# What becomes of the characters of a name

Cutting a name into words loses none of its alphanumeric characters, `flatten_words`, and no word is
empty, `ne_nil_of_mem_words`. So a name in snake case has the characters that its own become in
lower case, between single underscores that stand neither first nor last: `count_snakeChars` and
`getLast?_snakeChars`. Writing it in snake case a second time changes nothing if its words are in
lower case for good, `snakeChars_snakeChars`, as those of an ASCII name are. In upper camel case a
name has no underscores at all, `underscore_not_mem_camelChars`.
-/

namespace ClientGen.Text

/-! ## Cutting loses nothing -/

theorem flatten_alphanumericRuns (name : List Char) :
    (alphanumericRuns name).flatten = name.filter isAlphanumeric := by
  induction name with
  | nil => rfl
  | cons c rest ih =>
    rw [alphanumericRuns, List.filter_cons]
    split
    · rw [← ih]
      cases alphanumericRuns rest <;> rfl
    · rw [← ih]
      rfl

/-- A run is cut into words with just its characters, behind those that were read before. -/
theorem flatten_humps {run : List Char} (h : run ≠ []) (seen : Cased) (current : List Char) :
    (humps seen current run).flatten = current.reverse ++ run := by
  fun_induction humps seen current run with
  | case1 => exact absurd rfl h
  | case2 seen current c => simp
  | case3 seen current c next rest hnext ih => simp [ih]
  | case4 seen current c next rest hnext hlast ih => simp [ih]
  | case5 seen current c next rest hnext hlast ih => simp [ih]

/-- The words of a name have all its alphanumeric characters, in order. -/
theorem flatten_words (name : List Char) : (words name).flatten = name.filter isAlphanumeric := by
  have hrun (run : List Char) : (humps .none [] run).flatten = run := by
    cases run with
    | nil => rfl
    | cons c rest => exact flatten_humps (List.cons_ne_nil c rest) .none []
  rw [← flatten_alphanumericRuns, words]
  induction alphanumericRuns name with
  | nil => rfl
  | cons run rest ih =>
    rw [List.flatMap_cons, List.flatten_append, hrun, ih, List.flatten_cons]

/-! ## Words are not empty -/

/-- Where a letter was seen, the word being read is not empty. -/
theorem ne_nil_of_mem_humps {run current : List Char} {seen : Cased}
    (hseen : seen ≠ .none → current ≠ []) : ∀ w ∈ humps seen current run, w ≠ [] := by
  fun_induction humps seen current run with
  | case1 => intro w hw; cases hw
  | case2 seen current c => simp
  | case3 seen current c next rest hnext ih =>
    intro w hw
    rcases List.mem_cons.1 hw with rfl | hw
    · simp
    · exact ih (absurd rfl) w hw
  | case4 seen current c next rest hnext hlast ih =>
    intro w hw
    rcases List.mem_cons.1 hw with rfl | hw
    · have hcurrent := hseen (by rw [hlast.1]; decide)
      simpa using hcurrent
    · exact ih (absurd rfl) w hw
  | case5 seen current c next rest hnext hlast ih =>
    exact ih fun _ => List.cons_ne_nil _ _

theorem ne_nil_of_mem_words {name : List Char} : ∀ w ∈ words name, w ≠ [] := by
  intro w hw
  obtain ⟨run, -, hw⟩ := List.mem_flatMap.1 hw
  exact ne_nil_of_mem_humps (absurd rfl) w hw

/-! ## Lower case -/

/-- What holds of the first 128 code points holds of all ASCII characters. -/
theorem forall_ascii {P : Char → Prop} (h : ∀ n < 128, P (Char.ofNat n)) (c : Char)
    (hc : c.toNat < 128) : P c := by
  have hchar := h c.toNat hc
  rwa [Char.ofNat_toNat] at hchar

/-- What a code point is mapped to: itself, a part of its expansion, or its place in a shift. -/
theorem mem_mapCase {expansions : List (Nat × List Nat)} {shifts : List Shift} {n image : Nat}
    (h : image ∈ mapCase expansions shifts n) :
    image = n ∨ (∃ e ∈ expansions, image ∈ e.2) ∨
      ∃ s ∈ shifts, s.run.contains n ∧ image = s.target + (n - s.run.first) := by
  rw [mapCase] at h
  cases hlookup : expansions.lookup n with
  | some images =>
    rw [hlookup] at h
    obtain ⟨before, after, hsplit, -⟩ := List.lookup_eq_some_iff.1 hlookup
    exact .inr (.inl ⟨(n, images), by simp [hsplit], h⟩)
  | none =>
    rw [hlookup] at h
    cases List.mem_singleton.1 h
    cases hshifted : shifted? shifts n with
    | none => exact .inl rfl
    | some target =>
      obtain ⟨s, hs, hreached⟩ := List.exists_of_findSome?_eq_some hshifted
      obtain ⟨hcontains, rfl⟩ : s.run.contains n = true ∧
          s.target + (n - s.run.first) = target := by simpa using hreached
      exact .inr (.inr ⟨s, hs, hcontains, rfl⟩)

/-- The code point of a character, unless that stands for no valid one. -/
theorem eq_toNat_of_ofNat {n : Nat} {c : Char} (hc : c ≠ '\x00') (h : Char.ofNat n = c) :
    n = c.toNat := by
  by_cases hvalid : n.isValidChar
  · rw [← h, Char.ofNat, dif_pos hvalid]
    rfl
  · rw [Char.ofNat, dif_neg hvalid] at h
    exact absurd h.symm hc

/-- Mapping characters makes no underscores, if there are none in the tables. -/
theorem underscore_not_mem_mapCase {expansions : List (Nat × List Nat)} {shifts : List Shift}
    (hexpansions : ∀ e ∈ expansions, 95 ∉ e.2)
    (hshifts : ∀ s ∈ shifts, s.target ≠ 95 ∧ (s.run.first = s.run.last ∨ 95 < s.target)) {c : Char}
    (hc : c ≠ '_') : '_' ∉ (mapCase expansions shifts c.toNat).map Char.ofNat := by
  intro hmem
  obtain ⟨image, himage, himage_eq⟩ := List.mem_map.1 hmem
  have hcode : image = 95 := eq_toNat_of_ofNat (by decide) himage_eq
  rcases mem_mapCase himage with h | ⟨e, he, h⟩ | ⟨s, hs, hcontains, h⟩
  · exact hc (by rw [← Char.ofNat_toNat c, ← h, himage_eq])
  · exact hexpansions e he (hcode ▸ h)
  · obtain ⟨htarget, hwide⟩ := hshifts s hs
    simp only [Run.contains, Bool.and_eq_true, decide_eq_true_eq] at hcontains
    omega

/-- No character but the underscore becomes one in lower case. -/
theorem underscore_not_mem_toLower {c : Char} (hc : c ≠ '_') : '_' ∉ toLower c := by
  unfold toLower
  split
  · rename_i hascii
    have hlower : ∀ c : Char, c.toNat < 128 → c ≠ '_' → c.toLower ≠ '_' :=
      forall_ascii (by decide +kernel)
    exact fun hmem => hlower c hascii hc (List.mem_singleton.1 hmem).symm
  · exact underscore_not_mem_mapCase (by decide +kernel) (by decide +kernel) hc

/-- No character but the underscore becomes one in upper case. -/
theorem underscore_not_mem_toUpper {c : Char} (hc : c ≠ '_') : '_' ∉ toUpper c := by
  unfold toUpper
  split
  · rename_i hascii
    have hupper : ∀ c : Char, c.toNat < 128 → c ≠ '_' → c.toUpper ≠ '_' :=
      forall_ascii (by decide +kernel)
    exact fun hmem => hupper c hascii hc (List.mem_singleton.1 hmem).symm
  · exact underscore_not_mem_mapCase (by decide +kernel) (by decide +kernel) hc

theorem toLower_ne_nil (c : Char) : toLower c ≠ [] := by
  unfold toLower
  split
  · exact List.cons_ne_nil _ _
  · intro hnil
    rw [List.map_eq_nil_iff, mapCase] at hnil
    split at hnil
    · rename_i images hlookup
      obtain ⟨before, after, hsplit, -⟩ := List.lookup_eq_some_iff.1 hlookup
      have hexpansions : ∀ e ∈ lowerExpansions, e.2 ≠ [] := by decide +kernel
      exact hexpansions (c.toNat, images) (by simp [hsplit]) hnil
    · cases hnil

/-- A word in lower case is its characters in lower case, but for a sigma at its end. -/
theorem lowerWord_eq (w : List Char) :
    lowerWord w = w.flatMap toLower ∨
      ∃ front, w.flatMap toLower = front ++ ['σ'] ∧ lowerWord w = front ++ ['ς'] := by
  fun_induction lowerWord w with
  | case1 => exact .inl rfl
  | case2 => exact .inr ⟨[], by decide +kernel, rfl⟩
  | case3 c rest hlast ih =>
    rw [List.flatMap_cons]
    rcases ih with ih | ⟨front, hfront, hlower⟩
    · rw [ih]
      exact .inl rfl
    · rw [hfront, hlower]
      have happend (last : List Char) :
          toLower c ++ (front ++ last) = toLower c ++ front ++ last :=
        (List.append_assoc _ _ _).symm
      exact .inr ⟨toLower c ++ front, happend _, happend _⟩

theorem lowerWord_ne_nil {w : List Char} (h : w ≠ []) : lowerWord w ≠ [] := by
  rcases lowerWord_eq w with hlower | ⟨front, -, hlower⟩
  · obtain ⟨c, rest, rfl⟩ := List.exists_cons_of_ne_nil h
    rw [hlower, List.flatMap_cons]
    simp [toLower_ne_nil]
  · rw [hlower]
    simp

/-- A word in lower case begins with what its first character becomes. -/
theorem head?_lowerWord {c : Char} (hc : c ≠ 'Σ') (rest : List Char) :
    (lowerWord (c :: rest)).head? = (toLower c).head? := by
  obtain ⟨image, images, himages⟩ := List.exists_cons_of_ne_nil (toLower_ne_nil c)
  unfold lowerWord
  split
  · contradiction
  · rename_i heq
    exact absurd (List.cons.inj heq).1 hc
  · rename_i heq
    cases heq
    rw [himages]
    rfl

/-- A word has no underscore. -/
theorem IsWord.ne_underscore {w : List Char} (h : IsWord w) {c : Char} (hc : c ∈ w) : c ≠ '_' := by
  rintro rfl
  exact absurd (h _ hc) (by decide)

theorem underscore_not_mem_lowerWord {w : List Char} (h : IsWord w) : '_' ∉ lowerWord w := by
  have hlower : '_' ∉ w.flatMap toLower := by
    intro hmem
    obtain ⟨c, hc, hmem⟩ := List.mem_flatMap.1 hmem
    exact underscore_not_mem_toLower (h.ne_underscore hc) hmem
  rcases lowerWord_eq w with heq | ⟨front, hfront, heq⟩
  · rwa [heq]
  · rw [hfront] at hlower
    rw [heq]
    simpa using hlower

/-! ## Upper camel case -/

theorem underscore_not_mem_capitalWord {w : List Char} (h : IsWord w) : '_' ∉ capitalWord w := by
  cases w with
  | nil => exact List.not_mem_nil
  | cons c rest =>
    have hrest : IsWord rest := fun c' hc' => h c' (List.mem_cons_of_mem _ hc')
    rw [capitalWord, List.mem_append, not_or]
    exact ⟨underscore_not_mem_toUpper (h.ne_underscore List.mem_cons_self),
      underscore_not_mem_lowerWord hrest⟩

/-- No name in upper camel case has an underscore. -/
theorem underscore_not_mem_camelChars (name : List Char) : '_' ∉ camelChars name := by
  rw [camelChars, ← List.flatMap_def]
  intro hmem
  obtain ⟨w, hw, hmem⟩ := List.mem_flatMap.1 hmem
  exact underscore_not_mem_capitalWord (isWord_words name w hw) hmem

/-! ## Snake case -/

section

variable {sep : Char} {ws : List (List Char)}

theorem intercalate_ne_nil (hne : ∀ w ∈ ws, w ≠ []) (h : ws ≠ []) : [sep].intercalate ws ≠ [] := by
  obtain ⟨w, rest, rfl⟩ := List.exists_cons_of_ne_nil h
  have hw := hne w List.mem_cons_self
  by_cases hrest : rest = []
  · rw [hrest, List.intercalate_singleton]
    exact hw
  · rw [List.intercalate_cons_of_ne_nil hrest]
    simp [hw]

/-- Joined words begin like the first of them. -/
theorem head?_intercalate {w : List Char} (hw : w ≠ []) (rest : List (List Char)) :
    ([sep].intercalate (w :: rest)).head? = w.head? := by
  obtain ⟨c, cs, rfl⟩ := List.exists_cons_of_ne_nil hw
  by_cases hrest : rest = []
  · rw [hrest, List.intercalate_singleton]
  · rw [List.intercalate_cons_of_ne_nil hrest]
    rfl

/-- The last character of joined words is in one of them. -/
theorem mem_of_getLast?_intercalate (hne : ∀ w ∈ ws, w ≠ []) {c : Char}
    (h : ([sep].intercalate ws).getLast? = some c) : ∃ w ∈ ws, c ∈ w := by
  induction ws with
  | nil => cases h
  | cons w rest ih =>
    obtain ⟨hw, hrest⟩ := List.forall_mem_cons.1 hne
    by_cases hnil : rest = []
    · rw [hnil, List.intercalate_singleton] at h
      exact ⟨w, List.mem_cons_self, List.mem_of_getLast? h⟩
    · rw [List.intercalate_cons_of_ne_nil hnil,
        List.getLast?_append_of_ne_nil _ (intercalate_ne_nil hrest hnil)] at h
      obtain ⟨v, hv, hc⟩ := ih hrest h
      exact ⟨v, List.mem_cons_of_mem _ hv, hc⟩

/-- Joining words adds separators only. -/
theorem count_intercalate {c : Char} (h : c ≠ sep) (ws : List (List Char)) :
    ([sep].intercalate ws).count c = ws.flatten.count c := by
  induction ws with
  | nil => rfl
  | cons w rest ih =>
    by_cases hnil : rest = []
    · rw [hnil, List.intercalate_singleton, List.flatten_singleton]
    · have hsep : [sep].count c = 0 := by simp [h.symm]
      rw [List.intercalate_cons_of_ne_nil hnil, List.count_append, List.count_append, ih, hsep,
        List.flatten_cons, List.count_append, Nat.add_zero]

end

/-- The words of a name in snake case are not empty. -/
theorem ne_nil_of_mem_lowerWords {name : List Char} :
    ∀ w ∈ (words name).map lowerWord, w ≠ [] :=
  List.forall_mem_map.2 fun w hw => lowerWord_ne_nil (ne_nil_of_mem_words w hw)

/-- No name in snake case ends in an underscore. -/
theorem getLast?_snakeChars (name : List Char) : (snakeChars name).getLast? ≠ some '_' := by
  intro h
  obtain ⟨w, hw, hunderscore⟩ := mem_of_getLast?_intercalate ne_nil_of_mem_lowerWords h
  obtain ⟨v, hv, rfl⟩ := List.mem_map.1 hw
  exact underscore_not_mem_lowerWord (isWord_words name v hv) hunderscore

theorem count_lowerWord {c : Char} (h : c ∉ ['σ', 'ς']) (w : List Char) :
    (lowerWord w).count c = (w.flatMap toLower).count c := by
  rcases lowerWord_eq w with heq | ⟨front, hfront, heq⟩
  · rw [heq]
  · have hfirst : ['σ'].count c = 0 := List.count_eq_zero.2 fun hc => h (by simp_all)
    have hlast : ['ς'].count c = 0 := List.count_eq_zero.2 fun hc => h (by simp_all)
    rw [heq, hfront, List.count_append, List.count_append, hfirst, hlast]

/-- A name in snake case has the characters that its own become in lower case. Sigmas are left out,
which have two forms, and so are underscores, which are put between the words. -/
theorem count_snakeChars {c : Char} (hunderscore : c ≠ '_') (hsigma : c ∉ ['σ', 'ς'])
    (name : List Char) :
    (snakeChars name).count c = ((name.filter isAlphanumeric).flatMap toLower).count c := by
  rw [snakeChars, count_intercalate hunderscore, ← flatten_words]
  induction words name with
  | nil => rfl
  | cons w rest ih =>
    rw [List.map_cons, List.flatten_cons, List.count_append, ih, count_lowerWord hsigma,
      List.flatten_cons, List.flatMap_append, List.count_append]

/-! ## Snake case twice -/

/-- The characters are alphanumeric and in lower case for good. -/
def IsSettled (w : List Char) : Prop :=
  ∀ c ∈ w, isAlphanumeric c ∧ isUpper c = false ∧ toLower c = [c]

/-- The words of a name are in lower case for good, once they are written so. -/
def Settles (name : List Char) : Prop :=
  ∀ w ∈ (words name).map lowerWord, IsSettled w

theorem IsSettled.isWord {w : List Char} (h : IsSettled w) : IsWord w :=
  fun c hc => (h c hc).1

/-- Where nothing is upper case, no new word begins. -/
theorem humps_of_isSettled {w : List Char} (h : IsSettled w) (hne : w ≠ []) (seen : Cased)
    (current : List Char) : humps seen current w = [current.reverse ++ w] := by
  fun_induction humps seen current w with
  | case1 => exact absurd rfl hne
  | case2 seen current c => simp
  | case3 seen current c next rest hnext ih =>
    have hupper := (h next (by simp)).2.1
    rw [hnext.2] at hupper
    cases hupper
  | case4 seen current c next rest hnext hlast ih =>
    have hupper := (h c (by simp)).2.1
    rw [hlast.2.1] at hupper
    cases hupper
  | case5 seen current c next rest hnext hlast ih =>
    rw [ih (fun c hc => h c (List.mem_cons_of_mem _ hc)) (List.cons_ne_nil _ _)]
    simp

theorem lowerWord_of_isSettled {w : List Char} (h : IsSettled w) : lowerWord w = w := by
  fun_induction lowerWord w with
  | case1 => rfl
  | case2 => exact absurd (h 'Σ' List.mem_cons_self).2.1 (by decide)
  | case3 c rest hlast ih =>
    obtain ⟨hc, hrest⟩ := List.forall_mem_cons.1 h
    rw [hc.2.2, ih hrest]
    rfl

theorem alphanumericRuns_of_isWord {w : List Char} (h : IsWord w) : alphanumericRuns w = [w] := by
  induction w with
  | nil => rfl
  | cons c rest ih =>
    obtain ⟨hc, hrest⟩ := List.forall_mem_cons.1 h
    rw [alphanumericRuns, if_pos hc, ih hrest]

/-- An underscore ends a run. -/
theorem alphanumericRuns_append {w : List Char} (h : IsWord w) (rest : List Char) :
    alphanumericRuns (w ++ '_' :: rest) = w :: alphanumericRuns rest := by
  induction w with
  | nil => rfl
  | cons c cs ih =>
    obtain ⟨hc, hcs⟩ := List.forall_mem_cons.1 h
    rw [List.cons_append, alphanumericRuns, if_pos hc, ih hcs]

theorem alphanumericRuns_intercalate {ws : List (List Char)} (h : ∀ w ∈ ws, IsWord w)
    (hne : ws ≠ []) : alphanumericRuns (['_'].intercalate ws) = ws := by
  induction ws with
  | nil => exact absurd rfl hne
  | cons w rest ih =>
    obtain ⟨hw, hrest⟩ := List.forall_mem_cons.1 h
    by_cases hnil : rest = []
    · rw [hnil, List.intercalate_singleton]
      exact alphanumericRuns_of_isWord hw
    · rw [List.intercalate_cons_of_ne_nil hnil, List.append_assoc, List.singleton_append,
        alphanumericRuns_append hw, ih hrest hnil]

/-- Joined words are cut into themselves, if nothing in them is upper case. -/
theorem words_intercalate {ws : List (List Char)} (h : ∀ w ∈ ws, IsSettled w)
    (hne : ∀ w ∈ ws, w ≠ []) : words (['_'].intercalate ws) = ws := by
  by_cases hnil : ws = []
  · rw [hnil]
    rfl
  · have hcut : ∀ w ∈ ws, humps .none [] w = [w] := fun w hw =>
      humps_of_isSettled (h w hw) (hne w hw) .none []
    rw [words, alphanumericRuns_intercalate (fun w hw => (h w hw).isWord) hnil]
    exact (List.flatMap_congr hcut).trans (List.flatMap_singleton' ws)

/-- **Snake case is for good** if the words are. -/
theorem snakeChars_snakeChars {name : List Char} (h : Settles name) :
    snakeChars (snakeChars name) = snakeChars name := by
  have hwords : words (snakeChars name) = (words name).map lowerWord :=
    words_intercalate h ne_nil_of_mem_lowerWords
  have hlower : ((words name).map lowerWord).map lowerWord = (words name).map lowerWord :=
    (List.map_congr_left fun w hw => lowerWord_of_isSettled (h w hw)).trans (List.map_id' _)
  rw [snakeChars, hwords, hlower]
  rfl

/-! ## ASCII names -/

/-- The characters of the words of a name are characters of the name. -/
theorem mem_of_mem_words {name w : List Char} (hw : w ∈ words name) {c : Char} (hc : c ∈ w) :
    c ∈ name := by
  have hmem : c ∈ (words name).flatten := List.mem_flatten.2 ⟨w, hw, hc⟩
  rw [flatten_words] at hmem
  exact List.mem_of_mem_filter hmem

/-- An ASCII word is put in lower case character by character. -/
theorem lowerWord_of_ascii {w : List Char} (h : ∀ c ∈ w, c.toNat < 128) :
    lowerWord w = w.map Char.toLower := by
  fun_induction lowerWord w with
  | case1 => rfl
  | case2 => exact absurd (h 'Σ' List.mem_cons_self) (by decide)
  | case3 c rest hlast ih =>
    obtain ⟨hc, hrest⟩ := List.forall_mem_cons.1 h
    rw [toLower, if_pos hc, ih hrest]
    rfl

/-- The words of an ASCII name are in lower case for good. -/
theorem settles_of_ascii {name : List Char} (h : ∀ c ∈ name, c.toNat < 128) : Settles name := by
  have hlower : ∀ c : Char, c.toNat < 128 → isAlphanumeric c → isAlphanumeric c.toLower ∧
      isUpper c.toLower = false ∧ toLower c.toLower = [c.toLower] :=
    forall_ascii (by decide +kernel)
  refine List.forall_mem_map.2 fun w hw => ?_
  have hascii : ∀ c ∈ w, c.toNat < 128 := fun c hc => h c (mem_of_mem_words hw hc)
  rw [lowerWord_of_ascii hascii]
  exact List.forall_mem_map.2 fun c hc =>
    hlower c (hascii c hc) (isWord_words name w hw c hc)

end ClientGen.Text
