import ClientGen.Source.Name
import Mathlib.Data.List.Basic

/-!
# What names in generated source are made of

Names of modules and types go into paths, into lines of source and between colons, so it matters
that nothing in them can be mistaken for what stands around them. Of the ASCII characters they have
letters, digits and underscores only, `isName_moduleName` and `isName_typeName`, whatever the name
in the API. A module is never called like the file of an index, `moduleName_ne_mod`.
-/

namespace ClientGen.Text

/-! ## Characters -/

/-- The character can stand in a name: an ASCII letter or digit, an underscore, or any character
that is not ASCII. -/
def isNameChar (c : Char) : Bool :=
  c.isAlphanum || c = '_' || 128 ≤ c.toNat

/-- No character of a text is one that does not occur in it. -/
theorem forall_bne {stop : Char} {s : List Char} (h : stop ∉ s) : ∀ c ∈ s, (c != stop) = true := by
  intro c hc
  rw [bne_iff_ne]
  rintro rfl
  exact h hc

/-- All characters can stand in a name. -/
def IsName (s : List Char) : Prop :=
  ∀ c ∈ s, isNameChar c

instance (s : List Char) : Decidable (IsName s) :=
  decidable_of_iff (s.all isNameChar) List.all_eq_true

theorem IsName.append {s t : List Char} (hs : IsName s) (ht : IsName t) : IsName (s ++ t) := by
  intro c hc
  rcases List.mem_append.1 hc with hc | hc
  · exact hs c hc
  · exact ht c hc

theorem IsName.flatMap {α : Type} {l : List α} {f : α → List Char} (h : ∀ a ∈ l, IsName (f a)) :
    IsName (l.flatMap f) := by
  intro c hc
  obtain ⟨a, ha, hc⟩ := List.mem_flatMap.1 hc
  exact h a ha c hc

theorem IsName.not_mem {s : List Char} (h : IsName s) {c : Char} (hc : isNameChar c = false) :
    c ∉ s := by
  intro hmem
  rw [h c hmem] at hc
  cases hc

theorem isNameChar_of_isAlphanumeric {c : Char} (h : isAlphanumeric c) : isNameChar c := by
  by_cases hascii : c.toNat < 128
  · rw [isAlphanumeric_of_ascii hascii] at h
    simp [isNameChar, h]
  · have : 128 ≤ c.toNat := by omega
    simp [isNameChar, this]

/-- Code points from 128 on, as far as they are characters at all. -/
theorem isNameChar_ofNat {n : Nat} (h : 128 ≤ n) (hvalid : n.isValidChar) :
    isNameChar (Char.ofNat n) := by
  have htoNat : (Char.ofNat n).toNat = n := by
    rw [Char.ofNat, dif_pos hvalid]
    rfl
  simp [isNameChar, htoNat, h]

/-! ## Letter case -/

/-- All images of the run can stand in a name: it is a single character, or they lie from 128 on
and on one side of the surrogates. -/
def Shift.keepsNames (s : Shift) : Bool :=
  let last := s.target + (s.run.last - s.run.first)
  (s.run.first = s.run.last && isNameChar (Char.ofNat s.target)) ||
    (128 ≤ s.target && (last < 0xd800 || (0xe000 ≤ s.target && last < 0x110000)))

theorem keepsNames_lowerShifts : ∀ s ∈ lowerShifts, s.keepsNames := by decide +kernel

theorem keepsNames_upperShifts : ∀ s ∈ upperShifts, s.keepsNames := by decide +kernel

theorem isNameChar_shift {s : Shift} (h : s.keepsNames) {n : Nat} (hn : s.run.contains n) :
    isNameChar (Char.ofNat (s.target + (n - s.run.first))) := by
  simp only [Run.contains, Bool.and_eq_true, decide_eq_true_eq] at hn
  simp only [Shift.keepsNames, Bool.or_eq_true, Bool.and_eq_true, decide_eq_true_eq] at h
  rcases h with ⟨hsingle, hchar⟩ | ⟨hascii, hside⟩
  · have hzero : n - s.run.first = 0 := by omega
    rw [hzero, Nat.add_zero]
    exact hchar
  · refine isNameChar_ofNat (by omega) ?_
    rw [Nat.isValidChar]
    omega

/-- What a character is mapped to, if its code point is one from 128 on. -/
theorem isNameChar_mapCase {expansions : List (Nat × List Nat)} {shifts : List Shift}
    (hexpansions : ∀ e ∈ expansions, ∀ n ∈ e.2, isNameChar (Char.ofNat n))
    (hshifts : ∀ s ∈ shifts, s.keepsNames) {c : Char} (hc : isNameChar c) :
    IsName ((mapCase expansions shifts c.toNat).map Char.ofNat) := by
  intro image himage
  obtain ⟨n, hn, rfl⟩ := List.mem_map.1 himage
  rw [mapCase] at hn
  cases hlookup : expansions.lookup c.toNat with
  | some images =>
    rw [hlookup] at hn
    obtain ⟨before, after, hsplit, -⟩ := List.lookup_eq_some_iff.1 hlookup
    exact hexpansions (c.toNat, images) (by simp [hsplit]) n hn
  | none =>
    rw [hlookup] at hn
    cases List.mem_singleton.1 hn
    cases hshifted : shifted? shifts c.toNat with
    | none =>
      rw [Option.getD_none, Char.ofNat_toNat]
      exact hc
    | some target =>
      obtain ⟨s, hs, hreached⟩ := List.exists_of_findSome?_eq_some hshifted
      obtain ⟨hcontains, rfl⟩ : s.run.contains c.toNat = true ∧
          s.target + (c.toNat - s.run.first) = target := by simpa using hreached
      exact isNameChar_shift (hshifts s hs) hcontains

theorem isName_toLower {c : Char} (hc : isAlphanumeric c) : IsName (toLower c) := by
  have hname := isNameChar_of_isAlphanumeric hc
  unfold toLower
  split
  · rename_i hascii
    have hall : ∀ n < 128, isNameChar (Char.ofNat n) → isNameChar (Char.ofNat n).toLower := by
      decide +kernel
    have hlower := hall c.toNat hascii
    rw [Char.ofNat_toNat] at hlower
    simpa [IsName] using hlower hname
  · exact isNameChar_mapCase (by decide +kernel) keepsNames_lowerShifts hname

theorem isName_toUpper {c : Char} (hc : isAlphanumeric c) : IsName (toUpper c) := by
  have hname := isNameChar_of_isAlphanumeric hc
  unfold toUpper
  split
  · rename_i hascii
    have hall : ∀ n < 128, isNameChar (Char.ofNat n) → isNameChar (Char.ofNat n).toUpper := by
      decide +kernel
    have hupper := hall c.toNat hascii
    rw [Char.ofNat_toNat] at hupper
    simpa [IsName] using hupper hname
  · exact isNameChar_mapCase (by decide +kernel) keepsNames_upperShifts hname

/-! ## Words -/

/-- All characters are alphanumeric. -/
def IsWord (w : List Char) : Prop :=
  ∀ c ∈ w, isAlphanumeric c

theorem isWord_alphanumericRuns (name : List Char) : ∀ w ∈ alphanumericRuns name, IsWord w := by
  induction name with
  | nil => simp [alphanumericRuns, IsWord]
  | cons c rest ih =>
    unfold alphanumericRuns
    by_cases hc : isAlphanumeric c
    · rw [if_pos hc]
      cases hruns : alphanumericRuns rest with
      | nil => simp [IsWord, hc]
      | cons run runs =>
        have hrun := ih run (by simp [hruns])
        intro w hw
        rcases List.mem_cons.1 hw with rfl | hw
        · simpa [IsWord, hc] using hrun
        · exact ih w (by simp [hruns, hw])
    · rw [if_neg hc]
      intro w hw
      rcases List.mem_cons.1 hw with rfl | hw
      · simp [IsWord]
      · exact ih w hw

/-- A run is cut into words, none of which has a character that the run does not have. -/
theorem isWord_humps {run : List Char} {seen : Cased} {current : List Char} (hrun : IsWord run)
    (hcurrent : IsWord current) : ∀ w ∈ humps seen current run, IsWord w := by
  have hread : ∀ {c : Char} {cs : List Char}, isAlphanumeric c → IsWord cs → IsWord (c :: cs) := by
    simp +contextual [IsWord]
  have hreverse : ∀ {cs : List Char}, IsWord cs → IsWord cs.reverse := by simp [IsWord]
  fun_induction humps seen current run with
  | case1 => simp
  | case2 seen current c =>
    have hc : isAlphanumeric c := hrun c List.mem_cons_self
    simpa using hreverse (hread hc hcurrent)
  | case3 seen current c next rest h ih =>
    obtain ⟨hc, hrest⟩ := List.forall_mem_cons.1 hrun
    intro w hw
    rcases List.mem_cons.1 hw with rfl | hw
    · exact hreverse (hread hc hcurrent)
    · exact ih hrest (by simp [IsWord]) w hw
  | case4 seen current c next rest h hlast ih =>
    obtain ⟨hc, hrest⟩ := List.forall_mem_cons.1 hrun
    intro w hw
    rcases List.mem_cons.1 hw with rfl | hw
    · exact hreverse hcurrent
    · exact ih hrest (hread hc (by simp [IsWord])) w hw
  | case5 seen current c next rest h hlast ih =>
    obtain ⟨hc, hrest⟩ := List.forall_mem_cons.1 hrun
    exact ih hrest (hread hc hcurrent)

theorem isWord_words (name : List Char) : ∀ w ∈ words name, IsWord w := by
  intro w hw
  obtain ⟨run, hrun, hw⟩ := List.mem_flatMap.1 hw
  exact isWord_humps (isWord_alphanumericRuns name run hrun) (by simp [IsWord]) w hw

theorem isName_lowerWord {w : List Char} (h : IsWord w) : IsName (lowerWord w) := by
  fun_induction lowerWord w with
  | case1 => simp [IsName]
  | case2 => decide +kernel
  | case3 c rest hlast ih =>
    obtain ⟨hc, hrest⟩ := List.forall_mem_cons.1 h
    exact (isName_toLower hc).append (ih hrest)

theorem isName_capitalWord {w : List Char} (h : IsWord w) : IsName (capitalWord w) := by
  cases w with
  | nil => simp [capitalWord, IsName]
  | cons c rest =>
    obtain ⟨hc, hrest⟩ := List.forall_mem_cons.1 h
    exact (isName_toUpper hc).append (isName_lowerWord hrest)

/-- What holds of the parts of a list and of what stands between them holds of the joined list. -/
theorem forall_mem_intercalate {α : Type} {P : α → Prop} {between : List α} {parts : List (List α)}
    (hbetween : ∀ a ∈ between, P a) (h : ∀ part ∈ parts, ∀ a ∈ part, P a) :
    ∀ a ∈ between.intercalate parts, P a := by
  induction parts with
  | nil => exact List.forall_mem_nil P
  | cons part rest ih =>
    obtain ⟨hpart, hothers⟩ := List.forall_mem_cons.1 h
    by_cases hrest : rest = []
    · rw [hrest, List.intercalate_singleton]
      exact hpart
    · rw [List.intercalate_cons_of_ne_nil hrest]
      exact List.forall_mem_append.2 ⟨List.forall_mem_append.2 ⟨hpart, hbetween⟩, ih hothers⟩

/-- Words that are joined by underscores. -/
theorem isName_snakeChars (name : List Char) : IsName (snakeChars name) := by
  have hwords : ∀ w ∈ (words name).map lowerWord, IsName w := by
    intro w hw
    obtain ⟨v, hv, rfl⟩ := List.mem_map.1 hw
    exact isName_lowerWord (isWord_words name v hv)
  have hbetween : IsName ['_'] := by decide
  exact forall_mem_intercalate hbetween hwords

theorem isName_camelChars (name : List Char) : IsName (camelChars name) := by
  rw [camelChars, ← List.flatMap_def]
  exact IsName.flatMap fun w hw => isName_capitalWord (isWord_words name w hw)

end ClientGen.Text

namespace ClientGen.Source

open Text

/-! ## Names of the language -/

theorem isName_escapeReserved {name : String} (h : IsName name.toList) :
    IsName (escapeReserved name).toList := by
  unfold escapeReserved
  split
  · rw [String.toList_append]
    exact h.append (by decide)
  · exact h

theorem isName_withStart {start name : String} (hstart : IsName start.toList)
    (h : IsName name.toList) : IsName (withStart start name).toList := by
  unfold withStart
  split
  · exact hstart
  · split
    · rw [String.toList_append]
      exact hstart.append h
    · exact h

/-- **Module names** hold nothing but characters of names. -/
theorem isName_moduleName (name : String) : IsName (moduleName name).toList := by
  refine isName_escapeReserved (isName_withStart (by decide) ?_)
  rw [snakeCase, String.toList_ofList]
  exact isName_snakeChars _

/-- **Type names** hold nothing but characters of names. -/
theorem isName_typeName (name : String) : IsName (typeName name).toList := by
  refine isName_escapeReserved (isName_withStart (by decide) ?_)
  split
  · rename_i hplain
    intro c hc
    have := List.all_eq_true.1 hplain c hc
    simp only [Bool.or_eq_true, beq_iff_eq] at this
    rcases this with h | h <;> simp [isNameChar, h]
  · rw [upperCamelCase, String.toList_ofList]
    exact isName_camelChars _

/-- A name that is given a start where it is empty, is not empty. -/
theorem withStart_ne_empty {start : String} (hstart : start ≠ "") (name : String) :
    withStart start name ≠ "" := by
  unfold withStart
  split
  · exact hstart
  · rename_i c hc
    split
    · simp [hstart]
    · rintro rfl
      cases hc

theorem escapeReserved_ne_empty {name : String} (h : name ≠ "") : escapeReserved name ≠ "" := by
  unfold escapeReserved
  split
  · simp [h]
  · exact h

/-- A name that is escaped is not a reserved word. -/
theorem escapeReserved_ne {name word : String} (hword : isReserved word)
    (hsuffix : ¬ collisionSuffix.toList <:+ word.toList) : escapeReserved name ≠ word := by
  unfold escapeReserved
  split
  · rintro rfl
    exact hsuffix (by simp)
  · rename_i h
    rintro rfl
    exact h hword

/-- No module is called like the module whose file is an index. -/
theorem moduleName_ne_mod (name : String) : moduleName name ≠ "mod" :=
  escapeReserved_ne (by decide) (by decide)

end ClientGen.Source
