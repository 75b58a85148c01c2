import ClientGen.Proofs.Text.Words

/-!
# Which names become the same module

Names become names of modules by snake case, a letter in front where a name needs one, and a suffix
behind reserved words. Only the first two steps can make different names equal, `moduleName_eq_iff`.
A name that is in snake case already and needs no letter in front is `Kept`: nothing but the suffix
can come to it. Snake case of an ASCII name that begins with a letter is of this kind,
`kept_of_ascii`.
-/

namespace ClientGen.Source

open Text

/-! ## Reserved words -/

theorem getLast?_suffix (name : String) :
    (name ++ collisionSuffix).toList.getLast? = some '_' := by
  rw [String.toList_append, List.getLast?_append_of_ne_nil _ (by decide)]
  rfl

/-- The suffix of reserved words makes no two names equal, if none of them has it already. -/
theorem escapeReserved_inj {a b : String} (ha : a.toList.getLast? ≠ some '_')
    (hb : b.toList.getLast? ≠ some '_') (h : escapeReserved a = escapeReserved b) : a = b := by
  unfold escapeReserved at h
  split at h
  · split at h
    · exact (String.append_left_inj _).1 h
    · exact absurd (h ▸ getLast?_suffix a) hb
  · split at h
    · exact absurd (h ▸ getLast?_suffix b) ha
    · exact h

/-- With the suffix behind it, a word that is not reserved is made of no name without the suffix. -/
theorem escapeReserved_ne_suffix {name word : String} (hname : name.toList.getLast? ≠ some '_')
    (hword : isReserved word = false) : escapeReserved name ≠ word ++ collisionSuffix := by
  unfold escapeReserved
  split
  · rename_i hreserved
    intro h
    rw [(String.append_left_inj _).1 h, hword] at hreserved
    cases hreserved
  · rintro rfl
    exact hname (getLast?_suffix word)

/-! ## A letter in front -/

/-- The name stays as it is, or the start comes in front of it. -/
theorem toList_withStart (start name : String) :
    (withStart start name).toList = name.toList ∨
      (withStart start name).toList = start.toList ++ name.toList := by
  unfold withStart
  split
  · rename_i hhead
    rw [List.head?_eq_none_iff.1 hhead, List.append_nil]
    exact .inr rfl
  · split
    · exact .inr String.toList_append
    · exact .inl rfl

/-- Nothing comes in front of a name that begins with no digit. -/
theorem withStart_eq_self {name : String} {c : Char} (hhead : name.toList.head? = some c)
    (hdigit : c.isDigit = false) (start : String) : withStart start name = name := by
  rw [withStart, hhead]
  exact if_neg (by simp [hdigit])

theorem toList_snakeCase (name : String) : (snakeCase name).toList = snakeChars name.toList := by
  rw [snakeCase, String.toList_ofList]

/-- A name in snake case does not end in an underscore, whatever comes in front of it. -/
theorem getLast?_withStart {start : String} (hstart : start.toList.getLast? ≠ some '_')
    (name : String) : (withStart start (snakeCase name)).toList.getLast? ≠ some '_' := by
  have hlast := getLast?_snakeChars name.toList
  rcases toList_withStart start (snakeCase name) with h | h
  · rwa [h, toList_snakeCase]
  · rw [h, toList_snakeCase, List.getLast?_append]
    cases hchars : (snakeChars name.toList).getLast? with
    | none => exact hstart
    | some c => rwa [hchars] at hlast

/-- A name in snake case, with a letter in front where it needs one. -/
def plainModule (name : String) : String :=
  withStart "m" (snakeCase name)

/-- The characters of a module before reserved words are told apart. -/
theorem toList_plainModule (name : String) :
    (plainModule name).toList = snakeChars name.toList ∨
      (plainModule name).toList = 'm' :: snakeChars name.toList := by
  have h := toList_withStart "m" (snakeCase name)
  rwa [toList_snakeCase] at h

theorem getLast?_plainModule (name : String) : (plainModule name).toList.getLast? ≠ some '_' :=
  getLast?_withStart (by decide) name

/-- Names become the same module exactly if they are the same before reserved words are told apart.
-/
theorem moduleName_eq_iff {a b : String} :
    moduleName a = moduleName b ↔ plainModule a = plainModule b := by
  constructor
  · exact escapeReserved_inj (getLast?_plainModule a) (getLast?_plainModule b)
  · intro h
    exact congrArg escapeReserved h

/-! ## Characters of module names -/

/-- A letter is as often in the name of a module as in what the characters of the name become in
lower case. The letter `m`, sigmas and underscores are left out: a module can have more of them. -/
theorem count_moduleName {c : Char} (hm : c ≠ 'm') (hunderscore : c ≠ '_') (hsigma : c ∉ ['σ', 'ς'])
    (name : String) :
    (moduleName name).toList.count c =
      ((name.toList.filter isAlphanumeric).flatMap toLower).count c := by
  have hplain : (plainModule name).toList.count c = (snakeChars name.toList).count c := by
    rcases toList_plainModule name with h | h
    · rw [h]
    · rw [h, List.count_cons_of_ne hm.symm]
  have hsuffix (s : String) : (escapeReserved s).toList.count c = s.toList.count c := by
    unfold escapeReserved
    split
    · have hnone : collisionSuffix.toList.count c = 0 := by
        simp [collisionSuffix, hunderscore.symm]
      rw [String.toList_append, List.count_append, hnone, Nat.add_zero]
    · rfl
  rw [← count_snakeChars hunderscore hsigma, ← hplain]
  exact hsuffix (plainModule name)

/-- What such a letter adds to a name it adds to the name of the module. -/
theorem count_moduleName_append {c : Char} (hm : c ≠ 'm') (hunderscore : c ≠ '_')
    (hsigma : c ∉ ['σ', 'ς']) (a b : String) :
    (moduleName (a ++ b)).toList.count c =
      (moduleName a).toList.count c + (moduleName b).toList.count c := by
  have hcount := count_moduleName hm hunderscore hsigma
  rw [hcount, hcount, hcount, String.toList_append, List.filter_append, List.flatMap_append,
    List.count_append]

/-! ## Kept names -/

/-- Of the name in snake case no other module is made than of the name itself. -/
def Kept (name : String) : Prop :=
  plainModule (snakeCase name) = snakeCase name

instance (name : String) : Decidable (Kept name) :=
  inferInstanceAs (Decidable (_ = _))

theorem snakeCase_snakeCase {name : String} (h : Settles name.toList) :
    snakeCase (snakeCase name) = snakeCase name := by
  rw [← String.toList_inj, toList_snakeCase, toList_snakeCase, snakeChars_snakeChars h]

/-- In snake case, a name begins with what its first letter or digit becomes in lower case. -/
theorem head?_snakeChars_of_ascii {name : List Char} {c : Char} (hascii : c.toNat < 128)
    (h : (name.filter isAlphanumeric).head? = some c) :
    (snakeChars name).head? = some c.toLower := by
  rw [← flatten_words] at h
  cases hwords : words name with
  | nil =>
    rw [hwords] at h
    cases h
  | cons w rest =>
    have hw : w ≠ [] := ne_nil_of_mem_words w (by rw [hwords]; exact List.mem_cons_self)
    obtain ⟨first, others, rfl⟩ := List.exists_cons_of_ne_nil hw
    rw [hwords, List.flatten_cons] at h
    cases h
    have hsigma : c ≠ 'Σ' := by
      rintro rfl
      exact absurd hascii (by decide)
    rw [snakeChars, hwords, List.map_cons, head?_intercalate (lowerWord_ne_nil hw),
      head?_lowerWord hsigma, toLower, if_pos hascii]
    rfl

/-- **Ordinary names are kept**: those in ASCII whose first letter or digit is a letter. -/
theorem kept_of_ascii {name : String} (hascii : ∀ c ∈ name.toList, c.toNat < 128)
    (hletter : (name.toList.filter isAlphanumeric).head?.any Char.isAlpha) : Kept name := by
  obtain ⟨c, hc, halpha⟩ := (Option.any_eq_true _ _).1 hletter
  have hmem : c ∈ name.toList := List.mem_of_mem_filter (List.mem_of_head? hc)
  have hdigit : ∀ c : Char, c.toNat < 128 → c.isAlpha → c.toLower.isDigit = false :=
    forall_ascii (by decide +kernel)
  have hhead : (snakeCase name).toList.head? = some c.toLower := by
    rw [toList_snakeCase]
    exact head?_snakeChars_of_ascii (hascii c hmem) hc
  rw [Kept, plainModule, snakeCase_snakeCase (settles_of_ascii hascii)]
  exact withStart_eq_self hhead (hdigit c (hascii c hmem) halpha) "m"

end ClientGen.Source
