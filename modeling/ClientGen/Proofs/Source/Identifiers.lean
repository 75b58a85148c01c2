import ClientGen.Proofs.Text.Words

/-!
# Names that are identifiers

The name of a module, a type, a field or a variant is made in three steps: a name of the API is put
in snake case or upper camel case, unless it is to stay as it is; a letter comes in front of what is
empty or begins with a digit; a suffix comes behind reserved words. The first step can leave nothing
of a name or bring a digit to its front, and the letter of the second can turn up anywhere, but no
step spoils what was gained before, `isIdentifier_mangled`: out of ASCII letters, digits and
underscores comes an identifier, whatever the letter in front. Names in ASCII are made of nothing
else once they are cut into words, so that all four names of an ASCII name are identifiers,
`names_are_identifiers`.
-/

namespace ClientGen.Source

open Text

/-! ## Identifiers -/

/-- The character can begin an identifier. -/
def IsFirst (c : Char) : Prop :=
  c.isAlpha ∨ c = '_'

/-- The character can stand in an identifier behind another one. -/
def IsLater (c : Char) : Prop :=
  c.isAlphanum ∨ c = '_'

/-- The name is an identifier in ASCII, and not a reserved word. -/
structure IsIdentifier (name : String) : Prop where
  chars : ∃ first rest, name.toList = first :: rest ∧ IsFirst first ∧ ∀ c ∈ rest, IsLater c
  free : name ∉ reservedWords

theorem IsLater.isFirst {c : Char} (h : IsLater c) (hdigit : c.isDigit = false) : IsFirst c :=
  h.imp_left fun halphanum => by simpa [Char.isAlphanum, hdigit] using halphanum

/-! ## The three steps -/

/-- With the letter in front of a name that needs it, the name begins as an identifier does. -/
theorem chars_withStart {start base : String} {letter : Char} (hstart : start.toList = [letter])
    (hletter : letter.isAlpha) (hbase : ∀ c ∈ base.toList, IsLater c) :
    ∃ first rest, (withStart start base).toList = first :: rest ∧ IsFirst first ∧
      ∀ c ∈ rest, IsLater c := by
  unfold withStart
  cases hchars : base.toList with
  | nil => exact ⟨letter, [], hstart, .inl hletter, List.forall_mem_nil _⟩
  | cons c rest =>
    rw [hchars] at hbase
    simp only [List.head?_cons]
    split
    · refine ⟨letter, c :: rest, ?_, .inl hletter, hbase⟩
      rw [String.toList_append, hstart, hchars]
      rfl
    · rename_i hdigit
      obtain ⟨hc, hrest⟩ := List.forall_mem_cons.1 hbase
      exact ⟨c, rest, hchars, hc.isFirst (eq_false_of_ne_true hdigit), hrest⟩

/-- No name is a reserved word any more, as none of them ends in the suffix. -/
theorem escapeReserved_not_mem (name : String) : escapeReserved name ∉ reservedWords := by
  intro hmem
  have hsuffix : ∀ word ∈ reservedWords, ¬ collisionSuffix.toList <:+ word.toList := by decide
  exact escapeReserved_ne (List.contains_iff_mem.2 hmem) (hsuffix _ hmem) rfl

/-- **The three steps together** make an identifier of ASCII letters, digits and underscores. -/
theorem isIdentifier_mangled {start base : String} (letter : Char)
    (hstart : start.toList = [letter]) (hletter : letter.isAlpha)
    (hbase : ∀ c ∈ base.toList, IsLater c) :
    IsIdentifier (escapeReserved (withStart start base)) where
  chars := by
    obtain ⟨first, rest, hchars, hfirst, hrest⟩ := chars_withStart hstart hletter hbase
    unfold escapeReserved
    split
    · have hsuffix : ∀ c ∈ collisionSuffix.toList, IsLater c := by simp [collisionSuffix, IsLater]
      refine ⟨first, rest ++ collisionSuffix.toList, ?_, hfirst,
        List.forall_mem_append.2 ⟨hrest, hsuffix⟩⟩
      rw [String.toList_append, hchars]
      rfl
    · exact ⟨first, rest, hchars, hfirst, hrest⟩
  free := escapeReserved_not_mem _

/-! ## Letter case of ASCII names -/

/-- Letters and digits stay such in either case. -/
theorem isAlphanum_cases {c : Char} (hascii : c.toNat < 128) (h : isAlphanumeric c) :
    c.toLower.isAlphanum ∧ c.toUpper.isAlphanum := by
  have hall : ∀ c : Char, c.toNat < 128 → c.isAlphanum →
      c.toLower.isAlphanum ∧ c.toUpper.isAlphanum := forall_ascii (by decide +kernel)
  rw [isAlphanumeric_of_ascii hascii] at h
  exact hall c hascii h

section

variable {name w : List Char} (hascii : ∀ c ∈ name, c.toNat < 128) (hw : w ∈ words name)

include hascii hw

theorem isAlphanum_lowerWord : ∀ c ∈ lowerWord w, c.isAlphanum := by
  have hasciiWord : ∀ c ∈ w, c.toNat < 128 := fun c hc => hascii c (mem_of_mem_words hw hc)
  rw [lowerWord_of_ascii hasciiWord]
  exact List.forall_mem_map.2 fun c hc =>
    (isAlphanum_cases (hasciiWord c hc) (isWord_words name w hw c hc)).1

theorem isAlphanum_capitalWord : ∀ c ∈ capitalWord w, c.isAlphanum := by
  have hasciiWord : ∀ c ∈ w, c.toNat < 128 := fun c hc => hascii c (mem_of_mem_words hw hc)
  have hcases : ∀ c ∈ w, c.toLower.isAlphanum ∧ c.toUpper.isAlphanum := fun c hc =>
    isAlphanum_cases (hasciiWord c hc) (isWord_words name w hw c hc)
  cases w with
  | nil => exact List.forall_mem_nil _
  | cons c rest =>
    obtain ⟨hc, hrest⟩ := List.forall_mem_cons.1 hasciiWord
    obtain ⟨hupper, hlower⟩ := List.forall_mem_cons.1 hcases
    rw [capitalWord, toUpper, if_pos hc, lowerWord_of_ascii hrest]
    exact List.forall_mem_cons.2 ⟨hupper.2, List.forall_mem_map.2 fun d hd => (hlower d hd).1⟩

end

section

variable {name : String} (hascii : ∀ c ∈ name.toList, c.toNat < 128)

include hascii

theorem isLater_snakeCase : ∀ c ∈ (snakeCase name).toList, IsLater c := by
  rw [snakeCase, String.toList_ofList, snakeChars]
  refine forall_mem_intercalate (by simp [IsLater]) (List.forall_mem_map.2 fun w hw c hc => ?_)
  exact .inl (isAlphanum_lowerWord hascii hw c hc)

theorem isLater_upperCamelCase : ∀ c ∈ (upperCamelCase name).toList, IsLater c := by
  rw [upperCamelCase, String.toList_ofList, camelChars, ← List.flatMap_def]
  intro c hc
  obtain ⟨w, hw, hc⟩ := List.mem_flatMap.1 hc
  exact .inl (isAlphanum_capitalWord hascii hw c hc)

end

/-! ## Names -/

/-- **Names in ASCII** become identifiers: the module, the type, the field and the variant called
after one begin with a letter or an underscore, go on with letters, digits and underscores, and are
no reserved words. -/
theorem names_are_identifiers {name : String} (hascii : ∀ c ∈ name.toList, c.toNat < 128) :
    IsIdentifier (moduleName name) ∧ IsIdentifier (typeName name) ∧
      IsIdentifier (fieldName ⟨name⟩) ∧ IsIdentifier (variantName name) := by
  refine ⟨?_, ?_, ?_, ?_⟩
  · exact isIdentifier_mangled 'm' rfl (by decide) (isLater_snakeCase hascii)
  · refine isIdentifier_mangled 'T' rfl (by decide) ?_
    split
    · rename_i hplain
      simpa [isPlain, IsLater] using hplain
    · exact isLater_upperCamelCase hascii
  · exact isIdentifier_mangled 'f' rfl (by decide) (isLater_snakeCase hascii)
  · exact isIdentifier_mangled 'E' rfl (by decide) (isLater_upperCamelCase hascii)

/-- A word that is reserved in lower case, and with a capital. -/
theorem names_are_identifiers_self :
    [moduleName "SELF", typeName "SELF", fieldName ⟨"SELF"⟩, variantName "SELF"] =
        ["self__", "SELF", "self__", "Self__"] ∧
      IsIdentifier (moduleName "SELF") ∧ IsIdentifier (typeName "SELF") ∧
        IsIdentifier (fieldName ⟨"SELF"⟩) ∧ IsIdentifier (variantName "SELF") :=
  ⟨by decide +kernel, names_are_identifiers (by simp)⟩

end ClientGen.Source
