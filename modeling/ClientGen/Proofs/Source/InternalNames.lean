import ClientGen.Proofs.Source.MethodNames

/-!
# Names that no parameter can take

The generator has names of its own for the runtime client, for the value of the super type and for
the method that gives it for changing. They end in the suffix of reserved words, and so do fields
named after reserved words, but no others: a name in snake case does not end in an underscore, so
the suffix is there only if it was put there, and what it was put behind is a reserved word,
`fieldName_eq_suffix_iff`. Without the suffix the generator's names are not reserved, so no field is
called like one of them, whatever its name on the wire.

A setter is named after its field without the suffix, however often that is taken off. The word that
is left is the one that the suffix was put behind, and different fields have different ones, so no
two of them share a setter: `internal_names_free`.
-/

namespace ClientGen.Source

variable {i j : Identifier}

/-! ## The suffix of fields -/

theorem isReserved_iff {word : String} : isReserved word ↔ word ∈ reservedWords :=
  List.contains_iff_mem

theorem getLast?_of_isReserved {word : String} (h : isReserved word) :
    word.toList.getLast? ≠ some '_' := by
  have hall : ∀ word ∈ reservedWords, word.toList.getLast? ≠ some '_' := by decide
  exact hall word (isReserved_iff.1 h)

/-- A word with the suffix behind it is a field exactly if the word is reserved and the field is
named after it. -/
theorem fieldName_eq_suffix_iff {word : String} :
    fieldName i = word ++ collisionSuffix ↔ isReserved word ∧ plainField i.wireName = word := by
  constructor
  · intro h
    have hword : isReserved word := by
      by_contra hfree
      exact fieldName_ne_suffix word (eq_false_of_ne_true hfree) i h
    have hescaped : escapeReserved word = word ++ collisionSuffix := if_pos hword
    rw [fieldName_eq, ← hescaped] at h
    exact ⟨hword, escapeReserved_inj (getLast?_plainField i.wireName)
      (getLast?_of_isReserved hword) h⟩
  · rintro ⟨hword, hplain⟩
    rw [fieldName_eq, hplain]
    exact if_pos hword

/-- So a field ends in the suffix exactly if it is named after a reserved word. -/
theorem suffix_fieldName_iff :
    collisionSuffix.toList <:+ (fieldName i).toList ↔ isReserved (plainField i.wireName) := by
  constructor
  · rintro ⟨word, hword⟩
    have hname : fieldName i = String.ofList word ++ collisionSuffix := by
      rw [← String.toList_inj, String.toList_append, String.toList_ofList, hword]
    obtain ⟨hreserved, hplain⟩ := fieldName_eq_suffix_iff.1 hname
    rw [hplain]
    exact hreserved
  · intro hreserved
    rw [fieldName_eq_suffix_iff.2 ⟨hreserved, rfl⟩, String.toList_append]
    exact List.suffix_append _ _

/-! ## Setters -/

/-- Taking the suffix off makes no two fields equal. -/
theorem setterName_eq_iff : setterName i = setterName j ↔ fieldName i = fieldName j := by
  rw [setterName_eq, setterName_eq, String.append_right_inj, fieldName_eq_iff]

/-! ## The generator's own names -/

/-- The names that the generator has for its own fields and methods. -/
def internalNames : List String :=
  [clientField, baseField, baseMutMethod]

/-- **The generator's own names are free**: whatever is called on the wire, its field has none of
them. A field ends in the suffix only behind the reserved word that it is named after. Two names
have one setter exactly if they have one field, and that is so exactly if they are the same before
any suffix. -/
theorem internal_names_free (i j : Identifier) :
    fieldName i ∉ internalNames ∧
      (collisionSuffix.toList <:+ (fieldName i).toList →
        ∃ word ∈ reservedWords, fieldName i = word ++ collisionSuffix) ∧
      (setterName i = setterName j ↔ fieldName i = fieldName j) ∧
      (fieldName i = fieldName j ↔ plainField i.wireName = plainField j.wireName) := by
  refine ⟨?_, ?_, setterName_eq_iff, fieldName_eq_iff⟩
  · have hwords : internalNames = ["client", "base", "base_mut"].map (· ++ collisionSuffix) := rfl
    have hfree : ∀ word ∈ ["client", "base", "base_mut"], isReserved word = false := by decide
    rw [hwords]
    intro hmem
    obtain ⟨word, hword, hname⟩ := List.mem_map.1 hmem
    exact fieldName_ne_suffix word (hfree word hword) i hname.symm
  · intro hsuffix
    have hreserved := suffix_fieldName_iff.1 hsuffix
    exact ⟨plainField i.wireName, isReserved_iff.1 hreserved,
      fieldName_eq_suffix_iff.2 ⟨hreserved, rfl⟩⟩

example : fieldName ⟨"client__"⟩ = "client" ∧ fieldName ⟨"type__"⟩ = "type__" ∧
    setterName ⟨"type__"⟩ = "set_type" := by decide +kernel

end ClientGen.Source
