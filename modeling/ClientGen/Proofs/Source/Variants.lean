import ClientGen.Proofs.Source.Mangling
import ClientGen.Proofs.Text.Lines
import Mathlib.Data.List.Induction

/-!
# Variants of an enum

An enum has one variant for each wire name, made of the first constant that has it. A variant is
named in upper camel case, and where several would get one name, each is followed by its number
among them. A number behind a name could make it the name of another variant. That it never does is
due to the characters that names are made of: upper camel case has no underscore, the suffix of
reserved words has nothing else, and a number ends in a digit, `variantName_ne_numberedName`.

`variants_named` says which variants there are, in which order and under which names, and that these
are different.
-/

namespace ClientGen.Source

open Text

/-! ## First occurrences -/

/-- None of the constants has the wire name of this one. -/
def isNewTo (constants : List EnumConstant) (c : EnumConstant) : Bool :=
  constants.all fun d => d.identifier.wireName ≠ c.identifier.wireName

/-- The constants whose wire name none of the constants before them has. -/
def firstOccurrences (constants : List EnumConstant) : List EnumConstant :=
  (constants.zipIdx.filter fun (c, i) => isNewTo (constants.take i) c).map Prod.fst

/-- A further constant is a first occurrence if its wire name is new. -/
theorem firstOccurrences_concat (constants : List EnumConstant) (c : EnumConstant) :
    firstOccurrences (constants ++ [c]) =
      firstOccurrences constants ++ if isNewTo constants c then [c] else [] := by
  have hbefore : ∀ e ∈ constants.zipIdx,
      isNewTo ((constants ++ [c]).take e.2) e.1 = isNewTo (constants.take e.2) e.1 := by
    rintro ⟨d, i⟩ he
    obtain ⟨hi, -⟩ := List.mem_zipIdx' he
    rw [List.take_append_of_le_length (Nat.le_of_lt hi)]
  have hlast : [(c, constants.length)].filter (fun e => isNewTo ((constants ++ [c]).take e.2) e.1) =
      if isNewTo constants c then [(c, constants.length)] else [] := by
    simp only [List.filter_cons, List.filter_nil, List.take_left]
  rw [firstOccurrences, List.zipIdx_append, List.filter_append, List.map_append,
    List.filter_congr hbefore, Nat.zero_add, List.zipIdx_singleton, hlast, firstOccurrences]
  split <;> rfl

theorem firstOfEach_concat (constants : List EnumConstant) (c : EnumConstant) :
    firstOfEach (constants ++ [c]) =
      firstOfEach constants ++ if isNewTo constants c then [c] else [] := by
  induction constants with
  | nil => rfl
  | cons d rest ih =>
    have hnew : isNewTo (d :: rest) c =
        (decide (d.identifier.wireName ≠ c.identifier.wireName) && isNewTo rest c) := rfl
    rw [List.cons_append, firstOfEach, firstOfEach, ih, List.filter_append, List.cons_append, hnew]
    by_cases hd : d.identifier.wireName = c.identifier.wireName
    · split <;> simp [hd]
    · split <;> simp_all [Ne.symm hd]

/-- Dropping what was there before leaves the first occurrences, in their order. -/
theorem firstOfEach_eq (constants : List EnumConstant) :
    firstOfEach constants = firstOccurrences constants := by
  induction constants using List.reverseRecOn with
  | nil => rfl
  | append_singleton constants c ih => rw [firstOfEach_concat, firstOccurrences_concat, ih]

/-! ## Numbered names -/

/-- The name with a number behind it. -/
def numberedName (name : String) (number : Nat) : String :=
  s!"{name}_{number}"

theorem toList_numberedName (name : String) (number : Nat) :
    (numberedName name number).toList = name.toList ++ '_' :: Nat.toDigits 10 number := by
  rw [numberedName]
  simp only [toString, String.toList_append, Nat.toList_repr, List.append_assoc]
  rfl

theorem isDigit_of_mem_toDigits {number : Nat} {c : Char} (h : c ∈ Nat.toDigits 10 number) :
    c.isDigit :=
  Nat.isDigit_of_mem_toDigits (by decide) (by decide) h

/-- Name and number can be told from each other, whatever the name. -/
theorem numberedName_inj {a b : String} {i j : Nat} (h : numberedName a i = numberedName b j) :
    a = b ∧ i = j := by
  have hdigits (number : Nat) : '_' ∉ Nat.toDigits 10 number :=
    fun hmem => absurd (isDigit_of_mem_toDigits hmem) (by decide)
  have hpieces (name : String) (number : Nat) : pieces '_' (numberedName name number).toList =
      pieces '_' name.toList ++ [Nat.toDigits 10 number] := by
    rw [toList_numberedName, pieces_append, pieces_of_not_mem (hdigits number)]
  have hsame : pieces '_' a.toList ++ [Nat.toDigits 10 i] =
      pieces '_' b.toList ++ [Nat.toDigits 10 j] := by
    rw [← hpieces, ← hpieces, h]
  obtain ⟨hname, hnumber⟩ := List.append_inj' hsame rfl
  constructor
  · rw [← String.toList_inj, ← intercalate_pieces '_' a.toList, hname, intercalate_pieces]
  · have hread := congrArg (fun digits => Nat.ofDigitChars 10 digits 0) (List.cons.inj hnumber).1
    simpa only [Nat.ofDigitChars_ten_toDigits] using hread

/-- A variant's name has no underscore, or it ends in one. -/
theorem variantName_underscore (value : String) :
    '_' ∉ (variantName value).toList ∨ (variantName value).toList.getLast? = some '_' := by
  have hplain : '_' ∉ (withStart "E" (upperCamelCase value)).toList := by
    have hcamel : '_' ∉ (upperCamelCase value).toList := by
      rw [upperCamelCase, String.toList_ofList]
      exact underscore_not_mem_camelChars _
    rcases toList_withStart "E" (upperCamelCase value) with h | h
    · rwa [h]
    · rw [h, List.mem_append, not_or]
      exact ⟨by decide, hcamel⟩
  rw [variantName, escapeReserved]
  split
  · refine .inr ?_
    rw [String.toList_append, List.getLast?_append_of_ne_nil _ (by decide)]
    rfl
  · exact .inl hplain

/-- **No variant is called like one with a number**, whatever name the number is behind. -/
theorem variantName_ne_numberedName (value name : String) (number : Nat) :
    variantName value ≠ numberedName name number := by
  intro heq
  have hlist : (variantName value).toList = name.toList ++ '_' :: Nat.toDigits 10 number := by
    rw [heq, toList_numberedName]
  rcases variantName_underscore value with h | h
  · exact h (by simp [hlist])
  · rw [hlist, List.getLast?_append_of_ne_nil _ (List.cons_ne_nil _ _),
      List.getLast?_cons_of_ne_nil Nat.toDigits_ne_nil] at h
    exact absurd (isDigit_of_mem_toDigits (List.mem_of_getLast? h)) (by decide)

/-! ## Telling names apart -/

variable {all before names : List String}

theorem numbered_append (all before names others : List String) :
    numbered all before (names ++ others) =
      numbered all before names ++ numbered all (names.reverse ++ before) others := by
  induction names generalizing before with
  | nil => rfl
  | cons name rest ih =>
    rw [List.cons_append, numbered, numbered, ih, List.reverse_cons, List.append_assoc,
      List.cons_append, List.cons_append, List.nil_append]

theorem length_numbered (all before names : List String) :
    (numbered all before names).length = names.length := by
  induction names generalizing before with
  | nil => rfl
  | cons name rest ih => rw [numbered, List.length_cons, List.length_cons, ih]

/-- A name that occurs once stays as it is. The others get numbers, not lower than the number of
times that they occurred before. -/
theorem mem_numbered {x : String} (h : x ∈ numbered all before names) : ∃ name ∈ names,
    (all.count name ≤ 1 ∧ x = name) ∨
      (1 < all.count name ∧
        ∃ number, before.count name ≤ number ∧ x = numberedName name number) := by
  induction names generalizing before with
  | nil => cases h
  | cons name rest ih =>
    rw [numbered] at h
    rcases List.mem_cons.1 h with rfl | h
    · refine ⟨name, List.mem_cons_self, ?_⟩
      by_cases hcount : 1 < all.count name
      · exact .inr ⟨hcount, _, Nat.le_refl _, if_pos hcount⟩
      · exact .inl ⟨by omega, if_neg hcount⟩
    · obtain ⟨other, hother, hcases⟩ := ih h
      refine ⟨other, List.mem_cons_of_mem _ hother, hcases.imp_right ?_⟩
      rintro ⟨hcount, number, hnumber, rfl⟩
      have hbefore : before.count other ≤ (name :: before).count other := List.count_le_count_cons
      exact ⟨hcount, number, Nat.le_trans hbefore hnumber, rfl⟩

/-- Names are told apart, if none of them looks like another one with a number. -/
theorem nodup_numbered (hall : ∀ name, names.count name ≤ all.count name)
    (hplain : ∀ name ∈ names, ∀ other number, name ≠ numberedName other number) :
    (numbered all before names).Nodup := by
  induction names generalizing before with
  | nil => exact List.nodup_nil
  | cons name rest ih =>
    obtain ⟨hname, hrest⟩ := List.forall_mem_cons.1 hplain
    have hcounts (other : String) : rest.count other ≤ all.count other :=
      Nat.le_trans List.count_le_count_cons (hall other)
    rw [numbered, List.nodup_cons]
    refine ⟨fun hmem => ?_, ih hcounts hrest⟩
    obtain ⟨other, hother, ⟨hone, heq⟩ | ⟨hmany, number, hnumber, heq⟩⟩ := mem_numbered hmem
    · by_cases hcount : 1 < all.count name
      · rw [if_pos hcount] at heq
        exact hrest other hother name _ heq.symm
      · -- the name occurs a second time after all
        rw [if_neg hcount] at heq
        have hagain : 0 < rest.count name := List.count_pos_iff.2 (heq ▸ hother)
        have htwice := hall name
        rw [List.count_cons_self] at htwice
        omega
    · by_cases hcount : 1 < all.count name
      · -- a later number of the same name is higher
        rw [if_pos hcount] at heq
        obtain ⟨rfl, hsame⟩ := numberedName_inj heq
        rw [List.count_cons_self] at hnumber
        omega
      · rw [if_neg hcount] at heq
        exact hname other number heq

/-! ## Variants -/

/-- The name of a variant before it is told apart from others. -/
def baseName (c : EnumConstant) : String :=
  variantName c.identifier.wireName

/-- The name of a variant among others: its base name if no other variant shares that, and otherwise
with the number of the variants before it that do. -/
def nameAmong (before after : List EnumConstant) (c : EnumConstant) : String :=
  if baseName c ∈ (before ++ after).map baseName then
    numberedName (baseName c) ((before.map baseName).count (baseName c))
  else baseName c

/-- The variants are those of the constants, under names of their own. -/
structure AreVariantsOf (constants : List EnumConstant) (vs : List (String × EnumConstant)) :
    Prop where
  /-- There is one for the first constant of each wire name, in the order of the constants. -/
  constants_eq : vs.map Prod.snd = firstOccurrences constants
  name_eq : ∀ before v after, vs = before ++ v :: after →
    v.1 = nameAmong (before.map Prod.snd) (after.map Prod.snd) v.2
  names_nodup : (vs.map Prod.fst).Nodup

/-- There are as many names as constants that are kept. -/
theorem length_names (constants : List EnumConstant) :
    (numbered ((firstOfEach constants).map baseName) []
      ((firstOfEach constants).map baseName)).length = (firstOfEach constants).length := by
  rw [length_numbered, List.length_map]

theorem map_snd_variants (constants : List EnumConstant) :
    (variants constants).map Prod.snd = firstOfEach constants :=
  List.map_snd_zip (Nat.le_of_eq (length_names constants).symm)

/-- The names of variants are the base names, told apart. -/
theorem map_fst_variants (constants : List EnumConstant) :
    (variants constants).map Prod.fst =
      numbered ((firstOfEach constants).map baseName) []
        ((firstOfEach constants).map baseName) :=
  List.map_fst_zip (Nat.le_of_eq (length_names constants))

/-- The numbers are those of a variant among all that share its base name. -/
theorem name_eq_of_split {constants : List EnumConstant}
    {before after : List (String × EnumConstant)} {v : String × EnumConstant}
    (h : variants constants = before ++ v :: after) :
    v.1 = nameAmong (before.map Prod.snd) (after.map Prod.snd) v.2 := by
  have hconstants := map_snd_variants constants
  have hnames := map_fst_variants constants
  rw [h, List.map_append, List.map_cons] at hconstants hnames
  rw [← hconstants, List.map_append, List.map_cons, numbered_append, numbered] at hnames
  obtain ⟨-, hfrom⟩ := List.append_inj hnames (by simp [length_numbered])
  rw [(List.cons.inj hfrom).1, nameAmong, List.append_nil, List.count_reverse, List.count_append,
    List.count_cons_self, List.map_append]
  have hshared : (1 < ((before.map Prod.snd).map baseName).count (baseName v.2) +
      (((after.map Prod.snd).map baseName).count (baseName v.2) + 1)) ↔
      baseName v.2 ∈ (before.map Prod.snd).map baseName ++ (after.map Prod.snd).map baseName := by
    rw [← List.count_pos_iff, List.count_append]
    omega
  by_cases hmem :
      baseName v.2 ∈ (before.map Prod.snd).map baseName ++ (after.map Prod.snd).map baseName
  · rw [if_pos hmem, if_pos (hshared.2 hmem)]
    rfl
  · rw [if_neg hmem, if_neg (mt hshared.1 hmem)]

/-- **The variants of an enum**: the first constant of each wire name, in order, each under its base
name or, where several share that, under its base name and number. No two have the same name. -/
theorem variants_named (constants : List EnumConstant) :
    AreVariantsOf constants (variants constants) where
  constants_eq := by rw [map_snd_variants, firstOfEach_eq]
  name_eq _ _ _ h := name_eq_of_split h
  names_nodup := by
    rw [map_fst_variants]
    refine nodup_numbered (fun _ => Nat.le_refl _) fun name hname other number => ?_
    obtain ⟨c, -, rfl⟩ := List.mem_map.1 hname
    exact variantName_ne_numberedName _ other number

example : (variants (["a-b", "self", "aB", "a-b", "Self", "1", "e1", ""].map fun value =>
    ⟨⟨value⟩, none⟩)).map (fun v => (v.1, v.2.identifier.wireName)) =
      [("AB_0", "a-b"), ("Self___0", "self"), ("AB_1", "aB"), ("Self___1", "Self"), ("E1_0", "1"),
        ("E1_1", "e1"), ("E", "")] := by
  decide +kernel

end ClientGen.Source
