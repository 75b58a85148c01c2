import ClientGen.Text.Blank
import Mathlib.Data.List.TakeWhile

/-!
# What is left after trimming

A trimmed text neither begins nor ends in white space, `head?_trimChars` and `getLast?_trimChars`.
Behind a last character that is not white space nothing is cut off, `trimChars_concat`. Trimming
leaves such texts as they are, and takes nothing but white space away: `isTrimmed_iff`.
-/

namespace ClientGen.Text

variable {s : List Char} {c : Char}

theorem head?_trimStart (h : (trimStart s).head? = some c) : isBlank c = false := by
  have hnot := List.head?_dropWhile_not isBlank s
  rw [show s.dropWhile isBlank = trimStart s from rfl, h] at hnot
  simpa using hnot

theorem getLast?_trimEnd (h : (trimEnd s).getLast? = some c) : isBlank c = false := by
  rw [trimEnd, List.getLast?_reverse] at h
  exact head?_trimStart h

theorem trimEnd_prefix (s : List Char) : trimEnd s <+: s := by
  rw [trimEnd, ← List.reverse_suffix, List.reverse_reverse]
  exact List.dropWhile_suffix isBlank

/-- The first character of a trimmed text is not white space. -/
theorem head?_trimChars (h : (trimChars s).head? = some c) : isBlank c = false := by
  obtain ⟨rest, hrest⟩ := trimEnd_prefix (trimStart s)
  apply head?_trimStart (s := s)
  rw [← hrest, List.head?_append, show (trimEnd (trimStart s)).head? = some c from h]
  rfl

/-- The last character of a trimmed text is not white space. -/
theorem getLast?_trimChars (h : (trimChars s).getLast? = some c) : isBlank c = false :=
  getLast?_trimEnd h

/-- A text that ends in no white space only loses what is before it. -/
theorem trimChars_concat (hc : isBlank c = false) (s : List Char) :
    trimChars (s ++ [c]) = trimStart s ++ [c] := by
  have hstart : trimStart (s ++ [c]) = trimStart s ++ [c] := by
    induction s with
    | nil => simp [trimStart, hc]
    | cons first rest ih =>
      by_cases hfirst : isBlank first
      · simpa [trimStart, hfirst] using ih
      · simp [trimStart, hfirst]
  rw [trimChars, hstart, trimEnd, List.reverse_append]
  simp [hc]

/-! ## What trimming takes away -/

variable {t : List Char}

/-- The text `t` is `s` without the white space at its ends. -/
structure IsTrimmed (s t : List Char) : Prop where
  around : ∃ before after, s = before ++ (t ++ after) ∧ ∀ c ∈ before ++ after, isBlank c
  head : ∀ c, t.head? = some c → isBlank c = false
  last : ∀ c, t.getLast? = some c → isBlank c = false

/-- White space at the start is cut off, up to where the text begins in something else. -/
theorem trimStart_append {before : List Char} (hbefore : ∀ c ∈ before, isBlank c)
    (hhead : ∀ c, t.head? = some c → isBlank c = false) : trimStart (before ++ t) = t := by
  rw [trimStart, List.dropWhile_append_of_pos hbefore]
  cases t with
  | nil => rfl
  | cons c rest => exact List.dropWhile_cons_of_neg (by simp [hhead c rfl])

theorem trimEnd_append {after : List Char} (hafter : ∀ c ∈ after, isBlank c)
    (hlast : ∀ c, t.getLast? = some c → isBlank c = false) : trimEnd (t ++ after) = t := by
  have hreverse : trimStart (after.reverse ++ t.reverse) = t.reverse :=
    trimStart_append (by simpa using hafter) (by simpa using hlast)
  rw [trimEnd, List.reverse_append]
  exact (congrArg List.reverse hreverse).trans (List.reverse_reverse t)

/-- White space behind a text is cut off with what was behind it anyway. -/
theorem trimEnd_concat (hc : isBlank c) (s : List Char) : trimEnd (s ++ [c]) = trimEnd s := by
  rw [trimEnd, List.reverse_append, List.reverse_singleton, List.singleton_append,
    List.dropWhile_cons_of_pos hc]
  rfl

theorem exists_trimStart (s : List Char) :
    ∃ before, s = before ++ trimStart s ∧ ∀ c ∈ before, isBlank c :=
  ⟨s.takeWhile isBlank, List.takeWhile_append_dropWhile.symm, fun _ => List.mem_takeWhile_imp⟩

theorem exists_trimEnd (s : List Char) :
    ∃ after, s = trimEnd s ++ after ∧ ∀ c ∈ after, isBlank c := by
  obtain ⟨before, hbefore, hblank⟩ := exists_trimStart s.reverse
  refine ⟨before.reverse, ?_, by simpa using hblank⟩
  have hreverse := congrArg List.reverse hbefore
  rwa [List.reverse_reverse, List.reverse_append] at hreverse

/-- **Trimming** takes all white space at the ends away, and nothing else. -/
theorem isTrimmed_iff : IsTrimmed s t ↔ trimChars s = t := by
  constructor
  · rintro ⟨⟨before, after, rfl, hblank⟩, hhead, hlast⟩
    obtain ⟨hbefore, hafter⟩ := List.forall_mem_append.1 hblank
    cases t with
    | nil =>
      have hall : trimStart (before ++ ([] ++ after)) = [] := by
        simpa using trimStart_append (t := []) hblank (by simp)
      rw [trimChars, hall]
      rfl
    | cons c rest =>
      rw [trimChars, trimStart_append hbefore (by simpa using hhead), trimEnd_append hafter hlast]
  · rintro rfl
    obtain ⟨before, hbefore, hblank⟩ := exists_trimStart s
    obtain ⟨after, hafter, hblank'⟩ := exists_trimEnd (trimStart s)
    refine ⟨⟨before, after, ?_, List.forall_mem_append.2 ⟨hblank, hblank'⟩⟩,
      fun _ => head?_trimChars, fun _ => getLast?_trimChars⟩
    rw [trimChars, ← hafter, ← hbefore]

/-- Nothing is left of white space, and of nothing else. -/
theorem trimChars_eq_nil_iff : trimChars s = [] ↔ ∀ c ∈ s, isBlank c := by
  rw [← isTrimmed_iff]
  constructor
  · rintro ⟨⟨before, after, rfl, hblank⟩, -, -⟩
    exact hblank
  · intro hblank
    exact ⟨⟨s, [], by simp, by simpa using hblank⟩, by simp, by simp⟩

/-- A trimmed text stays as it is. -/
theorem IsTrimmed.self (h : IsTrimmed s t) : IsTrimmed t t :=
  ⟨⟨[], [], by simp, by simp⟩, h.head, h.last⟩

theorem IsTrimmed.subset (h : IsTrimmed s t) : t ⊆ s := by
  obtain ⟨before, after, rfl, -⟩ := h.around
  intro c hc
  simp [hc]

end ClientGen.Text
