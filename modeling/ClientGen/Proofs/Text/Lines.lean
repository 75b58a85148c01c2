import ClientGen.Text.Lines
import Mathlib.Data.List.Basic

/-!
# Cutting what was joined

A text that is put together from pieces, with a separator between them that none of them has in it,
is cut into these pieces again: `pieces_intercalate`. In the same way a line that ends in a line
feed is found among the lines of a text, whatever stands before and after it: `linesOf_append` and
`linesOf_line`. Of a line of which only the beginning is known, the beginning is found,
`exists_line_of_prefix`.
-/

namespace ClientGen.Text

variable {sep : Char} {l s t : List Char}

/-! ## Pieces -/

theorem pieces_ne_nil (sep : Char) (s : List Char) : pieces sep s ≠ [] :=
  List.cons_ne_nil _ _

/-- A text is cut at a separator into the pieces before it and those after it. -/
theorem pieces_append (sep : Char) (s t : List Char) :
    pieces sep (s ++ sep :: t) = pieces sep s ++ pieces sep t := by
  induction s with
  | nil => simp [pieces, cut]
  | cons c rest ih =>
    have hcut : (cut sep (rest ++ sep :: t)).1 = (cut sep rest).1 ∧
        (cut sep (rest ++ sep :: t)).2 = (cut sep rest).2 ++ pieces sep t := by
      simpa [pieces] using ih
    by_cases h : c = sep
    · simp [pieces, cut, h, hcut]
    · simp [pieces, cut, h, hcut]

/-- What has no separator in it is the beginning of the first piece. -/
theorem pieces_prefix (h : sep ∉ l) (t : List Char) :
    pieces sep (l ++ t) = (l ++ (cut sep t).1) :: (cut sep t).2 := by
  induction l with
  | nil => rfl
  | cons c rest ih =>
    obtain ⟨hc, hrest⟩ : sep ≠ c ∧ sep ∉ rest := by simpa using h
    have hcut : cut sep (rest ++ t) = (rest ++ (cut sep t).1, (cut sep t).2) := by
      have := ih hrest
      simp only [pieces, List.cons.injEq] at this
      exact Prod.ext this.1 this.2
    simp [pieces, cut, hcut, Ne.symm hc]

theorem pieces_of_not_mem (h : sep ∉ l) : pieces sep l = [l] := by
  have := pieces_prefix h []
  simpa [cut] using this

/-- Joined pieces are cut into themselves. -/
theorem pieces_intercalate {ps : List (List Char)} (hne : ps ≠ []) (h : ∀ p ∈ ps, sep ∉ p) :
    pieces sep ([sep].intercalate ps) = ps := by
  induction ps with
  | nil => exact absurd rfl hne
  | cons p rest ih =>
    have hp : pieces sep p = [p] := pieces_of_not_mem (h p List.mem_cons_self)
    by_cases hrest : rest = []
    · rw [hrest, List.intercalate_singleton, hp]
    · have hpieces := ih hrest fun q hq => h q (List.mem_cons_of_mem _ hq)
      rw [List.intercalate_cons_of_ne_nil hrest, List.append_assoc, List.singleton_append,
        pieces_append, hp, hpieces, List.singleton_append]

/-- The pieces of the beginning of a text are beginnings of the pieces of the text. -/
theorem cut_of_begins (sep : Char) (h : s <+: t) :
    (cut sep s).1 <+: (cut sep t).1 ∧ ∀ p ∈ (cut sep s).2, ∃ q ∈ (cut sep t).2, p <+: q := by
  induction s generalizing t with
  | nil => exact ⟨List.nil_prefix, nofun⟩
  | cons c rest ih =>
    obtain ⟨t, rfl⟩ := h
    obtain ⟨hfirst, hothers⟩ := ih (List.prefix_append rest t)
    by_cases hc : c = sep
    · simp only [List.cons_append, cut, hc, if_true]
      refine ⟨List.nil_prefix, fun p hp => ?_⟩
      rcases List.mem_cons.1 hp with rfl | hp
      · exact ⟨_, List.mem_cons_self, hfirst⟩
      · obtain ⟨q, hq, hbegins⟩ := hothers p hp
        exact ⟨q, List.mem_cons_of_mem _ hq, hbegins⟩
    · simp only [List.cons_append, cut, hc, if_false]
      exact ⟨(List.prefix_cons_inj c).2 hfirst, hothers⟩

/-- There is one piece more than there are separators. -/
theorem length_pieces (sep : Char) (s : List Char) : (pieces sep s).length = s.count sep + 1 := by
  induction s with
  | nil => rfl
  | cons c rest ih =>
    have hrest : (cut sep rest).2.length = rest.count sep := by simpa [pieces] using ih
    by_cases h : c = sep <;> simp [pieces, cut, h, hrest]

/-- A text with a separator in it is cut at the last one. -/
theorem exists_last_piece (h : sep ∈ s) :
    ∃ before last, s = before ++ sep :: last ∧ sep ∉ last := by
  obtain ⟨last, before, hreverse, hlast⟩ := List.eq_append_cons_of_mem (List.mem_reverse.2 h)
  refine ⟨before.reverse, last.reverse, ?_, by simpa using hlast⟩
  rw [← List.reverse_reverse s, hreverse]
  simp

/-- The two pieces of a text with one separator. -/
theorem pieces_eq_pair : pieces sep s = [l, t] ↔ s = l ++ sep :: t ∧ s.count sep = 1 := by
  constructor
  · intro h
    have hlength := length_pieces sep s
    have htext := intercalate_pieces sep s
    rw [h] at hlength htext
    refine ⟨?_, (Nat.succ.inj hlength).symm⟩
    simpa [List.intercalate] using htext.symm
  · rintro ⟨rfl, honce⟩
    rw [List.count_append, List.count_cons_self] at honce
    have hl : sep ∉ l := List.count_eq_zero.1 (by omega)
    have ht : sep ∉ t := List.count_eq_zero.1 (by omega)
    rw [pieces_append, pieces_of_not_mem hl, pieces_of_not_mem ht]
    rfl

theorem split_intercalate {ps : List String} (hne : ps ≠ []) (h : ∀ p ∈ ps, sep ∉ p.toList) :
    split sep ((String.singleton sep).intercalate ps) = ps := by
  have hchars : ∀ p ∈ ps.map String.toList, sep ∉ p := by simpa using h
  have hsep : (String.singleton sep).toList = [sep] := by simp
  rw [split, String.toList_intercalate, hsep, pieces_intercalate (by simpa using hne) hchars]
  simp

/-! ## Lines -/

theorem dropReturn_of_not_mem (h : '\r' ∉ l) : dropReturn l = l := by
  have hlast : l.getLast? ≠ some '\r' := fun hlast => h (List.mem_of_getLast? hlast)
  rw [dropReturn, if_neg hlast]

/-- A text without line feeds is one line, unless it is empty. -/
theorem linesOf_of_not_mem (h : '\n' ∉ l) (hne : l ≠ []) : linesOf l = [l] := by
  obtain ⟨c, rest, rfl⟩ := List.exists_cons_of_ne_nil hne
  rw [linesOf, pieces_of_not_mem h]
  rfl

/-- The lines up to a line feed come before those after it. -/
theorem linesOf_append (s t : List Char) :
    linesOf (s ++ '\n' :: t) = (pieces '\n' s).map dropReturn ++ linesOf t := by
  have hne := pieces_ne_nil '\n' t
  have hlast : (pieces '\n' s ++ pieces '\n' t).getLast? = (pieces '\n' t).getLast? := by
    simp [List.getLast?_append, List.getLast?_eq_some_getLast hne]
  have hinit : (pieces '\n' s ++ pieces '\n' t).dropLast =
      pieces '\n' s ++ (pieces '\n' t).dropLast := by
    simp [hne]
  unfold linesOf
  simp only [pieces_append, hlast, hinit, List.map_append]
  split <;> simp

theorem linesOf_line (hl : '\n' ∉ l) (hreturn : '\r' ∉ l) :
    linesOf (l ++ '\n' :: t) = l :: linesOf t := by
  rw [linesOf_append, pieces_of_not_mem hl, List.map_singleton, dropReturn_of_not_mem hreturn]
  rfl

/-- Nothing in the text ends a line. -/
def IsLine (s : String) : Prop :=
  '\n' ∉ s.toList ∧ '\r' ∉ s.toList

instance (s : String) : Decidable (IsLine s) :=
  inferInstanceAs (Decidable (_ ∧ _))

theorem IsLine.append {s t : String} (hs : IsLine s) (ht : IsLine t) : IsLine (s ++ t) := by
  simp [IsLine, hs.1, hs.2, ht.1, ht.2]

/-- Lines that each end in a line feed are the lines of the text. -/
theorem lines_of_toList {s : String} {ls : List String} (h : ∀ l ∈ ls, IsLine l)
    (hs : s.toList = (ls.map String.toList).flatMap (· ++ ['\n'])) : lines s = ls := by
  have hlines : linesOf ((ls.map String.toList).flatMap (· ++ ['\n'])) = ls.map String.toList := by
    clear hs
    induction ls with
    | nil => rfl
    | cons l rest ih =>
      obtain ⟨hl, hreturn⟩ := h l List.mem_cons_self
      rw [List.map_cons, List.flatMap_cons, List.append_assoc, List.singleton_append,
        linesOf_line hl hreturn, ih fun l' hl' => h l' (List.mem_cons_of_mem _ hl')]
  rw [lines, hs, hlines]
  simp

theorem dropReturn_append (hreturn : '\r' ∉ l) (s : List Char) :
    dropReturn (l ++ s) = l ++ dropReturn s := by
  by_cases hs : s = []
  · have hnil : dropReturn [] = [] := rfl
    rw [hs, hnil, List.append_nil, dropReturn_of_not_mem hreturn]
  · have hlast : (l ++ s).getLast? = s.getLast? := by
      simp [List.getLast?_append, List.getLast?_eq_some_getLast hs]
    have hinit : (l ++ s).dropLast = l ++ s.dropLast := List.dropLast_append_of_ne_nil hs
    rw [dropReturn, dropReturn, hlast, hinit, apply_ite (l ++ ·)]

/-- A text that begins with `l` has a first line that begins with `l`. -/
theorem exists_line_of_prefix (hl : '\n' ∉ l) (hreturn : '\r' ∉ l) (hne : l ≠ []) (t : List Char) :
    ∃ more, l ++ more ∈ linesOf (l ++ t) := by
  obtain ⟨first, rest, hpieces⟩ : ∃ first rest, pieces '\n' (l ++ t) = (l ++ first) :: rest :=
    ⟨_, _, pieces_prefix hl t⟩
  by_cases hrest : rest = []
  · -- the first line is the last one, and is not empty
    have hsome : l ++ first ≠ [] := by simp [hne]
    refine ⟨first, ?_⟩
    obtain ⟨c, cs, hcons⟩ := List.exists_cons_of_ne_nil hsome
    simp [linesOf, hpieces, hrest, hcons]
  · have hinit : ((l ++ first) :: rest).dropLast = (l ++ first) :: rest.dropLast :=
      List.dropLast_cons_of_ne_nil hrest
    refine ⟨dropReturn first, ?_⟩
    rw [← dropReturn_append hreturn]
    unfold linesOf
    simp only [hpieces, hinit]
    split <;> simp

end ClientGen.Text
