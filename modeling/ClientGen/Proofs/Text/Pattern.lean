import Mathlib.Data.List.Forall2

/-!
# Patterns and backtracking

A pattern is a sequence of atoms, each of which stands for one character of a class or for one or
more of them. Where more than one beginning of a text fits an atom, the longest one is tried first,
and a shorter one only if the rest of the pattern fits nowhere after it: this is backtracking, and
`Pattern.find?` is what it finds.

Whatever is found fits the pattern and stands at the beginning of the text, `fits_of_find?`. For the
converse it has to be known which beginnings are tried before the one that is found;
`beginnings_eq_cons` and `beginnings_eq_cons_cons` give the first of them and the first two.
-/

namespace ClientGen.Text

/-! ## Atoms and patterns -/

/-- A part of a pattern. -/
inductive Atom
  /-- One character of a class. -/
  | one (p : Char → Bool)
  /-- One or more characters of a class. -/
  | many (p : Char → Bool)

/-- Atoms, to fit one after the other. -/
abbrev Pattern := List Atom

/-- The beginnings of a text that have characters of a class only and at least one of them, the
longest first, each with what comes after it. -/
def runs (p : Char → Bool) : List Char → List (List Char × List Char)
  | [] => []
  | c :: rest =>
    if p c then (runs p rest).map (fun (run, after) => (c :: run, after)) ++ [([c], rest)] else []

namespace Atom

/-- The text fits the atom. -/
def Fits : Atom → List Char → Prop
  | one p, s => ∃ c, p c ∧ s = [c]
  | many p, s => s ≠ [] ∧ ∀ c ∈ s, p c

/-- The beginnings of a text that fit the atom, in the order in which they are tried. -/
def beginnings : Atom → List Char → List (List Char × List Char)
  | one _, [] => []
  | one p, c :: rest => if p c then [([c], rest)] else []
  | many p, s => runs p s

end Atom

/-- What backtracking finds at the beginning of a text: a piece for each atom, and what comes after
all of them. -/
def Pattern.find? : Pattern → List Char → Option (List (List Char) × List Char)
  | [], s => some ([], s)
  | atom :: others, s =>
    (atom.beginnings s).findSome? fun (piece, after) =>
      (Pattern.find? others after).map fun (pieces, rest) => (piece :: pieces, rest)

variable {p : Char → Bool} {s t l : List Char}

/-! ## What is found fits -/

theorem of_mem_runs {e : List Char × List Char} (h : e ∈ runs p s) :
    e.1 ≠ [] ∧ (∀ c ∈ e.1, p c) ∧ s = e.1 ++ e.2 := by
  induction s generalizing e with
  | nil => cases h
  | cons c rest ih =>
    rw [runs] at h
    split at h
    · rename_i hc
      rcases List.mem_append.1 h with h | h
      · obtain ⟨⟨run, after⟩, hrun, rfl⟩ := List.mem_map.1 h
        obtain ⟨-, hall, rfl⟩ := ih hrun
        exact ⟨List.cons_ne_nil _ _, List.forall_mem_cons.2 ⟨hc, hall⟩, rfl⟩
      · cases List.mem_singleton.1 h
        exact ⟨List.cons_ne_nil _ _, List.forall_mem_singleton.2 hc, rfl⟩
    · cases h

theorem Atom.of_mem_beginnings {atom : Atom} {e : List Char × List Char}
    (h : e ∈ atom.beginnings s) : atom.Fits e.1 ∧ s = e.1 ++ e.2 := by
  cases atom with
  | one p =>
    cases s with
    | nil => cases h
    | cons c rest =>
      rw [beginnings] at h
      split at h
      · cases List.mem_singleton.1 h
        exact ⟨⟨c, ‹_›, rfl⟩, rfl⟩
      · cases h
  | many p =>
    obtain ⟨hne, hall, hs⟩ := of_mem_runs h
    exact ⟨⟨hne, hall⟩, hs⟩

/-- **What is found fits**, piece by piece, and stands at the beginning of the text. -/
theorem Pattern.fits_of_find? {pattern : Pattern} {pieces : List (List Char)} {rest : List Char}
    (h : pattern.find? s = some (pieces, rest)) :
    List.Forall₂ Atom.Fits pattern pieces ∧ s = pieces.flatten ++ rest := by
  induction pattern generalizing s pieces with
  | nil =>
    cases h
    exact ⟨.nil, rfl⟩
  | cons atom others ih =>
    obtain ⟨⟨piece, after⟩, hpiece, h⟩ := List.exists_of_findSome?_eq_some h
    obtain ⟨⟨more, last⟩, hmore, heq⟩ := Option.map_eq_some_iff.1 h
    cases heq
    obtain ⟨hfits, hs⟩ := Atom.of_mem_beginnings hpiece
    obtain ⟨hothers, hafter⟩ := ih hmore
    refine ⟨.cons hfits hothers, ?_⟩
    rw [hs, hafter, List.flatten_cons, List.append_assoc]

/-! ## What is tried first -/

/-- Behind characters of the class, all longer beginnings are tried before the shorter ones. -/
theorem runs_append (h : ∀ c ∈ l, p c) (t : List Char) :
    runs p (l ++ t) = (runs p t).map (fun e => (l ++ e.1, e.2)) ++
      (runs p l).map fun e => (e.1, e.2 ++ t) := by
  induction l with
  | nil => simp [runs]
  | cons c rest ih =>
    obtain ⟨hc, hrest⟩ := List.forall_mem_cons.1 h
    rw [List.cons_append, runs, if_pos hc, ih hrest, runs, if_pos hc]
    simp only [List.map_append, List.map_map, List.map_cons, List.map_nil, List.append_assoc]
    rfl

/-- The whole of a text of characters of the class comes first. -/
theorem runs_eq_cons (hne : l ≠ []) (h : ∀ c ∈ l, p c) : ∃ more, runs p l = (l, []) :: more := by
  induction l with
  | nil => exact absurd rfl hne
  | cons c rest ih =>
    obtain ⟨hc, hrest⟩ := List.forall_mem_cons.1 h
    rw [runs, if_pos hc]
    by_cases hnil : rest = []
    · subst hnil
      exact ⟨[], rfl⟩
    · obtain ⟨more, hmore⟩ := ih hnil hrest
      rw [hmore]
      exact ⟨_, rfl⟩

theorem runs_eq_nil (h : ∀ c ∈ t.head?, p c = false) : runs p t = [] := by
  cases t with
  | nil => rfl
  | cons c rest =>
    have hc : p c = false := h c rfl
    rw [runs, if_neg (by simp [hc])]

namespace Atom

/-- As much as fits comes first. -/
theorem beginnings_eq_cons (hne : l ≠ []) (h : ∀ c ∈ l, p c) (ht : ∀ c ∈ t.head?, p c = false) :
    ∃ more, (many p).beginnings (l ++ t) = (l, t) :: more := by
  obtain ⟨more, hmore⟩ := runs_eq_cons hne h
  rw [beginnings, runs_append h, runs_eq_nil ht, hmore]
  exact ⟨_, rfl⟩

/-- As much as fits comes first, and then what has one character less. -/
theorem beginnings_eq_cons_cons {c : Char} (hne : l ≠ []) (h : ∀ c ∈ l, p c) (hc : p c)
    (ht : ∀ c ∈ t.head?, p c = false) :
    ∃ more, (many p).beginnings (l ++ c :: t) = (l ++ [c], t) :: (l, c :: t) :: more := by
  obtain ⟨more, hmore⟩ := runs_eq_cons hne h
  rw [beginnings, runs_append h, runs, if_pos hc, runs_eq_nil ht, hmore]
  exact ⟨_, rfl⟩

end Atom

namespace Pattern

variable {atom : Atom} {others : Pattern} {piece after rest : List Char}
  {pieces : List (List Char)} {more : List (List Char × List Char)}

theorem find?_one {c : Char} (hc : p c) (s : List Char) :
    Pattern.find? (.one p :: others) (c :: s) =
      (Pattern.find? others s).map fun (pieces, rest) => ([c] :: pieces, rest) := by
  rw [find?, Atom.beginnings, if_pos hc, List.findSome?_singleton]

/-- What is tried first is found if the rest fits after it. -/
theorem find?_of_first (hfirst : atom.beginnings s = (piece, after) :: more)
    (hothers : Pattern.find? others after = some (pieces, rest)) :
    Pattern.find? (atom :: others) s = some (piece :: pieces, rest) := by
  simp only [find?, hfirst, List.findSome?_cons, hothers, Option.map_some]

/-- What is tried second is found if the rest fits after it, but not after what is tried first. -/
theorem find?_of_second {first behind : List Char}
    (hfirst : atom.beginnings s = (first, behind) :: (piece, after) :: more)
    (hnone : Pattern.find? others behind = none)
    (hothers : Pattern.find? others after = some (pieces, rest)) :
    Pattern.find? (atom :: others) s = some (piece :: pieces, rest) := by
  simp only [find?, hfirst, List.findSome?_cons, hnone, hothers, Option.map_none, Option.map_some]

end Pattern

end ClientGen.Text
