import ClientGen.Proofs.Text.Literal
import Mathlib.Logic.Function.Basic

/-!
# Where a string literal ends

A literal is read from left to right, and a backslash takes the character after it with it. The
first quote that is not taken in this way is the closing one, `closingQuote?`, and what stands
before it denotes what is left without the backslashes, `unescape`; reading a literal is both at
once, `readLiteral_eq`.

Escaping is two replacements, of backslashes first and of quotes second,
`escapeChars_eq_replaceEach`. In the other order the backslash in front of a quote would be doubled
as well, and the quote would be the closing one. In this order the closing quote is the one that was
put behind the text, whatever the text is and whatever comes after it: `literals_close_last`.
-/

namespace ClientGen.Text

variable {s t : List Char}

/-! ## The closing quote -/

/-- How many characters stand before the first quote that no backslash takes with it. -/
def closingQuote? : List Char → Option Nat
  | [] => none
  | '"' :: _ => some 0
  | '\\' :: _ :: rest => (closingQuote? rest).map (· + 2)
  | _ :: rest => (closingQuote? rest).map (· + 1)

/-- The text without the backslashes that take a character with them. -/
def unescape : List Char → List Char
  | [] => []
  | '\\' :: c :: rest => c :: unescape rest
  | c :: rest => c :: unescape rest

theorem unescape_cons {c : Char} (h : c ≠ '\\') (rest : List Char) :
    unescape (c :: rest) = c :: unescape rest := by
  rw [unescape]
  intro c' rest' hc
  exact absurd hc h

/-- **Reading a literal** finds its closing quote and takes the backslashes off what is before. -/
theorem readLiteral_eq (s : List Char) :
    readLiteral s = (closingQuote? s).map fun n => (unescape (s.take n), s.drop (n + 1)) := by
  fun_induction closingQuote? s with
  | case1 => rfl
  | case2 rest => rfl
  | case3 c rest ih =>
    rw [readLiteral, ih, Option.map_map, Option.map_map]
    rfl
  | case4 c rest hquote hescape ih =>
    by_cases hbackslash : c = '\\'
    · -- a backslash that is the last character takes nothing
      have hrest : rest = [] := by
        cases rest with
        | nil => rfl
        | cons c' rest' => exact absurd rfl (hescape c' rest' hbackslash)
      rw [hbackslash, hrest]
      rfl
    · have hread : ∀ n, unescape ((c :: rest).take (n + 1)) = c :: unescape (rest.take n) :=
        fun n => unescape_cons hbackslash _
      rw [readLiteral_cons hquote hbackslash, ih, Option.map_map, Option.map_map]
      simp only [Function.comp_def, hread]
      rfl

/-- Where the closing quote is said to be, there is a quote. -/
theorem eq_of_closingQuote? {n : Nat} (h : closingQuote? s = some n) :
    s = s.take n ++ '"' :: s.drop (n + 1) := by
  fun_induction closingQuote? s generalizing n with
  | case1 => cases h
  | case2 rest =>
    cases h
    rfl
  | case3 c rest ih =>
    obtain ⟨m, hm, rfl⟩ := Option.map_eq_some_iff.1 h
    exact congrArg ('\\' :: c :: ·) (ih hm)
  | case4 c rest _ _ ih =>
    obtain ⟨m, hm, rfl⟩ := Option.map_eq_some_iff.1 h
    exact congrArg (c :: ·) (ih hm)

/-- A literal that is read to its end closes there. -/
theorem closingQuote?_of_readLiteral {after : List Char}
    (h : readLiteral (s ++ '"' :: after) = some (t, after)) :
    closingQuote? (s ++ '"' :: after) = some s.length ∧ unescape s = t := by
  rw [readLiteral_eq] at h
  obtain ⟨n, hclosing, heq⟩ := Option.map_eq_some_iff.1 h
  obtain ⟨htext, hafter⟩ := Prod.mk.inj heq
  have hsplit := eq_of_closingQuote? hclosing
  rw [hafter] at hsplit
  have hbefore : s = (s ++ '"' :: after).take n := List.append_cancel_right hsplit
  have hlength : n = s.length := by
    have hmin := congrArg List.length hbefore
    simp only [List.length_take, List.length_append, List.length_cons] at hmin
    omega
  rw [← hbefore] at htext
  exact ⟨hlength ▸ hclosing, htext⟩

/-! ## Two replacements -/

/-- The text with `new` in the place of each `c`. -/
def replaceEach (c : Char) (new : List Char) (s : List Char) : List Char :=
  s.flatMap fun x => if x = c then new else [x]

theorem replaceEach_cons (c : Char) (new : List Char) (x : Char) (s : List Char) :
    replaceEach c new (x :: s) = (if x = c then new else [x]) ++ replaceEach c new s :=
  List.flatMap_cons

/-- **Escaping is two replacements**: of backslashes, and then of quotes. -/
theorem escapeChars_eq_replaceEach (s : List Char) :
    escapeChars s = replaceEach '"' ['\\', '"'] (replaceEach '\\' ['\\', '\\'] s) := by
  induction s with
  | nil => rfl
  | cons c rest ih =>
    rw [replaceEach_cons]
    by_cases hbackslash : c = '\\'
    · -- neither of the two backslashes is a quote
      subst hbackslash
      simp [escapeChars, replaceEach_cons, ih]
    · by_cases hquote : c = '"'
      · subst hquote
        simp [escapeChars, replaceEach_cons, ih]
      · simp [escapeChars, replaceEach_cons, hbackslash, hquote, ih]

/-- In the other order a quote is put behind two backslashes, and closes the literal too early. -/
example : closingQuote?
    (replaceEach '\\' ['\\', '\\'] (replaceEach '"' ['\\', '"'] ['"']) ++ ['"']) = some 2 := by
  decide

/-! ## Escaped texts -/

/-- **A literal closes with the quote behind its text.** The first quote after the opening one that
no backslash takes is the one that was put there, whatever comes after it; without the backslashes
that take something, the text before it is the one that was written. So texts that differ are
written differently. -/
theorem literals_close_last :
    (∀ s : String,
      (literal s).toList = '"' :: ((escapeLiteral s).toList ++ ['"']) ∧
        (escapeLiteral s).toList =
          replaceEach '"' ['\\', '"'] (replaceEach '\\' ['\\', '\\'] s.toList) ∧
        (∀ after, closingQuote? ((escapeLiteral s).toList ++ '"' :: after) =
          some (escapeLiteral s).toList.length) ∧
        unescape (escapeLiteral s).toList = s.toList) ∧
      Function.Injective escapeLiteral := by
  have hunescape (s : String) : unescape (escapeLiteral s).toList = s.toList := by
    rw [toList_escapeLiteral]
    exact (closingQuote?_of_readLiteral (readLiteral_escapeChars s.toList [])).2
  refine ⟨fun s => ⟨?_, ?_, fun after => ?_, hunescape s⟩, fun s t h => ?_⟩
  · rw [literal, String.toList_append, String.toList_append]
    rfl
  · rw [toList_escapeLiteral]
    exact escapeChars_eq_replaceEach s.toList
  · rw [toList_escapeLiteral]
    exact (closingQuote?_of_readLiteral (readLiteral_escapeChars s.toList after)).1
  · have hchars : s.toList = t.toList := by rw [← hunescape s, h, hunescape t]
    exact String.toList_injective hchars

end ClientGen.Text
