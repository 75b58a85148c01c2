import ClientGen.Proofs.Registry.Contents
import Mathlib.Data.List.Nodup

/-!
# Registering in any order

Classes are offered to a registry one after the other, and each of them is taken or refused;
`Registry.offerAll` is what is answered, and the registry in the end. The first class of a name is
the one that stays, `get?_offerAll`, and all are taken exactly if no two of them have the same name,
`allTaken_iff`. So if all are taken in one order, they are in every other, and since a registry is
in the order of the names, it ends up as the same one: `registers_in_any_order`.
-/

namespace ClientGen

/-! ## Finding a class -/

/-- A class with a name that is free is found under this name, wherever it was put. -/
theorem Class.find?_insertInto {c : Class} {classes : List Class}
    (hfree : ∀ d ∈ classes, d.simpleName ≠ c.simpleName) (name : String) :
    (c.insertInto classes).find? (·.simpleName == name) =
      if c.simpleName = name then some c else classes.find? (·.simpleName == name) := by
  induction classes with
  | nil =>
    by_cases hname : c.simpleName = name <;> simp [insertInto, hname]
  | cons d rest ih =>
    obtain ⟨hd, hrest⟩ := List.forall_mem_cons.1 hfree
    by_cases hname : c.simpleName = name
    · have hother : d.simpleName ≠ name := hname ▸ hd
      rw [insertInto]
      split <;> simp [hname, hother, ih hrest]
    · rw [insertInto]
      split <;> simp [List.find?_cons, hname, ih hrest]

namespace Registry

variable {r r' : Registry} {c : Class} {name : String}

theorem get?_register (h : r.register c = .ok r') (name : String) :
    r'.get? name = if c.simpleName = name then some c else r.get? name := by
  obtain ⟨hfree, hclasses⟩ := register_eq_ok.1 h
  rw [get?, hclasses, Class.find?_insertInto hfree]
  rfl

/-- A name is taken if there is a class under it. -/
theorem get?_eq_none_iff : r.get? name = none ↔ ∀ d ∈ r.classes, d.simpleName ≠ name := by
  simp [get?]

theorem register_eq_error {e : Error} :
    r.register c = .error e ↔
      (∃ d ∈ r.classes, d.simpleName = c.simpleName) ∧ e = .duplicateType c.name.dotted := by
  unfold register
  split
  · rename_i hfree
    refine iff_of_false ?_ ?_
    · intro h
      cases h
    · rintro ⟨⟨d, hd, hname⟩, -⟩
      exact hfree d hd hname
  · rename_i htaken
    push Not at htaken
    exact ⟨fun h => ⟨htaken, (Except.error.inj h).symm⟩, fun h => h.2 ▸ rfl⟩

/-! ## Offering classes -/

/-- Registers a class in a registry that is kept: if the class is refused, the registry stays as it
is. -/
def offer (r : Registry) (c : Class) : Except Error Unit × Registry :=
  match r.register c with
  | .ok r' => (.ok (), r')
  | .error e => (.error e, r)

/-- Offers classes one after the other, whether or not those before were refused: the answers, and
the registry in the end. -/
def offerAll (r : Registry) : List Class → List (Except Error Unit) × Registry
  | [] => ([], r)
  | c :: rest =>
    let (answer, r') := r.offer c
    let (answers, last) := r'.offerAll rest
    (answer :: answers, last)

/-- No class is refused. -/
def AllTaken (r : Registry) (cs : List Class) : Prop :=
  ∀ answer ∈ (r.offerAll cs).1, answer = .ok ()

theorem offerAll_cons (r : Registry) (c : Class) (rest : List Class) :
    r.offerAll (c :: rest) =
      ((r.offer c).1 :: ((r.offer c).2.offerAll rest).1, ((r.offer c).2.offerAll rest).2) := rfl

theorem offer_of_ok (h : r.register c = .ok r') : r.offer c = (.ok (), r') := by
  rw [offer, h]

theorem offer_of_error {e : Error} (h : r.register c = .error e) : r.offer c = (.error e, r) := by
  rw [offer, h]

/-- A class is refused exactly if its name is taken, and then nothing changes. -/
theorem offer_eq_error {e : Error} :
    r.offer c = (.error e, r') ↔
      (∃ d ∈ r.classes, d.simpleName = c.simpleName) ∧ e = .duplicateType c.name.dotted ∧
        r' = r := by
  rw [← and_assoc, ← register_eq_error]
  cases h : r.register c with
  | ok last => simp [offer_of_ok h]
  | error e' => simp [offer_of_error h, eq_comm]

/-! ## What is there in the end -/

/-- Whether it is taken or refused, a class is there only if none was there before it. -/
theorem get?_offer (r : Registry) (c : Class) (name : String) :
    (r.offer c).2.get? name = (r.get? name).or (if c.simpleName = name then some c else none) := by
  cases h : r.register c with
  | ok r' =>
    rw [offer_of_ok h, get?_register h]
    by_cases hname : c.simpleName = name
    · have hnone : r.get? name = none := get?_eq_none_iff.2 (hname ▸ (register_eq_ok.1 h).1)
      rw [if_pos hname, if_pos hname, hnone, Option.none_or]
    · rw [if_neg hname, if_neg hname, Option.or_none]
  | error e =>
    obtain ⟨⟨d, hd, hname⟩, -⟩ := register_eq_error.1 h
    rw [offer_of_error h]
    by_cases hc : c.simpleName = name
    · have hsome : (r.get? name).isSome := by
        rw [← Option.ne_none_iff_isSome, Ne, get?_eq_none_iff]
        exact fun hfree => hfree d hd (hname.trans hc)
      obtain ⟨found, hfound⟩ := Option.isSome_iff_exists.1 hsome
      rw [hfound, Option.some_or]
    · rw [if_neg hc, Option.or_none]

/-- **The first class of a name stays**: what is found in the end was there, or else it is the first
one that was offered. -/
theorem get?_offerAll (cs : List Class) (r : Registry) (name : String) :
    (r.offerAll cs).2.get? name = (r.get? name).or (cs.find? (·.simpleName == name)) := by
  induction cs generalizing r with
  | nil => exact Option.or_none.symm
  | cons c rest ih =>
    rw [offerAll_cons, ih, get?_offer, Option.or_assoc]
    by_cases hname : c.simpleName = name
    · rw [if_pos hname, Option.some_or, List.find?_cons_of_pos (by simpa using hname)]
    · rw [if_neg hname, Option.none_or, List.find?_cons_of_neg (by simpa using hname)]

/-- Classes that are all taken are all there in the end. -/
theorem AllTaken.extends {cs : List Class} (h : r.AllTaken cs) :
    r.Extends cs (r.offerAll cs).2 := by
  induction cs generalizing r with
  | nil => exact Extends.refl r
  | cons c rest ih =>
    rw [AllTaken, offerAll_cons, List.forall_mem_cons] at h
    cases hc : r.register c with
    | error e =>
      rw [offer_of_error hc] at h
      exact nomatch h.1
    | ok r' =>
      rw [offer_of_ok hc] at h
      rw [offerAll_cons, offer_of_ok hc]
      exact (extends_of_register hc).trans (ih h.2)

/-- No two classes have the same name. -/
theorem nodup_names (r : Registry) : (r.classes.map (·.simpleName)).Nodup := by
  refine List.pairwise_map.2 (r.ordered.imp fun hlt heq => ?_)
  rw [heq] at hlt
  exact String.lt_irrefl _ hlt

/-- **All are taken** exactly if no two have the same name, and no name is taken already. -/
theorem allTaken_iff (cs : List Class) (r : Registry) :
    r.AllTaken cs ↔ ((r.classes ++ cs).map (·.simpleName)).Nodup := by
  induction cs generalizing r with
  | nil =>
    rw [List.append_nil]
    exact iff_of_true (List.forall_mem_nil _) r.nodup_names
  | cons c rest ih =>
    rw [AllTaken, offerAll_cons, List.forall_mem_cons]
    cases hc : r.register c with
    | ok r' =>
      have hclasses : (r'.classes ++ rest).Perm (r.classes ++ c :: rest) := by
        have hadded := List.Perm.append_right rest (extends_of_register hc)
        rwa [List.append_assoc] at hadded
      rw [offer_of_ok hc, ← (hclasses.map _).nodup_iff, ← ih r']
      exact and_iff_right rfl
    | error e =>
      obtain ⟨⟨d, hd, hname⟩, -⟩ := register_eq_error.1 hc
      rw [offer_of_error hc]
      refine iff_of_false (fun h => nomatch h.1) fun hdistinct => ?_
      rw [List.map_append, List.nodup_append] at hdistinct
      refine hdistinct.2.2 d.simpleName (List.mem_map_of_mem hd) c.simpleName ?_ hname
      exact List.mem_map_of_mem List.mem_cons_self

/-! ## Any order -/

/-- What registering classes in a fresh registry comes to. -/
structure RegistersInAnyOrder (cs : List Class) : Prop where
  /-- It succeeds with all of them exactly if no two have the same name. -/
  allTaken_iff : empty.AllTaken cs ↔ (cs.map (·.simpleName)).Nodup
  /-- It succeeds in one order exactly if it does in another. -/
  allTaken_of_perm : ∀ others, cs.Perm others → (empty.AllTaken others ↔ empty.AllTaken cs)
  /-- Then there are the same classes in the end. -/
  classes_of_perm : empty.AllTaken cs → ∀ others, cs.Perm others →
    (empty.offerAll others).2.classes = (empty.offerAll cs).2.classes
  /-- These are the ones that were registered, in the order of their names. -/
  classes : empty.AllTaken cs → (empty.offerAll cs).2.classes.Perm cs ∧
    (empty.offerAll cs).2.classes.Pairwise fun a b => a.simpleName < b.simpleName

theorem allTaken_perm {cs others : List Class} (h : cs.Perm others) :
    r.AllTaken others ↔ r.AllTaken cs := by
  rw [allTaken_iff, allTaken_iff]
  exact ((h.append_left r.classes).map _).nodup_iff.symm

theorem registersInAnyOrder (cs : List Class) : RegistersInAnyOrder cs where
  allTaken_iff := allTaken_iff cs empty
  allTaken_of_perm _ := allTaken_perm
  classes_of_perm h others hothers := by
    have hperm := h.extends.perm_of_empty
    have hperm' := ((allTaken_perm hothers).2 h).extends.perm_of_empty
    have hclasses := hperm'.trans (hothers.symm.trans hperm.symm)
    -- both are in the order of their names, so that there is one way only to have these classes
    refine hclasses.eq_of_pairwise (fun a b _ _ hab hba => ?_) (ordered _) (ordered _)
    exact absurd (String.lt_trans hab hba) (String.lt_irrefl _)
  classes h := ⟨h.extends.perm_of_empty, ordered _⟩

/-- What comes of a class that is refused after others have been offered to a fresh registry. -/
structure KeepsFirst (history : List Class) (c : Class) (e : Error) (r : Registry) : Prop where
  error_eq : e = .duplicateType c.name.dotted
  /-- The registry is as it was, in all that it can be asked for. -/
  registry_eq : r = (empty.offerAll history).2
  /-- Under the name is the first class that was offered with it. -/
  get?_eq : ∃ first, history.find? (·.simpleName == c.simpleName) = some first ∧
    r.get? c.simpleName = some first

theorem keepsFirst {history : List Class} {e : Error}
    (h : (empty.offerAll history).2.offer c = (.error e, r)) : KeepsFirst history c e r := by
  obtain ⟨⟨d, hd, hname⟩, he, rfl⟩ := offer_eq_error.1 h
  have hfound : (empty.offerAll history).2.get? c.simpleName =
      history.find? (·.simpleName == c.simpleName) := get?_offerAll history empty c.simpleName
  have htaken : (empty.offerAll history).2.get? c.simpleName ≠ none :=
    fun hnone => get?_eq_none_iff.1 hnone d hd hname
  obtain ⟨first, hfirst⟩ := Option.ne_none_iff_exists'.1 htaken
  exact ⟨he, rfl, first, hfound ▸ hfirst, hfirst⟩

/-- **Registering in any order.** Classes can be registered in a fresh registry, all of them, exactly
if no two have the same name, whatever the order, and it has no influence on what is there in the
end. Whenever a class is refused, nothing changes, and the first one of its name stays. -/
theorem registers_in_any_order :
    (∀ cs, RegistersInAnyOrder cs) ∧
      ∀ history c e r, (empty.offerAll history).2.offer c = (.error e, r) →
        KeepsFirst history c e r :=
  ⟨registersInAnyOrder, fun _ _ _ _ => keepsFirst⟩

/-- The model of authors. -/
def author : Class := { name := .topLevel ["library"] "Author", kind := .model }

/-- The model of books. -/
def book : Class := { name := .topLevel ["library"] "Book", kind := .model }

/-- Another model with the name of the first one. -/
def authorAgain : Class := { author with documentation := some "Again." }

theorem registers_in_any_order_author :
    empty.AllTaken [book, author] ∧
      (empty.offerAll [author, book]).2.classes = (empty.offerAll [book, author]).2.classes ∧
      ∃ r, (empty.offerAll [author, book]).2.offer authorAgain =
          (.error (.duplicateType "library.Author"), r) ∧
        KeepsFirst [author, book] authorAgain (.duplicateType "library.Author") r := by
  obtain ⟨hany, hkeeps⟩ := registers_in_any_order
  have htaken : empty.AllTaken [book, author] := (hany _).allTaken_iff.2 (by decide)
  have hrefused : (empty.offerAll [author, book]).2.offer authorAgain =
      (.error (.duplicateType "library.Author"), (empty.offerAll [author, book]).2) := rfl
  exact ⟨htaken, (hany _).classes_of_perm htaken _ (List.Perm.swap _ _ _), _, hrefused,
    hkeeps _ _ _ _ hrefused⟩

end Registry

end ClientGen
