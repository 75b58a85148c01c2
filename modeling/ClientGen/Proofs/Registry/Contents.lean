import ClientGen.Api
import ClientGen.Proofs.Success

/-!
# What a registry comes to hold

A registry that takes in classes ends up with its own classes and the new ones, each as often as it
was there or came in, in the order of their names. `Registry.Extends` says so of two registries and
the classes that came in between; it holds of entering one class, `extends_of_enter`, and of
entering one class after the other, `extends_of_foldlM_enter`.
-/

namespace ClientGen

/-- Putting a class in its place adds it, and neither drops nor repeats another. -/
theorem Class.perm_insertInto (c : Class) (classes : List Class) :
    (c.insertInto classes).Perm (c :: classes) := by
  induction classes with
  | nil => exact List.Perm.refl _
  | cons d rest ih =>
    rw [insertInto]
    split
    · exact List.Perm.refl _
    · exact (ih.cons d).trans (List.Perm.swap c d rest)

namespace Registry

/-- The second registry holds what the first one holds, and the added classes. -/
def Extends (r : Registry) (added : List Class) (r' : Registry) : Prop :=
  r'.classes.Perm (r.classes ++ added)

variable {r r' r'' : Registry} {c : Class} {added more : List Class}

theorem Extends.refl (r : Registry) : r.Extends [] r := by
  rw [Extends, List.append_nil]

theorem Extends.trans (h : r.Extends added r') (h' : r'.Extends more r'') :
    r.Extends (added ++ more) r'' := by
  have hadded := List.Perm.append_right more h
  rw [List.append_assoc] at hadded
  exact List.Perm.trans h' hadded

/-- What the empty registry becomes holds the added classes. -/
theorem Extends.perm_of_empty (h : empty.Extends added r') : r'.classes.Perm added :=
  h

/-- A class is registered exactly if its simple name is free. -/
theorem register_eq_ok :
    r.register c = .ok r' ↔
      (∀ d ∈ r.classes, d.simpleName ≠ c.simpleName) ∧ r'.classes = c.insertInto r.classes := by
  unfold register
  split
  · rename_i hfree
    constructor
    · intro h
      cases h
      exact ⟨hfree, rfl⟩
    · rintro ⟨-, h⟩
      obtain ⟨classes, ordered⟩ := r'
      cases h
      rfl
  · rename_i htaken
    constructor
    · intro h
      cases h
    · rintro ⟨hfree, -⟩
      exact absurd hfree htaken

theorem extends_of_register (h : r.register c = .ok r') : r.Extends [c] r' := by
  obtain ⟨-, hclasses⟩ := register_eq_ok.1 h
  rw [Extends, hclasses]
  exact (c.perm_insertInto r.classes).trans (List.perm_append_singleton c r.classes).symm

theorem extends_of_enter (h : (r.enter c).result = .ok r') : r.Extends [c] r' := by
  unfold enter at h
  cases hc : r.register c with
  | error e => rw [hc] at h; cases h
  | ok entered =>
    rw [hc] at h
    rw [Traced.report_bind_result, Traced.pure_result_eq_ok] at h
    exact h ▸ extends_of_register hc

/-- Classes that are entered one after the other are all there in the end. -/
theorem extends_of_foldlM_enter {cs : List Class} (h : (cs.foldlM enter r).result = .ok r') :
    r.Extends cs r' := by
  induction cs generalizing r with
  | nil =>
    rw [List.foldlM_nil, Traced.pure_result_eq_ok] at h
    exact h ▸ Extends.refl r
  | cons c rest ih =>
    rw [List.foldlM_cons] at h
    obtain ⟨entered, hc, h⟩ := Traced.bind_result_eq_ok.1 h
    exact (extends_of_enter hc).trans (ih h)

end Registry

end ClientGen
