import ClientGen.Declaration
import ClientGen.Error

/-!
# The registry of models

The models of one API, in the order of their simple names. No two have the same one: registering a
class under a name that is taken fails, and the class that was there first stays.
-/

namespace ClientGen

/-! ## Classes in order -/

/-- The simple name of a class. -/
abbrev Class.simpleName (c : Class) : String :=
  c.name.simpleName

/-- Puts a class among classes that are in the order of their simple names. -/
def Class.insertInto (c : Class) : List Class → List Class
  | [] => [c]
  | d :: rest => if c.simpleName < d.simpleName then c :: d :: rest else d :: c.insertInto rest

theorem Class.mem_insertInto {c d : Class} {classes : List Class} :
    d ∈ c.insertInto classes ↔ d = c ∨ d ∈ classes := by
  induction classes with
  | nil => simp [insertInto]
  | cons e rest ih =>
    simp only [insertInto]
    split
    · simp
    · simp only [List.mem_cons, ih]
      exact ⟨fun h => by rcases h with h | h | h <;> simp [h],
        fun h => by rcases h with h | h | h <;> simp [h]⟩

theorem Class.pairwise_insertInto {c : Class} {classes : List Class}
    (h : classes.Pairwise fun a b => a.simpleName < b.simpleName)
    (hc : ∀ d ∈ classes, d.simpleName ≠ c.simpleName) :
    (c.insertInto classes).Pairwise fun a b => a.simpleName < b.simpleName := by
  induction classes with
  | nil => simp [insertInto]
  | cons d rest ih =>
    obtain ⟨hd, hrest⟩ := List.pairwise_cons.1 h
    simp only [insertInto]
    split
    case isTrue hlt =>
      refine List.pairwise_cons.2 ⟨fun e he => ?_, h⟩
      rcases List.mem_cons.1 he with rfl | he
      · exact hlt
      · exact String.lt_trans hlt (hd e he)
    case isFalse hlt =>
      refine List.pairwise_cons.2
        ⟨fun e he => ?_, ih hrest fun e he => hc e (List.mem_cons_of_mem _ he)⟩
      rcases Class.mem_insertInto.1 he with rfl | he
      · exact Std.lt_of_le_of_ne (String.not_lt.1 hlt) (hc d List.mem_cons_self)
      · exact hd e he

/-! ## The registry -/

/-- The models of an API, in strictly increasing order of their simple names. -/
structure Registry where
  classes : List Class := []
  ordered : classes.Pairwise fun a b => a.simpleName < b.simpleName := by exact List.Pairwise.nil

namespace Registry

/-- The registry of no models. -/
def empty : Registry := {}

instance : Inhabited Registry := ⟨empty⟩

/-- The model with the given simple name. -/
def get? (r : Registry) (name : String) : Option Class :=
  r.classes.find? (·.simpleName == name)

/-- The number of models. -/
def size (r : Registry) : Nat :=
  r.classes.length

/-- There are no models. -/
def isEmpty (r : Registry) : Bool :=
  r.classes.isEmpty

/-- The registry with one more model, unless its name is taken. -/
def register (r : Registry) (c : Class) : Except Error Registry :=
  if h : ∀ d ∈ r.classes, d.simpleName ≠ c.simpleName then
    .ok ⟨c.insertInto r.classes, Class.pairwise_insertInto r.ordered h⟩
  else .error (.duplicateType c.name.dotted)

end Registry

end ClientGen
