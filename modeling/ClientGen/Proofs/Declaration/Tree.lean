import ClientGen.Api

/-!
# The declarations inside a declaration

Classes are trees of declarations. `DeclarationOf.all` lists a declaration with everything nested in
it, to any depth, and `DeclarationOf.mentioned` the names that a declaration uses itself: in the
types of its fields and parameters, in its super type, in what its constructors pass on and in what
its factories return.

* `forall_mem_all` — something holds of all declarations in a tree if it holds of the topmost one
  and in all trees directly nested in it; `induction` proves it so.
* `Sound` — a declaration uses known names only and owns what is nested in it; a whole tree of these
  is what generation has to produce.
-/

namespace ClientGen

/-! ## Everything in a declaration -/

mutual

/-- Everything nested in a class, to any depth. -/
def Class.inside : Class → List Declaration
  | ⟨_, _, _, _, _, _, _, _, _, nested⟩ => DeclarationOf.allOf nested

/-- A declaration with everything nested in it, each before what is nested in it. -/
def DeclarationOf.all : DeclarationOf Class → List Declaration
  | .ofClass c => .ofClass c :: Class.inside c
  | .ofEnum e => [.ofEnum e]

/-- Declarations with everything nested in them. -/
def DeclarationOf.allOf : List (DeclarationOf Class) → List Declaration
  | [] => []
  | d :: rest => DeclarationOf.all d ++ DeclarationOf.allOf rest

end

namespace DeclarationOf

theorem allOf_eq_flatMap (ds : List Declaration) : allOf ds = ds.flatMap all := by
  induction ds with
  | nil => rfl
  | cons d rest ih => rw [allOf, ih, List.flatMap_cons]

theorem all_eq (d : Declaration) : d.all = d :: d.nested.flatMap all := by
  cases d with
  | ofClass c =>
    obtain ⟨name, kind, documentation, typeParameters, superType, constants, fields, constructors,
      factories, nested⟩ := c
    rw [all, Class.inside, allOf_eq_flatMap]
    rfl
  | ofEnum e => rfl

/-- What holds of everything in a declaration, holds of it and in what is directly nested in it. -/
theorem forall_mem_all {Q : Declaration → Prop} {d : Declaration} :
    (∀ e ∈ d.all, Q e) ↔ Q d ∧ ∀ x ∈ d.nested, ∀ e ∈ x.all, Q e := by
  rw [all_eq]
  constructor
  · intro h
    refine ⟨h d List.mem_cons_self, fun x hx e he => ?_⟩
    exact h e (List.mem_cons_of_mem _ (List.mem_flatMap.2 ⟨x, hx, he⟩))
  · rintro ⟨hd, hnested⟩ e he
    rcases List.mem_cons.1 he with rfl | he
    · exact hd
    · obtain ⟨x, hx, he⟩ := List.mem_flatMap.1 he
      exact hnested x hx e he

/-- What holds of a declaration when it holds of all declarations directly nested in it, holds of
all declarations. -/
@[elab_as_elim]
theorem induction {P : Declaration → Prop}
    (node : ∀ d : Declaration, (∀ x ∈ d.nested, P x) → P d) (d : Declaration) : P d := by
  refine Class.rec_2
    (motive_1 := fun c => P (.ofClass c))
    (motive_2 := fun ds => ∀ x ∈ ds, P x)
    (motive_3 := P)
    ?fields ?nil ?cons ?ofClass ?ofEnum d
  case fields =>
    intro name kind documentation typeParameters superType constants fields constructors factories
      nested ih
    exact node _ ih
  case nil => intro x hx; cases hx
  case cons =>
    intro head tail hhead htail x hx
    rcases List.mem_cons.1 hx with rfl | hx
    · exact hhead
    · exact htail x hx
  case ofClass => intro c ih; exact ih
  case ofEnum => intro e; exact node _ (by intro x hx; cases hx)

end DeclarationOf

/-- Everything declared for an API. -/
def Api.declarations (a : Api) : List Declaration :=
  a.topLevel.flatMap fun c => DeclarationOf.all (.ofClass c)

/-! ## Names in use -/

mutual

/-- The names in a type, also in its items, values and arguments. -/
def TypeRef.names : TypeRef → List QualifiedName
  | .named name => [name]
  | .list item => TypeRef.names item
  | .map value => TypeRef.names value
  | .applied raw args => TypeRef.names raw ++ TypeRef.namesOf args
  | .runtime _ | .primitive _ | .variable _ | .void => []

/-- The names in types. -/
def TypeRef.namesOf : List TypeRef → List QualifiedName
  | [] => []
  | type :: rest => TypeRef.names type ++ TypeRef.namesOf rest

end

/-- The names in what a constructor passes on. -/
def Expr.names : Expr → List QualifiedName
  | .type literal => literal.names
  | _ => []

/-- The names in a step of a constructor. -/
def Statement.names : Statement → List QualifiedName
  | .forward args => args.flatMap Expr.names
  | .require .. => []

/-- The names in a constructor. -/
def Constructor.names (c : Constructor) : List QualifiedName :=
  c.params.flatMap (·.type.names) ++ c.body.flatMap Statement.names

/-- The names in a factory method. -/
def Factory.names (f : Factory) : List QualifiedName :=
  f.params.flatMap (·.type.names) ++ [f.returns]

/-- The names that a class uses itself. -/
def Class.mentioned (c : Class) : List QualifiedName :=
  c.superType.toList.flatMap TypeRef.names ++ c.fields.flatMap (·.type.names) ++
    c.constructors.flatMap Constructor.names ++ c.factories.flatMap Factory.names

/-- The names that a declaration uses itself; an enum uses none. -/
def DeclarationOf.mentioned : Declaration → List QualifiedName
  | .ofClass c => c.mentioned
  | .ofEnum _ => []

/-! ## Names of nested types -/

/-- The name is that of a type nested directly in the type with the other name: the same package,
and one more segment. -/
def QualifiedName.IsDirectlyIn (inner outer : QualifiedName) : Prop :=
  inner.package = outer.package ∧ ∃ segment, inner.names = outer.names ++ [segment]

theorem QualifiedName.nested_isDirectlyIn (outer : QualifiedName) (segment : String) :
    (outer.nested segment).IsDirectlyIn outer :=
  ⟨package_nested outer segment, segment, names_nested outer segment⟩

/-! ## Sound declarations -/

namespace DeclarationOf

/-- The declaration uses known names only, and everything directly nested in it is named as such. -/
def Sound (Known : QualifiedName → Prop) (d : Declaration) : Prop :=
  (∀ q ∈ d.mentioned, Known q) ∧ ∀ x ∈ d.nested, x.name.IsDirectlyIn d.name

/-- The names of everything in a declaration are known. -/
def Declares (Known : QualifiedName → Prop) (d : Declaration) : Prop :=
  ∀ e ∈ d.all, Known e.name

/-- Everything in a declaration is sound. -/
def AllSound (Known : QualifiedName → Prop) (d : Declaration) : Prop :=
  ∀ e ∈ d.all, e.Sound Known

variable {Known : QualifiedName → Prop}

theorem declares_iff {d : Declaration} :
    d.Declares Known ↔ Known d.name ∧ ∀ x ∈ d.nested, x.Declares Known :=
  forall_mem_all

theorem allSound_iff {d : Declaration} :
    d.AllSound Known ↔ d.Sound Known ∧ ∀ x ∈ d.nested, x.AllSound Known :=
  forall_mem_all

theorem allSound_ofEnum (e : Enum) : AllSound Known (.ofEnum e) := by
  rw [allSound_iff]
  constructor
  · constructor
    · intro q hq
      cases hq
    · intro x hx
      cases hx
  · intro x hx
    cases hx

end DeclarationOf

end ClientGen
