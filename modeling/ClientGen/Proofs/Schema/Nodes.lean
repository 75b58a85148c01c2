import ClientGen.Resolution

/-!
# The schemas inside a schema

A schema is a tree: below it stand the schemas of its properties, of its additional properties and
of its items. `Schema.induction` proves a property of all schemas from the schemas directly below,
`Schema.references` lists the targets that are referred to anywhere in a schema, and `Schema.visits`
lists the schemas that resolving comes by, each with the scope that it is resolved in.

* `mem_references` — where a target that is referred to can stand.
* `descent_array`, `descent_model`, `descent_nestedClass`, `descent_map`, `descent_of_scalar` —
  where the visit goes from each kind of schema; `visits_array` and so on — what it comes by.
-/

namespace ClientGen

namespace Schema

/-! ## Induction -/

/-- What holds of a schema when it holds of all schemas directly below it, holds of all schemas. -/
@[elab_as_elim]
theorem induction {P : Schema → Prop}
    (node : ∀ s : Schema,
      (∀ entries, s.properties = some entries → ∀ e ∈ entries, P e.2) →
      (∀ value, s.additionalProperties = some value → P value) →
      (∀ items, s.items = some items → P items) → P s)
    (s : Schema) : P s := by
  refine Schema.rec
    (motive_1 := P)
    (motive_2 := fun properties => ∀ entries, properties = some entries → ∀ e ∈ entries, P e.2)
    (motive_3 := fun below => ∀ inner, below = some inner → P inner)
    (motive_4 := fun entries => ∀ e ∈ entries, P e.2)
    (motive_5 := fun e => P e.2)
    ?schema ?noProperties ?properties ?noInner ?inner ?nil ?cons ?entry s
  case schema =>
    intro id reference type description format properties additional items required values
      descriptions hproperties hadditional hitems
    exact node _ hproperties hadditional hitems
  case noProperties => intro entries h; cases h
  case properties => intro val ih entries h; cases h; exact ih
  case noInner => intro inner h; cases h
  case inner => intro val ih inner h; cases h; exact ih
  case nil => intro e he; cases he
  case cons =>
    intro head tail hhead htail e he
    rcases List.mem_cons.1 he with rfl | he
    · exact hhead
    · exact htail e he
  case entry => intro key s ih; exact ih

/-! ## References -/

mutual

/-- The targets that a schema refers to, at its top or anywhere below. -/
def references : Schema → List String
  | ⟨_, reference, _, _, _, properties, additional, items, _, _, _⟩ =>
    reference.toList ++ referencesOfProperties properties ++ referencesInside additional ++
      referencesInside items

/-- The targets that the schemas of properties refer to. -/
def referencesOfProperties : Option (List (String × Schema)) → List String
  | none => []
  | some entries => referencesOfEntries entries

/-- The targets that a schema refers to, if there is one. -/
def referencesInside : Option Schema → List String
  | none => []
  | some s => references s

/-- The targets that the schemas of a map refer to. -/
def referencesOfEntries : List (String × Schema) → List String
  | [] => []
  | (_, s) :: rest => references s ++ referencesOfEntries rest

end

theorem mem_referencesOfEntries {target : String} {entries : List (String × Schema)} :
    target ∈ referencesOfEntries entries ↔ ∃ e ∈ entries, target ∈ e.2.references := by
  induction entries with
  | nil => simp [referencesOfEntries]
  | cons e rest ih => simp [referencesOfEntries, ih]

/-- What a schema refers to, it refers to at its top, in a property, or further inside. -/
theorem mem_references {s : Schema} {target : String} :
    target ∈ s.references ↔ s.reference = some target ∨
      (∃ entries, s.properties = some entries ∧ ∃ e ∈ entries, target ∈ e.2.references) ∨
      (∃ value, s.additionalProperties = some value ∧ target ∈ value.references) ∨
      ∃ items, s.items = some items ∧ target ∈ items.references := by
  obtain ⟨id, reference, tag, text, format, properties, additional, items, required, values,
    texts⟩ := s
  have hproperties : target ∈ referencesOfProperties properties ↔
      ∃ entries, properties = some entries ∧ ∃ e ∈ entries, target ∈ e.2.references := by
    cases properties with
    | none => simp [referencesOfProperties]
    | some entries => simp [referencesOfProperties, mem_referencesOfEntries]
  have hinside (inner : Option Schema) : target ∈ referencesInside inner ↔
      ∃ s, inner = some s ∧ target ∈ s.references := by
    cases inner with
    | none => simp [referencesInside]
    | some s => simp [referencesInside]
  rw [references, List.mem_append, List.mem_append, List.mem_append, hproperties, hinside, hinside,
    Option.mem_toList, or_assoc, or_assoc]

end Schema

/-! ## Visits -/

/-- A schema in the place where it is used. -/
structure Site where
  scope : Scope
  schema : Schema

/-- Where a visit goes on below a schema. -/
inductive Descent
  | nowhere
  | items
  /-- To the properties of a type that has this name. -/
  | properties (owner : Option QualifiedName)
  | additional

namespace Schema

/-- Where the visit of a schema goes on: from an array to its items, from an object with an id to
its properties, from an object without one to its properties if it has them and a field holds it,
and otherwise to its additional properties. A reference is never followed. -/
def descent (package : List String) (scope : Scope) (s : Schema) : Descent :=
  match s.kind with
  | .array => .items
  | .object =>
    match s.id, scope.hint, s.properties with
    | some id, _, _ => .properties (some (.topLevel package id))
    | none, some hint, some _ => .properties (scope.enclosing.map (·.nested hint.typeName))
    | none, _, _ => .additional
  | _ => .nowhere

mutual

/-- The schemas that resolving comes by, each before those below it. -/
def visits (package : List String) (scope : Scope) : Schema → List Site
  | s@⟨_, _, _, _, _, properties, additional, items, _, _, _⟩ =>
    ⟨scope, s⟩ ::
      match s.descent package scope with
      | .nowhere => []
      | .items => visitsInside package scope items
      | .properties owner => visitsOfProperties package owner properties
      | .additional => visitsInside package scope additional

/-- The visits of the properties of a type. -/
def visitsOfProperties (package : List String) (owner : Option QualifiedName) :
    Option (List (String × Schema)) → List Site
  | none => []
  | some entries => visitsOfEntries package owner entries

/-- The visits of a schema, if there is one. -/
def visitsInside (package : List String) (scope : Scope) : Option Schema → List Site
  | none => []
  | some s => visits package scope s

/-- The visits of a map of properties. -/
def visitsOfEntries (package : List String) (owner : Option QualifiedName) :
    List (String × Schema) → List Site
  | [] => []
  | (key, property) :: rest =>
    visits package ⟨some ⟨key⟩, owner⟩ property ++ visitsOfEntries package owner rest

end

variable {package : List String} {scope : Scope} {s : Schema}

/-- The schema itself, then what is below it. -/
theorem visits_eq (package : List String) (scope : Scope) (s : Schema) :
    s.visits package scope = ⟨scope, s⟩ ::
      match s.descent package scope with
      | .nowhere => []
      | .items => visitsInside package scope s.items
      | .properties owner => visitsOfProperties package owner s.properties
      | .additional => visitsInside package scope s.additionalProperties := by
  obtain ⟨id, reference, tag, text, format, properties, additional, items, required, values,
    texts⟩ := s
  unfold visits
  split <;> rfl

theorem visitsOfEntries_eq_flatMap (owner : Option QualifiedName)
    (entries : List (String × Schema)) :
    visitsOfEntries package owner entries =
      entries.flatMap fun e => e.2.visits package ⟨some ⟨e.1⟩, owner⟩ := by
  induction entries with
  | nil => rfl
  | cons e rest ih => rw [List.flatMap_cons, visitsOfEntries, ih]

theorem visitsOfProperties_eq_flatMap (owner : Option QualifiedName)
    (properties : Option (List (String × Schema))) :
    visitsOfProperties package owner properties =
      (properties.getD []).flatMap fun e => e.2.visits package ⟨some ⟨e.1⟩, owner⟩ := by
  cases properties with
  | none => rfl
  | some entries => exact visitsOfEntries_eq_flatMap owner entries

theorem visitsInside_eq_flatMap (inner : Option Schema) :
    visitsInside package scope inner = inner.toList.flatMap fun s => s.visits package scope := by
  cases inner with
  | none => rfl
  | some s => exact (List.append_nil _).symm

/-! ### Where the visit goes -/

section

variable (package : List String) (scope : Scope)

theorem descent_array (hk : s.kind = .array) : s.descent package scope = .items := by
  rw [descent, hk]

theorem descent_model {id : String} (hk : s.kind = .object) (hid : s.id = some id) :
    s.descent package scope = .properties (some (.topLevel package id)) := by
  rw [descent, hk, hid]

theorem descent_nestedClass {hint : Identifier} {enclosing : QualifiedName}
    (hk : s.kind = .object) (hid : s.id = none) (hh : scope.hint = some hint)
    (he : scope.enclosing = some enclosing) (hp : s.properties.isSome) :
    s.descent package scope = .properties (some (enclosing.nested hint.typeName)) := by
  obtain ⟨entries, hp⟩ := Option.isSome_iff_exists.1 hp
  rw [descent, hk, hid, hh, hp, he]
  rfl

theorem descent_map (hk : s.kind = .object) (hid : s.id = none)
    (hnone : scope.hint = none ∨ s.properties = none) :
    s.descent package scope = .additional := by
  rw [descent, hk, hid]
  rcases hnone with hh | hp
  · rw [hh]
  · rw [hp]
    cases scope.hint <;> rfl

/-- Every other kind of schema has nothing below it. -/
theorem descent_of_scalar (ha : s.kind ≠ .array) (ho : s.kind ≠ .object) :
    s.descent package scope = .nowhere := by
  unfold descent
  split
  · contradiction
  · contradiction
  · rfl

end

theorem visits_array {items : Schema} (hk : s.kind = .array) (hi : s.items = some items) :
    s.visits package scope = ⟨scope, s⟩ :: items.visits package scope := by
  rw [visits_eq, descent_array package scope hk, hi]
  rfl

theorem visits_model {id : String} (hk : s.kind = .object) (hid : s.id = some id) :
    s.visits package scope = ⟨scope, s⟩ ::
      (s.properties.getD []).flatMap fun e =>
        e.2.visits package (.field ⟨e.1⟩ (.topLevel package id)) := by
  rw [visits_eq, descent_model package scope hk hid]
  exact congrArg _ (visitsOfProperties_eq_flatMap _ s.properties)

theorem visits_nestedClass {hint : Identifier} {enclosing : QualifiedName}
    {entries : List (String × Schema)} (hk : s.kind = .object) (hid : s.id = none)
    (hh : scope.hint = some hint) (he : scope.enclosing = some enclosing)
    (hp : s.properties = some entries) :
    s.visits package scope = ⟨scope, s⟩ ::
      entries.flatMap fun e =>
        e.2.visits package (.field ⟨e.1⟩ (enclosing.nested hint.typeName)) := by
  rw [visits_eq, descent_nestedClass package scope hk hid hh he (by rw [hp]; rfl), hp]
  exact congrArg _ (visitsOfEntries_eq_flatMap _ entries)

theorem visits_map {value : Schema} (hk : s.kind = .object) (hid : s.id = none)
    (hnone : scope.hint = none ∨ s.properties = none) (ha : s.additionalProperties = some value) :
    s.visits package scope = ⟨scope, s⟩ :: value.visits package scope := by
  rw [visits_eq, descent_map package scope hk hid hnone, ha]
  rfl

theorem visits_of_scalar (ha : s.kind ≠ .array) (ho : s.kind ≠ .object) :
    s.visits package scope = [⟨scope, s⟩] := by
  rw [visits_eq, descent_of_scalar package scope ha ho]

end Schema

end ClientGen
