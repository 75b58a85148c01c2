import ClientGen.Proofs.Resolution.Visited

/-!
# Why resolving fails

Resolving follows the visit of the schema, so that it fails only if there is an offence on it, and
with the first one: `error?_resolve`.

Which offences are possible depends on the scope. Every schema that a visit comes by is used where
the visit began or as a field of a type, `Schema.scope_of_mem_visits`, so that a type is never
missing around a field if it is not missing from the beginning: `error_of_resolve_field` and
`error_of_resolve_root`.
-/

namespace ClientGen

namespace Resolution

open Traced

variable {package : List String} {scope : Scope} {s : Schema}

/-! ## The first offence counts -/

/-- **The first offence counts.** Resolving fails exactly if the visit of the schema comes by
something that is wrong, and then with what is wrong first. -/
theorem error?_resolve (package : List String) (scope : Scope) (s : Schema) :
    (resolve package scope s).error? = firstOffence? (s.visits package scope) :=
  (follows_resolve s scope).error?_eq

/-- What a schema that cannot be resolved reports is an offence somewhere in it. -/
theorem offence_of_resolve {e : Error} (h : (resolve package scope s).result = .error e) :
    ∃ site ∈ s.visits package scope, site.offence? = some e := by
  rw [← error?_eq_some, error?_resolve] at h
  exact List.exists_of_findSome?_eq_some h

end Resolution

/-! ## Scopes -/

namespace Schema

variable {package : List String} {scope : Scope} {s : Schema}

/-- The visit goes on to the properties of a type that is known, unless a field has no type around
it. -/
theorem owner_of_descent (hscope : scope.hint.isSome → scope.enclosing.isSome)
    {owner : Option QualifiedName} (h : s.descent package scope = .properties owner) :
    ∃ type, owner = some type := by
  unfold descent at h
  split at h
  · cases h
  · split at h
    · cases h
      exact ⟨_, rfl⟩
    · rename_i hint entries hid hh hp
      obtain ⟨enclosing, he⟩ := Option.isSome_iff_exists.1 (hscope (by rw [hh]; rfl))
      rw [he] at h
      cases h
      exact ⟨_, rfl⟩
    · cases h
  · cases h

/-- Every schema that the visit comes by is used where the visit began, or as a field of a type. -/
theorem scope_of_mem_visits (s : Schema) :
    ∀ {scope : Scope}, (scope.hint.isSome → scope.enclosing.isSome) →
      ∀ site ∈ s.visits package scope,
        site.scope = scope ∨ ∃ hint enclosing, site.scope = .field hint enclosing := by
  induction s using Schema.induction with
  | node s hproperties hadditional hitems =>
    intro scope hscope site hsite
    rw [visits_eq] at hsite
    rcases List.mem_cons.1 hsite with rfl | hsite
    · exact .inl rfl
    cases hd : s.descent package scope with
    | nowhere => rw [hd] at hsite; cases hsite
    | items =>
      rw [hd] at hsite
      cases hi : s.items with
      | none => rw [hi] at hsite; cases hsite
      | some items => rw [hi] at hsite; exact hitems items hi hscope site hsite
    | additional =>
      rw [hd] at hsite
      cases ha : s.additionalProperties with
      | none => rw [ha] at hsite; cases hsite
      | some value => rw [ha] at hsite; exact hadditional value ha hscope site hsite
    | properties owner =>
      obtain ⟨type, rfl⟩ := owner_of_descent hscope hd
      rw [hd] at hsite
      cases hp : s.properties with
      | none => rw [hp] at hsite; cases hsite
      | some entries =>
        rw [hp] at hsite
        simp only [visitsOfProperties, visitsOfEntries_eq_flatMap] at hsite
        obtain ⟨e, he, hsite⟩ := List.mem_flatMap.1 hsite
        rcases hproperties entries hp e he (fun _ => rfl) site hsite with h | h
        · exact .inr ⟨_, _, h⟩
        · exact .inr h

end Schema

/-! ## Offences in their scopes -/

namespace Site

variable {s : Schema} {e : Error}

/-- What can be wrong with a schema that a field holds: an object or an array says too little. -/
theorem offence_field {hint : Identifier} {enclosing : QualifiedName}
    (h : offence? ⟨.field hint enclosing, s⟩ = some e) :
    e = .unnamedObject (some hint.wireName) ∨ e = .missingItems (some hint.wireName) := by
  unfold offence? at h
  split at h
  · split at h <;> cases h
    exact .inr rfl
  · split at h
    · cases h
    · unfold objectOffence? at h
      split at h <;> split at h <;> cases h
      · contradiction
      · exact .inl rfl
  · split at h <;> cases h
  · cases h

/-- What can be wrong with a named schema. -/
theorem offence_root (h : offence? ⟨.root, s⟩ = some e) :
    e = .unnamedObject none ∨ e = .unnamedEnum ∨ e = .missingItems none := by
  unfold offence? at h
  split at h
  · split at h <;> cases h
    exact .inr (.inr rfl)
  · split at h
    · cases h
    · unfold objectOffence? at h
      split at h <;> split at h <;> cases h
      · contradiction
      · exact .inl rfl
  · split at h <;> cases h
    exact .inr (.inl rfl)
  · cases h

end Site

namespace Resolution

variable {package : List String} {s : Schema} {e : Error}

/-- A schema that a field holds is refused only where an object or an array in a field says too
little. -/
theorem error_of_resolve_field {hint : Identifier} {enclosing : QualifiedName}
    (h : (resolve package (.field hint enclosing) s).result = .error e) :
    ∃ site ∈ s.visits package (.field hint enclosing), site.offence? = some e ∧
      ∃ field, e = .unnamedObject (some field) ∨ e = .missingItems (some field) := by
  obtain ⟨⟨scope, inner⟩, hsite, hoffence⟩ := offence_of_resolve h
  refine ⟨_, hsite, hoffence, ?_⟩
  rcases Schema.scope_of_mem_visits s (fun _ => rfl) _ hsite with rfl | ⟨hint', enclosing', rfl⟩
  · exact ⟨_, Site.offence_field hoffence⟩
  · exact ⟨_, Site.offence_field hoffence⟩

/-- A named schema is refused for these reasons too, with or without a field around them, or because
no field gives a name to an enum. -/
theorem error_of_resolve_root (h : (resolve package .root s).result = .error e) :
    ∃ site ∈ s.visits package .root, site.offence? = some e ∧
      ((∃ field, e = .unnamedObject field ∨ e = .missingItems field) ∨ e = .unnamedEnum) := by
  obtain ⟨⟨scope, inner⟩, hsite, hoffence⟩ := offence_of_resolve h
  refine ⟨_, hsite, hoffence, ?_⟩
  rcases Schema.scope_of_mem_visits s (by decide) _ hsite with rfl | ⟨hint, enclosing, rfl⟩
  · rcases Site.offence_root hoffence with h | h | h
    · exact .inl ⟨_, .inl h⟩
    · exact .inr h
    · exact .inl ⟨_, .inr h⟩
  · exact .inl ⟨_, Site.offence_field hoffence⟩

end Resolution

end ClientGen
