import ClientGen.Proofs.Declaration.Tree
import ClientGen.Proofs.Description.Tree
import ClientGen.Proofs.Resolution.Emissions

/-!
# What is declared, seen from the visit

Every declaration is made for one of the schemas that a visit comes by, and so for everything that
is nested in it, to any depth. If it depends on that schema alone whether something holds of the
declaration, `Resolution.SeenFrom`, then it holds of everything declared exactly if no schema of the
visit stands against it: `forall_declared_iff`, and `forall_declared_typings` for the fields of a
type taken together.
-/

namespace ClientGen

/-! ## Emissions -/

/-- What holds of all that is declared, holds of models and of nested declarations. -/
theorem Resolved.forall_emitted {P : Declaration → Prop} {r : Resolved} :
    (∀ x ∈ r.emitted, P x.declaration) ↔
      (∀ c ∈ r.topLevel, P (.ofClass c)) ∧ ∀ d ∈ r.nested, P d := by
  constructor
  · intro h
    exact ⟨fun c hc => h _ (mem_topLevel.1 hc), fun d hd => h _ (mem_nested.1 hd)⟩
  · rintro ⟨htop, hnested⟩ (c | d) hx
    · exact htop c (mem_topLevel.2 hx)
    · exact hnested d (mem_nested.2 hx)

/-- The same for the fields of a type taken together. -/
theorem Typing.forall_emitted {P : Declaration → Prop} {ts : List Typing} :
    (∀ t ∈ ts, ∀ x ∈ t.resolved.emitted, P x.declaration) ↔
      (∀ c ∈ topLevel ts, P (.ofClass c)) ∧ ∀ d ∈ nested ts, P d := by
  simp only [Resolved.forall_emitted, topLevel, nested, List.forall_mem_flatMap]
  exact ⟨fun h => ⟨fun t ht => (h t ht).1, fun t ht => (h t ht).2⟩,
    fun h t ht => ⟨h.1 t ht, h.2 t ht⟩⟩

namespace Resolution

variable {package : List String} {P : Declaration → Prop} {Q : Site → Prop}

/-- It can be seen from a schema in its place whether something holds of what is declared for it,
and there is nothing to be seen where nothing is declared. -/
structure SeenFrom (package : List String) (P : Declaration → Prop) (Q : Site → Prop) : Prop where
  /-- Nothing is declared for the schema itself. -/
  bare : ∀ site, Visit.comesOut ([], site) = false → Q site
  /-- An enum is made of a text. -/
  enum : ∀ {scope : Scope} {s : Schema} {name : QualifiedName} {constants : List EnumConstant},
    s.kind = .string → s.bearsEnum → enumConstants? s = some constants →
      (P (.ofEnum ⟨name, none, constants⟩) ↔ Q ⟨scope, s⟩)
  /-- A class is made of an object. -/
  object : ∀ {scope : Scope} {s : Schema} {c : Class} {ts : List Typing}, s.kind = .object →
    s.id.isSome ∨ scope.hint.isSome → (∀ t ∈ ts, t.Valid package c.name) →
      ts.map Typing.entry = s.properties.getD [] → c.nested = Typing.nested ts →
        (P (.ofClass c) ↔ Q ⟨scope, s⟩)

/-- It holds of everything declared for the schema exactly if no schema of the visit stands against
it. -/
def Decided (package : List String) (P : Declaration → Prop) (Q : Site → Prop) (s : Schema) :
    Prop :=
  ∀ scope r, (resolve package scope s).result = .ok r →
    ((∀ x ∈ r.emitted, ∀ d ∈ x.declaration.all, P d) ↔ ∀ site ∈ s.visits package scope, Q site)

/-! ## Fields of a type -/

section

variable {owner : QualifiedName} {ts : List Typing} (hvalid : ∀ t ∈ ts, t.Valid package owner)
  (hts : ∀ t ∈ ts, Decided package P Q t.schema)
include hvalid hts

/-- What the fields of a type need. -/
theorem forall_declared_fields :
    ((∀ c ∈ Typing.topLevel ts, ∀ d ∈ DeclarationOf.all (.ofClass c), P d) ∧
        ∀ x ∈ Typing.nested ts, ∀ d ∈ x.all, P d) ↔
      ∀ site ∈ Keyed.visits package owner (ts.map Typing.entry), Q site := by
  rw [← Typing.forall_emitted (P := fun x => ∀ d ∈ x.all, P d), Keyed.visits, List.flatMap_map]
  simp only [List.forall_mem_flatMap]
  exact forall₂_congr fun t ht => hts t ht _ _ (hvalid t ht)

/-- A class that is made of an object, with the models that its properties need. -/
theorem forall_declared_object {c : Class} {e : Emission} (he : e.declaration = .ofClass c)
    (hnested : c.nested = Typing.nested ts) :
    (∀ x ∈ (Typing.topLevel ts).map .topLevel ++ [e], ∀ d ∈ x.declaration.all, P d) ↔
      P (.ofClass c) ∧ ∀ site ∈ Keyed.visits package owner (ts.map Typing.entry), Q site := by
  have hclass : (∀ d ∈ e.declaration.all, P d) ↔
      P (.ofClass c) ∧ ∀ x ∈ Typing.nested ts, ∀ d ∈ x.all, P d := by
    rw [he, DeclarationOf.forall_mem_all, ← hnested]
    rfl
  rw [List.forall_mem_append, List.forall_mem_map, List.forall_mem_singleton, hclass,
    ← forall_declared_fields hvalid hts, and_left_comm]
  rfl

end

/-! ## All that a schema resolves to -/

/-- **What is declared is decided by the visit**: if it can be seen from single schemas whether
something holds of a declaration, it holds of everything declared, at any depth, exactly if no
schema that the visit comes by stands against it. -/
theorem forall_declared_iff (hseen : SeenFrom package P Q) (s : Schema) :
    Decided package P Q s := by
  induction s using Schema.induction with
  | node s hproperties hadditional hitems =>
    intro scope r h
    have hbelow {ts : List Typing} (hentries : ts.map Typing.entry = s.properties.getD []) :
        ∀ t ∈ ts, Decided package P Q t.schema := by
      intro t ht
      obtain ⟨entries, hp, he⟩ := Typing.mem_properties hentries t ht
      exact hproperties entries hp t.entry he
    have hnothing (ha : s.kind ≠ .array) (ho : s.kind ≠ .object) (he : r.emitted = []) :
        (∀ x ∈ r.emitted, ∀ d ∈ x.declaration.all, P d) ↔
          ∀ site ∈ s.visits package scope, Q site := by
      have hbare : Visit.comesOut ([], ⟨scope, s⟩) = false := by
        rw [Visit.comesOut_here, Site.modelId_eq_none fun hk => absurd hk ho,
          nests_eq_of_scalar h ho, he]
        simp
      rw [he, Schema.visits_of_scalar ha ho, List.forall_mem_singleton]
      exact iff_of_true (List.forall_mem_nil _) (hseen.bare _ hbare)
    cases outcome_of_resolve h with
    | reference target hr hk => exact hnothing (by simp [hk]) (by simp [hk]) rfl
    | primitive type ha ho => exact hnothing ha ho rfl
    | void ha ho => exact hnothing ha ho rfl
    | enum hint enclosing constants hk hh he hc =>
      have hbears : s.bearsEnum = true := by
        rw [resolve_eq, hk] at h
        exact bearsEnum_eq_of_resolveText h
      rw [Schema.visits_of_scalar (by simp [hk]) (by simp [hk]), List.forall_mem_singleton,
        List.forall_mem_singleton, ← hseen.enum hk hbears hc]
      exact List.forall_mem_singleton
    | list items item hk hi hitem =>
      have hbare : Visit.comesOut ([], ⟨scope, s⟩) = false := by
        simp [Visit.comesOut_here, Site.modelId, Site.nests, hk]
      rw [Schema.visits_array hk hi, List.forall_mem_cons, hitems items hi scope item hitem]
      exact (and_iff_right (hseen.bare _ hbare)).symm
    | map values value hk hid hnone ha hvalue =>
      have hbare : Visit.comesOut ([], ⟨scope, s⟩) = false := by
        rcases hnone with hh | hp
        · simp [Visit.comesOut_here, Site.modelId, Site.nests, hk, hid, hh]
        · simp [Visit.comesOut_here, Site.modelId, Site.nests, hk, hid, hp]
      rw [Schema.visits_map hk hid hnone ha, List.forall_mem_cons,
        hadditional values ha scope value hvalue]
      exact (and_iff_right (hseen.bare _ hbare)).symm
    | model id documentation ts hk hid hts hentries =>
      rw [forall_declared_object hts (hbelow hentries) rfl rfl, Schema.visits_model hk hid,
        List.forall_mem_cons, hseen.object hk (.inl (by rw [hid]; rfl)) hts hentries rfl, hentries]
      rfl
    | nestedClass hint enclosing ts hk hid hh he hts hentries =>
      have hproperty : ts.map Typing.entry = s.properties.getD [] := by rw [hentries]; rfl
      rw [forall_declared_object hts (hbelow hproperty) rfl rfl,
        Schema.visits_nestedClass hk hid hh he hentries, List.forall_mem_cons,
        hseen.object hk (.inr (by rw [hh]; rfl)) hts hproperty rfl]
      rfl

end Resolution

end ClientGen
