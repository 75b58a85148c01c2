import ClientGen.Proofs.Api.Methods
import ClientGen.Proofs.Api.Origin
import ClientGen.Proofs.Resolution.Emissions
import ClientGen.Proofs.Resolution.Warnings

/-!
# The schemas that models and enums are made of

A model or an enum of a generated API, however deep it is nested, is what resolving emits for one of
the schemas that generation comes by. `declaredAt_or_service` says so of the whole API:
a declaration that is not made of such a schema is a class that stands for no values.

It is proved of one emission first, with everything nested in it, `Site.Emits.declaredAt`. What
services have nested in them comes from their parameters or are services again, so that the rest is
an induction on what is nested in a declaration.
-/

namespace ClientGen

open Generation Component

variable {package : List String} {sites more : List Site} {e : Declaration}

/-- The declaration is what is declared for one of the schemas. -/
def DeclaredAt (package : List String) (sites : List Site) (e : Declaration) : Prop :=
  ∃ site ∈ sites, ∃ x : Emission, site.Emits package x ∧ x.declaration = e

theorem DeclaredAt.mono (h : DeclaredAt package sites e) (hsub : sites ⊆ more) :
    DeclaredAt package more e := by
  obtain ⟨site, hsite, hx⟩ := h
  exact ⟨site, hsub hsite, hx⟩

/-- Each element of the second list has one in the first that it corresponds to. -/
theorem exists_of_forall₂ {α β : Type} {R : α → β → Prop} {l : List α} {l' : List β}
    (h : List.Forall₂ R l l') {b : β} (hb : b ∈ l') : ∃ a ∈ l, R a b := by
  induction h with
  | nil => cases hb
  | cons hfirst _ ih =>
    rcases List.mem_cons.1 hb with rfl | hb
    · exact ⟨_, List.mem_cons_self, hfirst⟩
    · obtain ⟨a, ha, hR⟩ := ih hb
      exact ⟨a, List.mem_cons_of_mem _ ha, hR⟩

/-! ## One emission -/

/-- What is on a tour can be visited, and all below it. -/
theorem Site.visits_subset_of_mem_tour {o : Visit.Order} {start : Site} {p : Visit.Route × Site}
    (h : p ∈ start.tour o package) :
    p.2.schema.visits package p.2.scope ⊆ start.schema.visits package start.scope :=
  (Site.mem_tour.1 h).visits_subset

theorem Site.self_mem_visits (site : Site) : site ∈ site.schema.visits package site.scope := by
  rw [Site.visits_eq]
  exact List.mem_cons_self

/-- What is nested in a class is declared for schemas below the one that the class is made of. -/
theorem Site.Emits.exists_of_mem_nested {site : Site} {x : Emission} (h : site.Emits package x)
    {d : Declaration} (hd : d ∈ x.declaration.nested) :
    ∃ below : Site, below.Emits package (.nested d) ∧
      below.schema.visits package below.scope ⊆ site.schema.visits package site.scope := by
  obtain ⟨p, hp, hemits⟩ : ∃ p ∈ site.inner package, p.2.Emits package (.nested d) := by
    cases h with
    | model _ _ _ hnested => exact exists_of_forall₂ hnested hd
    | nestedClass _ _ _ _ _ _ hnested => exact exists_of_forall₂ hnested hd
    | nestedEnum => cases hd
  obtain ⟨n, hn, hp⟩ := List.mem_flatMap.1 hp
  refine ⟨p.2, hemits, ?_⟩
  have hbelow := Site.visits_subset_of_mem_tour (List.mem_filter.1 hp).1
  exact List.Subset.trans hbelow (Site.Reaches.there hn (.here n.2)).visits_subset

/-- **An emission**, with everything nested in it, is declared for schemas that the visit comes by.
-/
theorem Site.Emits.declaredAt {site : Site} {x : Emission} (h : site.Emits package x) :
    ∀ e ∈ x.declaration.all, DeclaredAt package (site.schema.visits package site.scope) e := by
  generalize hd : x.declaration = d
  induction d using DeclarationOf.induction generalizing site x with
  | node d ih =>
    subst hd
    refine DeclarationOf.forall_mem_all.2 ⟨⟨site, site.self_mem_visits, x, h, rfl⟩, ?_⟩
    intro y hy e he
    obtain ⟨below, hemits, hsub⟩ := h.exists_of_mem_nested hy
    exact (ih y hy hemits rfl e he).mono hsub

theorem declaredAt_of_resolve {scope : Scope} {s : Schema} {r : Resolved}
    (h : (Resolution.resolve package scope s).result = .ok r) {x : Emission} (hx : x ∈ r.emitted) :
    ∀ e ∈ x.declaration.all, DeclaredAt package (s.visits package scope) e := by
  obtain ⟨p, hp, hemits⟩ := exists_of_forall₂ (Resolution.emits_of_resolve s h) hx
  intro e he
  exact (hemits.declaredAt e he).mono (Site.visits_subset_of_mem_tour (List.mem_filter.1 hp).1)

/-! ## Parameters -/

/-- What parameters need, nested in the class or beside it. -/
theorem declaredAt_of_typed {owner : QualifiedName} {parameters : Keyed Schema}
    (h : parameters.Resolve package owner) {t : Typing} (ht : t ∈ parameters.typed package owner)
    {x : Emission} (hx : x ∈ t.resolved.emitted) :
    ∀ e ∈ x.declaration.all, DeclaredAt package (parameters.visits package owner) e := by
  intro e he
  refine (declaredAt_of_resolve (h t ht) hx e he).mono fun site hsite => ?_
  obtain ⟨entry, hentry, rfl⟩ := List.mem_map.1 ht
  exact List.mem_flatMap.2 ⟨entry, hentry, hsite⟩

/-! ## Services -/

/-- The declaration is a class that stands for no values. -/
def DeclarationOf.IsService (e : Declaration) : Prop :=
  ∃ c, e = .ofClass c ∧ c.kind ≠ .model

variable {n : Naming} {d : Description} {api : Api}

/-- Generation comes by a schema below the named ones, the parameters of the API, or those of a
method. -/
theorem Description.mem_visits {site : Site} : site ∈ d.visits n ↔
    (∃ s ∈ d.schemas, site ∈ s.2.visits n.modelPackage .root) ∨
      site ∈ d.parameters.visits n.modelPackage n.request ∨
        ∃ m ∈ d.tree.methodSites n.client,
          site ∈ m.method.requiredParameters.visits n.modelPackage m.type ∨
            site ∈ m.method.optionalParameters.visits n.modelPackage m.type := by
  simp only [Description.visits, Method.callParameters_eq, Keyed.visits_append, List.mem_append,
    List.mem_flatMap, or_assoc]

/-- What is nested in a class with components is a service. -/
theorem isService_of_mem_nestAll {c : Class} (hc : c.nested = []) {owner : QualifiedName}
    {node : Resource} {y : Declaration}
    (hy : y ∈ (Draft.nestAll (components n owner node) c).nested) : y.IsService := by
  have hnested : y ∈ c.nested ++ (components n owner node).map fun part => .ofClass part.finish :=
    hy
  rw [hc, List.nil_append] at hnested
  obtain ⟨part, hpart, rfl⟩ := List.mem_map.1 hnested
  obtain ⟨methods, resources⟩ := node
  refine ⟨part.finish, rfl, ?_⟩
  rcases mem_components.1 hpart with ⟨m, -, rfl⟩ | ⟨r, -, rfl⟩ <;> exact ClassKind.noConfusion

/-- What a service has nested in it, is made of schemas or is a service. -/
theorem declaredAt_or_service_inside (h : d.Generates n api) (e : Declaration) :
    AllFrom n d e → e.IsService →
      ∀ x ∈ e.all, DeclaredAt n.modelPackage (d.visits n) x ∨ x.IsService := by
  induction e using DeclarationOf.induction with
  | node e ih =>
    intro hfrom hservice
    obtain ⟨horigin, hinside⟩ := allFrom_iff.1 hfrom
    refine DeclarationOf.forall_mem_all.2 ⟨.inr hservice, fun y hy => ?_⟩
    -- what is nested in the class of a method comes from its parameters
    have hparameters {parameters : Keyed Schema} {owner : QualifiedName}
        (hresolve : parameters.Resolve n.modelPackage owner)
        (hsub : parameters.visits n.modelPackage owner ⊆ d.visits n)
        (hy : y ∈ Typing.nested (parameters.typed n.modelPackage owner)) :
        ∀ x ∈ y.all, DeclaredAt n.modelPackage (d.visits n) x ∨ x.IsService := by
      obtain ⟨t, ht, hy⟩ := Typing.mem_nested.1 hy
      intro x hx
      exact .inl ((declaredAt_of_typed hresolve ht (Resolved.mem_nested.1 hy) x hx).mono hsub)
    cases horigin with
    | schema hschema =>
      obtain ⟨c, rfl, hkind⟩ := hservice
      cases hschema
      exact absurd rfl hkind
    | request =>
      refine hparameters h.parameters (fun x hx => ?_) hy
      exact Description.mem_visits.2 (.inr (.inl hx))
    | client => exact ih y hy (hinside y hy) (isService_of_mem_nestAll rfl hy)
    | method site hsite =>
      have hnested : y ∈ Typing.nested (site.method.requiredParameters.typed n.modelPackage
          site.type) ++ Typing.nested (site.method.optionalParameters.typed n.modelPackage
            site.type) := hy
      rcases List.mem_append.1 hnested with hy | hy
      · refine hparameters (h.methods site hsite).required (fun x hx => ?_) hy
        exact Description.mem_visits.2 (.inr (.inr ⟨site, hsite, .inl hx⟩))
      · refine hparameters (h.methods site hsite).optional (fun x hx => ?_) hy
        exact Description.mem_visits.2 (.inr (.inr ⟨site, hsite, .inr hx⟩))
    | resource => exact ih y hy (hinside y hy) (isService_of_mem_nestAll rfl hy)

/-! ## The whole API -/

/-- With everything nested in them, models are made of schemas. -/
theorem declaredAt_of_model (h : d.Generates n api) {c : Class} (hc : c ∈ api.models) :
    ∀ e ∈ DeclarationOf.all (.ofClass c), DeclaredAt n.modelPackage (d.visits n) e := by
  intro e he
  replace hc := h.models.mem_iff.1 hc
  rw [Description.models, List.mem_append, List.mem_append] at hc
  rcases hc with (hc | hc) | hc
  · obtain ⟨s, hs, hc⟩ := List.mem_flatMap.1 hc
    refine (declaredAt_of_resolve (h.schemas s hs) (Resolved.mem_topLevel.1 hc) e he).mono ?_
    exact fun x hx => Description.mem_visits.2 (.inl ⟨s, hs, hx⟩)
  · obtain ⟨t, ht, hc⟩ := Typing.mem_topLevel.1 hc
    refine (declaredAt_of_typed h.parameters ht (Resolved.mem_topLevel.1 hc) e he).mono ?_
    exact fun x hx => Description.mem_visits.2 (.inr (.inl hx))
  · obtain ⟨t, ht, hc⟩ := Typing.mem_topLevel.1 hc
    obtain ⟨site, hsite, ht⟩ := List.mem_flatMap.1 ht
    have htyped := h.methods site hsite
    rcases List.mem_append.1 ht with ht | ht
    · refine (declaredAt_of_typed htyped.required ht (Resolved.mem_topLevel.1 hc) e he).mono ?_
      exact fun x hx => Description.mem_visits.2 (.inr (.inr ⟨site, hsite, .inl hx⟩))
    · refine (declaredAt_of_typed htyped.optional ht (Resolved.mem_topLevel.1 hc) e he).mono ?_
      exact fun x hx => Description.mem_visits.2 (.inr (.inr ⟨site, hsite, .inr hx⟩))

/-- **Every declaration** that is no service is made of a schema that generation comes by. -/
theorem declaredAt_or_service (h : d.Generates n api) :
    ∀ e ∈ api.declarations, DeclaredAt n.modelPackage (d.visits n) e ∨ e.IsService := by
  intro e he
  obtain ⟨c, hc, hinside⟩ := List.mem_flatMap.1 he
  rcases List.mem_append.1 hc with hmodel | hservice
  · exact .inl (declaredAt_of_model h hmodel e hinside)
  · have hkind : c.kind ≠ .model := by
      rcases List.mem_cons.1 hservice with rfl | hclient
      · rw [h.request]
        exact ClassKind.noConfusion
      · rw [List.mem_singleton.1 hclient, h.client]
        exact ClassKind.noConfusion
    have hfrom : AllFrom n d (.ofClass c) := fun x hx =>
      origin_of_mem_declarations h x (List.mem_flatMap.2 ⟨c, hc, hx⟩)
    exact declaredAt_or_service_inside h _ hfrom ⟨c, rfl, hkind⟩ e hinside

/-! ## The order of properties -/

theorem Schema.Ordered.properties {s : Schema} (h : s.Ordered) :
    Keyed.Ordered (s.properties.getD []) := by
  obtain ⟨_, properties, -, -, -⟩ := h
  cases hp : s.properties with
  | none => exact List.Pairwise.nil
  | some entries => exact properties entries hp

theorem Site.Reaches.ordered {start site : Site} {route : Visit.Route}
    (h : start.Reaches package route site) (hs : start.schema.Ordered) : site.schema.Ordered := by
  induction h with
  | here => exact hs
  | there hn _ ih => exact ih (Site.ordered_of_mem_next hs hn)

theorem Schema.Ordered.of_mem_visits {s : Schema} {scope : Scope} {site : Site} (h : s.Ordered)
    (hsite : site ∈ s.visits package scope) : site.schema.Ordered := by
  rw [← Site.map_snd_tour_preorder package ⟨scope, s⟩] at hsite
  obtain ⟨p, hp, rfl⟩ := List.mem_map.1 hsite
  exact (Site.mem_tour.1 hp).ordered h

theorem Keyed.ordered_of_mem_visits {parameters : Keyed Schema} {owner : QualifiedName}
    {site : Site} (h : ∀ e ∈ parameters, e.2.Ordered)
    (hsite : site ∈ parameters.visits package owner) : site.schema.Ordered := by
  obtain ⟨e, he, hsite⟩ := List.mem_flatMap.1 hsite
  exact (h e he).of_mem_visits hsite

/-- In a description that is in order, so are the properties of all schemas that generation comes
by. -/
theorem Description.Ordered.of_mem_visits (h : d.Ordered) {site : Site}
    (hsite : site ∈ d.visits n) : site.schema.Ordered := by
  rcases Description.mem_visits.1 hsite with ⟨s, hs, hsite⟩ | hsite | ⟨m, hm, hsite⟩
  · exact (h.schemas.2 s hs).of_mem_visits hsite
  · exact Keyed.ordered_of_mem_visits h.parameters.2 hsite
  · have hparameters := (Resource.parameters_ordered d.tree n.client h.tree m hm).2
    rcases hsite with hsite | hsite
    · exact Keyed.ordered_of_mem_visits
        (fun e he => hparameters e (Keyed.mem_of_mem_select he).1) hsite
    · exact Keyed.ordered_of_mem_visits
        (fun e he => hparameters e (List.mem_filter.1 he).1) hsite

end ClientGen
