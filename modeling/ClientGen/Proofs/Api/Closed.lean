import ClientGen.Proofs.Api.Generated
import ClientGen.Proofs.Resolution.Closed

/-!
# Generated APIs are closed

Names are made up where schemas are resolved, and the declarations that bear them are put in place
elsewhere: in the class of an object, in the request type, in the class of a method, or among the
models. `closedFor_of_generate` says that the two fit together: whatever is nested in a class is
named after it, and every name in use is that of a declaration in the same API, or of a model that
the description refers to.

The proof supposes that the names of all declarations of the API are known, and shows from the
leaves upwards that nothing else is mentioned.
-/

namespace ClientGen

open Component Generation

variable {Known : QualifiedName → Prop}

/-! ## Components in a class -/

/-- The component is sound, is named after the class it belongs to, and its factory uses known names
only. -/
structure PartSound (Known : QualifiedName → Prop) (owner : QualifiedName) (d : Draft) : Prop where
  sound : DeclarationOf.AllSound Known (.ofClass d.finish)
  named : d.type.name.IsDirectlyIn owner
  factory : ∀ q ∈ d.factory.names, Known q

/-- A sound class in which sound components are nested is sound. -/
theorem allSound_nestAll {c : Class} {parts : List Draft}
    (hc : DeclarationOf.AllSound Known (.ofClass c))
    (hparts : ∀ d ∈ parts, PartSound Known c.name d) :
    DeclarationOf.AllSound Known (.ofClass (Draft.nestAll parts c)) := by
  obtain ⟨⟨hmentioned, hnames⟩, hnested⟩ := DeclarationOf.allSound_iff.1 hc
  have hsplit : ∀ x ∈ DeclarationOf.nested (.ofClass (Draft.nestAll parts c)),
      x ∈ c.nested ∨ ∃ d ∈ parts, .ofClass d.finish = x := by
    intro x hx
    rcases List.mem_append.1 hx with hx | hx
    · exact .inl hx
    · exact .inr (List.mem_map.1 hx)
  refine DeclarationOf.allSound_iff.2 ⟨⟨?_, ?_⟩, ?_⟩
  · intro q hq
    have hq : q ∈ c.mentioned ++ (parts.map Draft.factory).flatMap Factory.names := by
      rw [Class.mentioned, List.append_assoc, ← List.flatMap_append]
      exact hq
    rcases List.mem_append.1 hq with hq | hq
    · exact hmentioned q hq
    · obtain ⟨f, hf, hq⟩ := List.mem_flatMap.1 hq
      obtain ⟨d, hd, rfl⟩ := List.mem_map.1 hf
      exact (hparts d hd).factory q hq
  · intro x hx
    rcases hsplit x hx with hx | ⟨d, hd, rfl⟩
    · exact hnames x hx
    · exact (hparts d hd).named
  · intro x hx
    rcases hsplit x hx with hx | ⟨d, hd, rfl⟩
    · exact hnested x hx
    · exact (hparts d hd).sound

/-- What is nested in a class with components is declared with it. -/
theorem declares_of_nestAll {c : Class} {parts : List Draft}
    (h : DeclarationOf.Declares Known (.ofClass (Draft.nestAll parts c))) :
    ∀ d ∈ parts, DeclarationOf.Declares Known (.ofClass d.finish) := by
  intro d hd
  refine (DeclarationOf.declares_iff.1 h).2 _ (List.mem_append_right _ ?_)
  exact List.mem_map_of_mem hd

/-! ## Methods -/

/-- What holds of a method in its place if everything it needs is known. -/
structure SiteKnown (Known : QualifiedName → Prop) (n : Naming) (site : MethodSite) : Prop where
  typed : site.Typed n
  references : ∀ target ∈ site.method.references, Known (.topLevel n.modelPackage target)
  models : ∀ c ∈ Typing.topLevel (site.typings n), DeclarationOf.Declares Known (.ofClass c)

variable {n : Naming} {site : MethodSite}

theorem mem_references_of_typings {t : Typing} (ht : t ∈ site.typings n) {target : String}
    (h : target ∈ t.schema.references) : target ∈ site.method.references := by
  have hdeclared : ∃ e ∈ site.method.parameters, e.2 = t.schema := by
    rcases List.mem_append.1 ht with ht | ht
    · obtain ⟨e, he, rfl⟩ := List.mem_map.1 ht
      exact ⟨e, (Keyed.mem_of_mem_select he).1, rfl⟩
    · obtain ⟨e, he, rfl⟩ := List.mem_map.1 ht
      exact ⟨e, (List.mem_filter.1 he).1, rfl⟩
  obtain ⟨e, he, hschema⟩ := hdeclared
  refine List.mem_append_left _ (List.mem_append_left _ (List.mem_flatMap.2 ⟨e, he, ?_⟩))
  rw [hschema]
  exact h

/-- The type of the responses is void or one that the method refers to. -/
theorem known_of_responseType (h : SiteKnown Known n site) :
    ∀ q ∈ (responseType n site.method).names, Known q := by
  intro q hq
  rw [responseType] at hq
  cases hresponse : site.method.response with
  | none =>
    rw [hresponse] at hq
    cases hq
  | some target =>
    rw [hresponse] at hq
    cases List.mem_singleton.1 hq
    refine h.references target (List.mem_append_right _ ?_)
    rw [hresponse]
    exact List.mem_cons_self

/-- The type of the body is one that the method refers to. -/
theorem known_of_bodyParam (h : SiteKnown Known n site) :
    ∀ p ∈ (bodyParam n site.method).toList, ∀ q ∈ p.type.names, Known q := by
  intro p hp q hq
  rw [bodyParam] at hp
  cases hrequest : site.method.request with
  | none =>
    rw [hrequest] at hp
    cases hp
  | some target =>
    rw [hrequest] at hp
    cases List.mem_singleton.1 hp
    cases List.mem_singleton.1 hq
    refine h.references target (List.mem_append_left _ (List.mem_append_right _ ?_))
    rw [hrequest]
    exact List.mem_cons_self

theorem SiteKnown.fields (h : SiteKnown Known n site)
    (hnested : ∀ d ∈ Typing.nested (site.typings n), d.Declares Known) :
    (∀ t ∈ site.typings n, ∀ q ∈ t.type.names, Known q) ∧
      (∀ d ∈ Typing.nested (site.typings n), d.AllSound Known ∧ d.name.IsDirectlyIn site.type) ∧
      ∀ c ∈ Typing.topLevel (site.typings n), DeclarationOf.AllSound Known (.ofClass c) :=
  Typing.allSound_of_valid h.typed.valid
    (fun _ ht target htarget => h.references target (mem_references_of_typings ht htarget))
    hnested h.models

/-- The parameters of a method's constructor are its required parameters and its body. -/
theorem known_of_params (h : SiteKnown Known n site)
    (htypes : ∀ t ∈ site.typings n, ∀ q ∈ t.type.names, Known q) :
    ∀ p ∈ (methodSpec n site).params, ∀ q ∈ p.type.names, Known q := by
  intro p hp q hq
  rcases List.mem_append.1 hp with hp | hp
  · obtain ⟨t, ht, rfl⟩ := List.mem_map.1 hp
    exact htypes t (List.mem_append_left _ ht) q hq
  · exact known_of_bodyParam h p hp q hq

/-- Of what a method passes on, only the type of the response has names in it. -/
theorem names_arguments (call : MethodCall) :
    (baseRequest.primary.arguments call).flatMap Expr.names = call.response.names := by
  have hbody : (call.argument .content).names = [] := by
    rw [MethodCall.argument]
    cases call.body with
    | none => rfl
    | some body => rfl
  show [] ++ (call.response.names ++ ([] ++ ([] ++ ((call.argument .content).names ++ [])))) = _
  rw [hbody, List.nil_append, List.nil_append, List.nil_append, List.nil_append, List.append_nil]

theorem names_superType (n : Naming) (site : MethodSite) :
    (methodDraft n site).finish.superType.toList.flatMap TypeRef.names =
      n.request :: (responseType n site.method).names := by
  show [n.request] ++ ((responseType n site.method).names ++ TypeRef.namesOf []) ++ [] = _
  rw [TypeRef.namesOf, List.append_nil, List.append_nil]
  rfl

/-- The names in the constructor of a method. -/
theorem mem_names_constructor {q : QualifiedName} {c : Constructor}
    (hc : c ∈ (methodDraft n site).finish.constructors) (hq : q ∈ c.names) :
    q ∈ (responseType n site.method).names ∨
      ∃ p ∈ (methodSpec n site).params, q ∈ p.type.names := by
  cases List.mem_singleton.1 hc
  rcases List.mem_append.1 hq with hq | hq
  · exact .inr (List.mem_flatMap.1 hq)
  · obtain ⟨statement, hstatement, hq⟩ := List.mem_flatMap.1 hq
    rcases List.mem_append.1 hstatement with hstatement | hstatement
    · cases List.mem_singleton.1 hstatement
      rw [Statement.names, names_arguments] at hq
      exact .inl hq
    · obtain ⟨p, -, rfl⟩ := List.mem_map.1 hstatement
      cases hq

/-- The names that the class of a method uses itself. -/
theorem mem_mentioned_method {q : QualifiedName}
    (hq : q ∈ (methodDraft n site).finish.mentioned) :
    q = n.request ∨ q ∈ (responseType n site.method).names ∨
      (∃ t ∈ site.typings n, q ∈ t.type.names) ∨
      ∃ p ∈ (methodSpec n site).params, q ∈ p.type.names := by
  rw [Class.mentioned, names_superType, List.mem_append, List.mem_append, List.mem_append,
    List.mem_cons] at hq
  rcases hq with (((hq | hq) | hq) | hq) | hq
  · exact .inl hq
  · exact .inr (.inl hq)
  · obtain ⟨f, hf, hq⟩ := List.mem_flatMap.1 hq
    rcases List.mem_append.1 hf with hf | hf
    · obtain ⟨t, ht, rfl⟩ := List.mem_map.1 hf
      exact .inr (.inr (.inl ⟨t, List.mem_append_right _ ht, hq⟩))
    · rw [Draft.paramFields, List.mem_append, List.mem_map, List.mem_map] at hf
      rcases hf with ⟨p, hp, rfl⟩ | ⟨p, hp, rfl⟩
      · exact .inr (.inr (.inr ⟨p, List.mem_append_left _ hp, hq⟩))
      · exact .inr (.inr (.inr ⟨p, List.mem_append_right _ hp, hq⟩))
  · obtain ⟨c, hc, hq⟩ := List.mem_flatMap.1 hq
    rcases mem_names_constructor hc hq with hq | hq
    · exact .inr (.inl hq)
    · exact .inr (.inr (.inr hq))
  · cases hq

/-- Nested in the class of a method is what its parameters need. -/
theorem nested_method (n : Naming) (site : MethodSite) :
    DeclarationOf.nested (.ofClass (methodDraft n site).finish) =
      Typing.nested (site.typings n) :=
  (Typing.nested_append _ _).symm

/-- The component of a method is sound if everything it needs is known. -/
theorem partSound_method {owner : QualifiedName} {key : String} {m : Method}
    (hrequest : Known n.request) (h : SiteKnown Known n ⟨owner.member key, key, m⟩)
    (hdeclares : DeclarationOf.Declares Known
      (.ofClass (methodDraft n ⟨owner.member key, key, m⟩).finish)) :
    PartSound Known owner (methodDraft n ⟨owner.member key, key, m⟩) := by
  obtain ⟨hname, hinside⟩ := DeclarationOf.declares_iff.1 hdeclares
  rw [nested_method] at hinside
  obtain ⟨htypes, hnested, -⟩ := h.fields hinside
  have hparams := known_of_params h htypes
  constructor
  · rw [DeclarationOf.allSound_iff, DeclarationOf.Sound, nested_method]
    refine ⟨⟨?_, fun d hd => (hnested d hd).2⟩, fun d hd => (hnested d hd).1⟩
    · intro q hq
      rcases mem_mentioned_method hq with rfl | hq | ⟨t, ht, hq⟩ | ⟨p, hp, hq⟩
      · exact hrequest
      · exact known_of_responseType h q hq
      · exact htypes t ht q hq
      · exact hparams p hp q hq
  · exact owner.nested_isDirectlyIn _
  · intro q hq
    rcases List.mem_append.1 hq with hq | hq
    · obtain ⟨p, hp, hq⟩ := List.mem_flatMap.1 hq
      exact hparams p hp q hq
    · cases List.mem_singleton.1 hq
      exact hname

/-! ## Resources -/

theorem allSound_of_mentions_nothing {c : Class} (hmentioned : c.mentioned = [])
    (hnested : c.nested = []) : DeclarationOf.AllSound Known (.ofClass c) := by
  have hnothing : DeclarationOf.nested (.ofClass c) = [] := hnested
  refine DeclarationOf.allSound_iff.2 ⟨⟨?_, ?_⟩, ?_⟩
  · intro q hq
    rw [show DeclarationOf.mentioned (.ofClass c) = [] from hmentioned] at hq
    cases hq
  · intro x hx
    rw [hnothing] at hx
    cases hx
  · intro x hx
    rw [hnothing] at hx
    cases hx

/-- The component of a resource is sound if those in it are. -/
theorem partSound_resource {owner : QualifiedName} {key : String} {parts : List Draft}
    (hdeclares : DeclarationOf.Declares Known
      (.ofClass (resourceDraft (owner.member key) key parts).finish))
    (hparts : (∀ d ∈ parts, DeclarationOf.Declares Known (.ofClass d.finish)) →
      ∀ d ∈ parts, PartSound Known (owner.member key) d) :
    PartSound Known owner (resourceDraft (owner.member key) key parts) := by
  have hname := (DeclarationOf.declares_iff.1 hdeclares).1
  constructor
  · rw [finish_resourceDraft] at hdeclares ⊢
    refine allSound_nestAll (allSound_of_mentions_nothing rfl rfl) ?_
    exact hparts (declares_of_nestAll hdeclares)
  · exact owner.nested_isDirectlyIn _
  · intro q hq
    have hq : q ∈ [owner.member key] := hq
    rw [List.mem_singleton.1 hq]
    exact hname

/-- Every component below a node is sound if everything that its methods need is known. -/
theorem partSound_components (hrequest : Known n.request) (node : Resource) :
    ∀ owner, (∀ site ∈ node.methodSites owner, SiteKnown Known n site) →
      (∀ d ∈ components n owner node, DeclarationOf.Declares Known (.ofClass d.finish)) →
      ∀ d ∈ components n owner node, PartSound Known owner d := by
  induction node using Resource.induction with
  | node methods resources ih =>
    intro owner hsites hdeclares d hd
    have hdeclared := hdeclares d hd
    rcases mem_components.1 hd with ⟨e, he, rfl⟩ | ⟨e, he, rfl⟩
    · exact partSound_method hrequest (hsites _ (Resource.mem_methodSites.2 (.inl ⟨e, he, rfl⟩)))
        hdeclared
    · refine partSound_resource hdeclared fun hinside => ih e he (owner.member e.1) ?_ hinside
      intro site hsite
      exact hsites site (Resource.mem_methodSites.2 (.inr ⟨e, he, hsite⟩))

/-- What the components below a node declare, the classes of its methods declare. -/
theorem declares_of_components (node : Resource) :
    ∀ owner, (∀ d ∈ components n owner node, DeclarationOf.Declares Known (.ofClass d.finish)) →
      ∀ site ∈ node.methodSites owner,
        DeclarationOf.Declares Known (.ofClass (methodDraft n site).finish) := by
  induction node using Resource.induction with
  | node methods resources ih =>
    intro owner hdeclares site hsite
    rcases Resource.mem_methodSites.1 hsite with ⟨e, he, rfl⟩ | ⟨e, he, hsite⟩
    · exact hdeclares _ (mem_components.2 (.inl ⟨e, he, rfl⟩))
    · have hdeclared := hdeclares _ (mem_components.2 (.inr ⟨e, he, rfl⟩))
      rw [finish_resourceDraft] at hdeclared
      exact ih e he (owner.member e.1) (declares_of_nestAll hdeclared) site hsite

/-! ## The whole API -/

variable {d : Description} {api : Api}

theorem mem_models_of_site {c : Class} (hsite : site ∈ d.tree.methodSites n.client)
    (hc : c ∈ Typing.topLevel (site.typings n)) : c ∈ d.models n := by
  obtain ⟨t, ht, hc⟩ := Typing.mem_topLevel.1 hc
  refine List.mem_append_right _ (Typing.mem_topLevel.2 ⟨t, ?_, hc⟩)
  exact List.mem_flatMap.2 ⟨site, hsite, ht⟩

theorem mem_references_of_site {owner : QualifiedName} {target : String}
    (hsite : site ∈ d.tree.methodSites owner) (h : target ∈ site.method.references) :
    target ∈ d.references := by
  have hmethod : site.method ∈ d.tree.everyMethod := by
    rw [← Resource.map_method_methodSites d.tree owner]
    exact List.mem_map_of_mem hsite
  exact List.mem_append_right _ (List.mem_flatMap.2 ⟨_, hmethod, h⟩)

/-- The request type mentions the types of its fields only. -/
theorem allSound_requestClass {o : Optionals}
    (hfields : ∀ f ∈ o.fields, ∀ q ∈ f.type.names, Known q)
    (hnested : ∀ x ∈ o.nested, x.AllSound Known ∧ x.name.IsDirectlyIn n.request) :
    DeclarationOf.AllSound Known (.ofClass (requestClass n o)) := by
  refine DeclarationOf.allSound_iff.2 ⟨⟨?_, fun x hx => (hnested x hx).2⟩,
    fun x hx => (hnested x hx).1⟩
  intro q hq
  have hmentioned : (requestClass n o).mentioned = o.fields.flatMap (·.type.names) := by
    show [] ++ _ ++ [] ++ [] = _
    rw [List.nil_append, List.append_nil, List.append_nil]
    rfl
  rw [show DeclarationOf.mentioned (.ofClass (requestClass n o)) = _ from hmentioned] at hq
  obtain ⟨f, hf, hq⟩ := List.mem_flatMap.1 hq
  exact hfields f hf q hq

/-- The API is generated for the description, and all names that are referred to or declared are
known. -/
structure AllKnown (Known : QualifiedName → Prop) (d : Description) (n : Naming) (api : Api) :
    Prop where
  generates : d.Generates n api
  references : ∀ target ∈ d.references, Known (.topLevel n.modelPackage target)
  declares : ∀ c ∈ api.topLevel, DeclarationOf.Declares Known (.ofClass c)

namespace AllKnown

variable (h : AllKnown Known d n api)

include h

theorem model {c : Class} (hc : c ∈ d.models n) : DeclarationOf.Declares Known (.ofClass c) :=
  h.declares c (List.mem_append_left _ (h.generates.models.mem_iff.2 hc))

theorem request : DeclarationOf.Declares Known (.ofClass (requestClass n (d.globals n))) := by
  rw [← h.generates.request]
  exact h.declares api.request (List.mem_append_right _ List.mem_cons_self)

theorem client : DeclarationOf.Declares Known (.ofClass api.client) :=
  h.declares api.client (List.mem_append_right _ (List.mem_cons_of_mem _ List.mem_cons_self))

theorem siteKnown (hsite : site ∈ d.tree.methodSites n.client) : SiteKnown Known n site where
  typed := h.generates.methods site hsite
  references _ ht := h.references _ (mem_references_of_site hsite ht)
  models _ hc := h.model (mem_models_of_site hsite hc)

/-- What the named schemas of the document resolve to. -/
theorem allSound_schema {e : String × Schema} (he : e ∈ d.schemas) :
    ∀ c ∈ (Resolution.resolved n.modelPackage .root e.2).topLevel,
      DeclarationOf.AllSound Known (.ofClass c) := by
  have hresolves := h.generates.schemas e he
  have hemitted : ∀ x ∈ (Resolution.resolved n.modelPackage .root e.2).emitted,
      x.declaration.Declares Known := by
    rintro (c | x) hx
    · refine h.model (List.mem_append_left _ (List.mem_append_left _ ?_))
      exact List.mem_flatMap.2 ⟨e, he, Resolved.mem_topLevel.2 hx⟩
    · -- no type is around a named schema
      have hnone := Resolution.nested_eq_nil hresolves rfl
      rw [← Resolved.mem_nested, hnone] at hx
      cases hx
  have hrefs : ∀ target ∈ e.2.references, Known (.topLevel n.modelPackage target) := by
    intro target ht
    refine h.references target (List.mem_append_left _ (List.mem_append_left _ ?_))
    exact List.mem_flatMap.2 ⟨e, he, ht⟩
  obtain ⟨-, hsound⟩ := Resolution.resolve_sound e.2 .root _ hresolves hrefs hemitted
  intro c hc
  exact hsound _ (Resolved.mem_topLevel.1 hc)

/-- What the parameters of the API resolve to. -/
theorem globals :
    (∀ t ∈ d.parameters.typed n.modelPackage n.request, ∀ q ∈ t.type.names, Known q) ∧
      (∀ x ∈ (d.globals n).nested, x.AllSound Known ∧ x.name.IsDirectlyIn n.request) ∧
      ∀ c ∈ Typing.topLevel (d.parameters.typed n.modelPackage n.request),
        DeclarationOf.AllSound Known (.ofClass c) := by
  have hrefs : ∀ t ∈ d.parameters.typed n.modelPackage n.request, ∀ target ∈ t.schema.references,
      Known (.topLevel n.modelPackage target) := by
    intro t ht target htarget
    obtain ⟨e, he, rfl⟩ := List.mem_map.1 ht
    refine h.references target (List.mem_append_left _ (List.mem_append_right _ ?_))
    exact List.mem_flatMap.2 ⟨e, he, htarget⟩
  refine Typing.allSound_of_valid h.generates.parameters hrefs
    (DeclarationOf.declares_iff.1 h.request).2 fun c hc => ?_
  exact h.model (List.mem_append_left _ (List.mem_append_right _ hc))

/-- What is nested in the class of a method is declared in the client. -/
theorem nested (hsite : site ∈ d.tree.methodSites n.client) :
    ∀ x ∈ Typing.nested (site.typings n), x.Declares Known := by
  have hclient := h.client
  rw [h.generates.client] at hclient
  have hmethod := declares_of_components d.tree n.client (declares_of_nestAll hclient) site hsite
  have hinside := (DeclarationOf.declares_iff.1 hmethod).2
  rw [nested_method] at hinside
  exact hinside

theorem allSound_model {c : Class} (hc : c ∈ d.models n) :
    DeclarationOf.AllSound Known (.ofClass c) := by
  rw [Description.models, List.mem_append, List.mem_append] at hc
  rcases hc with (hc | hc) | hc
  · obtain ⟨e, he, hc⟩ := List.mem_flatMap.1 hc
    exact h.allSound_schema he c hc
  · exact h.globals.2.2 c hc
  · obtain ⟨t, ht, hc⟩ := Typing.mem_topLevel.1 hc
    obtain ⟨site, hsite, ht⟩ := List.mem_flatMap.1 ht
    obtain ⟨-, -, hmodels⟩ := (h.siteKnown hsite).fields (h.nested hsite)
    exact hmodels c (Typing.mem_topLevel.2 ⟨t, ht, hc⟩)

theorem allSound_request : DeclarationOf.AllSound Known (.ofClass api.request) := by
  obtain ⟨htypes, hnested, -⟩ := h.globals
  rw [h.generates.request]
  refine allSound_requestClass ?_ hnested
  intro f hf
  obtain ⟨t, ht, rfl⟩ := List.mem_map.1 hf
  exact htypes t ht

theorem parts : ∀ part ∈ components n n.client d.tree, PartSound Known n.client part := by
  have hclient := h.client
  rw [h.generates.client] at hclient
  exact partSound_components (DeclarationOf.declares_iff.1 h.request).1 d.tree n.client
    (fun _ hsite => h.siteKnown hsite) (declares_of_nestAll hclient)

theorem allSound_client : DeclarationOf.AllSound Known (.ofClass api.client) := by
  rw [h.generates.client]
  exact allSound_nestAll (allSound_of_mentions_nothing rfl rfl) h.parts

/-- No names other than known ones are mentioned anywhere. -/
theorem allSound : ∀ c ∈ api.topLevel, DeclarationOf.AllSound Known (.ofClass c) := by
  intro c hc
  rcases List.mem_append.1 hc with hc | hc
  · exact h.allSound_model (h.generates.models.mem_iff.1 hc)
  · rcases List.mem_cons.1 hc with rfl | hc
    · exact h.allSound_request
    · cases List.mem_singleton.1 hc
      exact h.allSound_client

end AllKnown

/-- In the API, names and declarations fit together. -/
structure Api.ClosedFor (api : Api) (d : Description) : Prop where
  /-- Whatever is nested in a class is named after it: the same package, one more segment. -/
  nested : ∀ c ∈ api.declarations, ∀ x ∈ c.nested, x.name.IsDirectlyIn c.name
  /-- Every name in use is that of a model that the description refers to, or is declared. -/
  mentioned : ∀ c ∈ api.declarations, ∀ q ∈ c.mentioned,
    (∃ target ∈ d.references, q = .topLevel api.modelPackage target) ∨
      ∃ e ∈ api.declarations, q = e.name

/-- **Generated APIs are closed.** Whatever is nested in a class is named after it, and no type is
used anywhere that is neither declared in the API nor referred to by the description. -/
theorem closedFor_of_generate {settings : Settings} (h : (d.generate settings).result = .ok api) :
    api.ClosedFor d := by
  have hgenerates := generates_of_generate h
  have hall : ∀ {Q : Declaration → Prop},
      (∀ c ∈ api.topLevel, ∀ e ∈ DeclarationOf.all (.ofClass c), Q e) →
        ∀ e ∈ api.declarations, Q e := by
    intro Q hQ e he
    obtain ⟨c, hc, he⟩ := List.mem_flatMap.1 he
    exact hQ c hc e he
  have hknown : AllKnown
      (fun q => (∃ target ∈ d.references, q = .topLevel api.modelPackage target) ∨
        ∃ e ∈ api.declarations, q = e.name) d (d.naming settings) api := {
    generates := hgenerates
    references := by
      intro target ht
      rw [← hgenerates.modelPackage]
      exact .inl ⟨target, ht, rfl⟩
    declares := by
      intro c hc e he
      exact .inr ⟨e, List.mem_flatMap.2 ⟨c, hc, he⟩, rfl⟩ }
  constructor
  · exact hall fun c hc e he => (hknown.allSound c hc e he).2
  · exact hall fun c hc e he => (hknown.allSound c hc e he).1

theorem closedFor_shelves :
    ∃ api, (Description.shelves.generate {}).result = .ok api ∧ api.ClosedFor .shelves := by
  obtain ⟨api, h⟩ := shelves_generate
  exact ⟨api, h, closedFor_of_generate h⟩

end ClientGen
