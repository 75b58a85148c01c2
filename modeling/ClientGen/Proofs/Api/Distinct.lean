import ClientGen.Proofs.Api.Closed
import ClientGen.Proofs.Api.Models
import ClientGen.Proofs.Resolution.Distinct

/-!
# When the declarations of an API have different names

Models are registered, and no two of them have one name. Nested classes, enums and components are
not: each is named after a key of the description, and different keys can become one type name.
`names_nodup_iff` says exactly when all declarations of a generated API have different names: when
keys whose types are nested in the same class become different type names, `Description.KeysApart`.
In the API of `Description.twins` two classes have the same name, `names_not_nodup_twins`.
-/

namespace ClientGen

open Component Generation

/-! ## Keys in a description -/

namespace Resource

mutual

/-- A resource with the resources below it, at all depths. -/
def everyNode : Resource → List Resource
  | r@⟨_, resources⟩ => r :: everyNodeBelow resources

/-- Resources with those below them. -/
def everyNodeBelow : List (String × Resource) → List Resource
  | [] => []
  | (_, r) :: rest => everyNode r ++ everyNodeBelow rest

end

/-- What holds of a resource and of those below it. -/
theorem forall_mem_everyNode {P : Resource → Prop} {methods : List (String × Method)}
    {resources : List (String × Resource)} :
    (∀ r ∈ everyNode ⟨methods, resources⟩, P r) ↔
      P ⟨methods, resources⟩ ∧ ∀ e ∈ resources, ∀ r ∈ e.2.everyNode, P r := by
  have hbelow : (∀ r ∈ everyNodeBelow resources, P r) ↔
      ∀ e ∈ resources, ∀ r ∈ e.2.everyNode, P r := by
    induction resources with
    | nil => simp [everyNodeBelow]
    | cons e rest ih => rw [everyNodeBelow, List.forall_mem_append, ih, List.forall_mem_cons]
  rw [everyNode, List.forall_mem_cons, hbelow]

/-- The methods and resources directly below a resource become classes of different names. -/
def KeysApart (r : Resource) : Prop :=
  ((Keyed.keys r.methods ++ Keyed.keys r.resources).map fun key => Identifier.typeName ⟨key⟩).Nodup

instance (r : Resource) : Decidable r.KeysApart :=
  inferInstanceAs (Decidable (List.Nodup _))

end Resource

/-- Keys whose types are nested in the same class become different type names. -/
structure Description.KeysApart (d : Description) (n : Naming) : Prop where
  /-- The properties of an object that becomes a class. -/
  objects : ∀ site ∈ d.visits n, site.Apart
  /-- The parameters of the API. -/
  parameters : d.parameters.Apart
  /-- The parameters of a method. -/
  methods : ∀ m ∈ d.tree.everyMethod, m.callParameters.Apart
  /-- The methods and resources of a resource or of the API. -/
  nodes : ∀ r ∈ d.tree.everyNode, r.KeysApart

/-! ## Components -/

variable {n : Naming}

/-- A class with components: they have different names, and each of them is in order. -/
theorem allApart_nestAll {c : Class} (parts : List Draft) (h : c.nested = []) :
    DeclarationOf.AllApart (.ofClass (Draft.nestAll parts c)) ↔
      (parts.map (·.type.name)).Nodup ∧
        ∀ d ∈ parts, DeclarationOf.AllApart (.ofClass d.finish) := by
  have hnested : DeclarationOf.nested (.ofClass (Draft.nestAll parts c)) =
      parts.map fun d => .ofClass d.finish := by
    show c.nested ++ _ = _
    rw [h, List.nil_append]
  rw [DeclarationOf.allApart_iff, DeclarationOf.SiblingsApart, hnested, List.map_map,
    List.forall_mem_map]
  rfl

theorem nodup_components (owner : QualifiedName) (node : Resource) :
    ((components n owner node).map (·.type.name)).Nodup ↔ node.KeysApart := by
  obtain ⟨methods, resources⟩ := node
  have hnames : (components n owner ⟨methods, resources⟩).map (·.type.name) =
      ((Keyed.keys methods ++ Keyed.keys resources).map fun key =>
        Identifier.typeName ⟨key⟩).map owner.nested := by
    simp only [components, methodDrafts, resourceDrafts_eq_map, Keyed.keys, List.map_append,
      List.map_map, Function.comp_def]
    rfl
  rw [hnames, List.nodup_map_iff owner.nested_injective]
  rfl

/-- In a class with the components of a node, names are different where keys are apart and the
classes of all methods are in order. -/
theorem allApart_components (node : Resource) :
    ∀ (owner : QualifiedName) (c : Class), c.nested = [] →
      (DeclarationOf.AllApart (.ofClass (Draft.nestAll (components n owner node) c)) ↔
        (∀ r ∈ node.everyNode, r.KeysApart) ∧
          ∀ site ∈ node.methodSites owner,
            DeclarationOf.AllApart (.ofClass (methodDraft n site).finish)) := by
  induction node using Resource.induction with
  | node methods resources ih =>
    intro owner c hc
    have hmethods : (∀ site ∈ Resource.methodSites owner ⟨methods, resources⟩,
        DeclarationOf.AllApart (.ofClass (methodDraft n site).finish)) ↔
        (∀ e ∈ methods, DeclarationOf.AllApart
          (.ofClass (methodDraft n ⟨owner.member e.1, e.1, e.2⟩).finish)) ∧
        ∀ e ∈ resources, ∀ site ∈ e.2.methodSites (owner.member e.1),
          DeclarationOf.AllApart (.ofClass (methodDraft n site).finish) := by
      rw [Resource.methodSites, Resource.methodSitesBelow_eq_flatMap, List.forall_mem_append,
        List.forall_mem_map]
      simp only [List.forall_mem_flatMap]
    have hparts : (∀ d ∈ components n owner ⟨methods, resources⟩,
        DeclarationOf.AllApart (.ofClass d.finish)) ↔
        (∀ e ∈ methods, DeclarationOf.AllApart
          (.ofClass (methodDraft n ⟨owner.member e.1, e.1, e.2⟩).finish)) ∧
        ∀ e ∈ resources, (∀ r ∈ e.2.everyNode, r.KeysApart) ∧
          ∀ site ∈ e.2.methodSites (owner.member e.1),
            DeclarationOf.AllApart (.ofClass (methodDraft n site).finish) := by
      rw [components, methodDrafts, resourceDrafts_eq_map, List.forall_mem_append,
        List.forall_mem_map, List.forall_mem_map]
      refine and_congr_right' (forall₂_congr fun e he => ?_)
      rw [finish_resourceDraft]
      exact ih e he (owner.member e.1) (resourceRoot (owner.member e.1)) rfl
    rw [allApart_nestAll _ hc, nodup_components, hparts, hmethods, Resource.forall_mem_everyNode]
    constructor
    · rintro ⟨hkeys, hown, hbelow⟩
      exact ⟨⟨hkeys, fun e he => (hbelow e he).1⟩, hown, fun e he => (hbelow e he).2⟩
    · rintro ⟨⟨hkeys, hnodes⟩, hown, hbelow⟩
      exact ⟨hkeys, hown, fun e he => ⟨hnodes e he, hbelow e he⟩⟩

/-! ## Owners of fields -/

/-- A class that owns fields, with the models that these need: the fields have different type names,
and all below them is in order. -/
theorem allApart_owner {package : List String} {owner : QualifiedName} {ts : List Typing}
    {fields : Keyed Schema} (hvalid : ∀ t ∈ ts, t.Valid package owner)
    (hfields : ts.map Typing.entry = fields) {c : Class} (hnested : c.nested = Typing.nested ts) :
    ((∀ m ∈ Typing.topLevel ts, DeclarationOf.AllApart (.ofClass m)) ∧
        DeclarationOf.AllApart (.ofClass c)) ↔
      fields.Apart ∧ ∀ site ∈ fields.visits package owner, site.Apart := by
  have hclass : DeclarationOf.AllApart (.ofClass c) ↔
      ((Typing.nested ts).map (·.name)).Nodup ∧ ∀ d ∈ Typing.nested ts, d.AllApart := by
    rw [DeclarationOf.allApart_iff, ← hnested]
    rfl
  rw [hclass, and_left_comm, Resolution.nodup_nested_typings hvalid,
    Resolution.allApart_typings hvalid, hfields]

theorem map_entry_typed (package : List String) (owner : QualifiedName) (fields : Keyed Schema) :
    (fields.typed package owner).map Typing.entry = fields := by
  rw [Keyed.typed, List.map_map]
  exact List.map_id fields

theorem map_entry_typings (site : MethodSite) :
    (site.typings n).map Typing.entry = site.method.callParameters := by
  rw [MethodSite.typings, List.map_append, map_entry_typed, map_entry_typed,
    Method.callParameters_eq]

variable {d : Description} {api : Api}

/-- The models of the named schemas. -/
theorem allApart_schemas (h : d.Generates n api) :
    (∀ c ∈ d.schemas.flatMap fun e => (Resolution.resolved n.modelPackage .root e.2).topLevel,
        DeclarationOf.AllApart (.ofClass c)) ↔
      ∀ site ∈ d.schemas.flatMap fun e => e.2.visits n.modelPackage .root, site.Apart := by
  simp only [List.forall_mem_flatMap]
  refine forall₂_congr fun e he => ?_
  have hresolves := h.schemas e he
  have hnone := Resolution.nested_eq_nil hresolves rfl
  rw [← Resolution.allApart_of_resolve hresolves, Resolved.forall_emitted, hnone]
  exact (and_iff_left fun _ hx => nomatch hx).symm

/-- The request type, with the models that the parameters of the API need. -/
theorem allApart_request (h : d.Generates n api) :
    ((∀ c ∈ Typing.topLevel (d.parameters.typed n.modelPackage n.request),
        DeclarationOf.AllApart (.ofClass c)) ∧ DeclarationOf.AllApart (.ofClass api.request)) ↔
      d.parameters.Apart ∧ ∀ site ∈ d.parameters.visits n.modelPackage n.request, site.Apart := by
  rw [h.request]
  exact allApart_owner h.parameters (map_entry_typed _ _ _) rfl

/-- The class of a method, with the models that its parameters need. -/
theorem allApart_method {site : MethodSite} (h : site.Typed n) :
    ((∀ c ∈ Typing.topLevel (site.typings n), DeclarationOf.AllApart (.ofClass c)) ∧
        DeclarationOf.AllApart (.ofClass (methodDraft n site).finish)) ↔
      site.method.callParameters.Apart ∧
        ∀ visited ∈ site.method.callParameters.visits n.modelPackage site.type, visited.Apart :=
  allApart_owner h.valid (map_entry_typings site) (nested_method n site)

/-- The models that all methods need, and the client with its components. -/
theorem allApart_client (h : d.Generates n api) :
    ((∀ c ∈ Typing.topLevel ((d.tree.methodSites n.client).flatMap (·.typings n)),
        DeclarationOf.AllApart (.ofClass c)) ∧ DeclarationOf.AllApart (.ofClass api.client)) ↔
      (∀ r ∈ d.tree.everyNode, r.KeysApart) ∧
        ∀ site ∈ d.tree.methodSites n.client, site.method.callParameters.Apart ∧
          ∀ visited ∈ site.method.callParameters.visits n.modelPackage site.type,
            visited.Apart := by
  have hmodels : (∀ c ∈ Typing.topLevel ((d.tree.methodSites n.client).flatMap (·.typings n)),
      DeclarationOf.AllApart (.ofClass c)) ↔
      ∀ site ∈ d.tree.methodSites n.client, ∀ c ∈ Typing.topLevel (site.typings n),
        DeclarationOf.AllApart (.ofClass c) := by
    simp only [Typing.topLevel, List.forall_mem_flatMap]
  rw [hmodels, h.client, allApart_components d.tree n.client (clientRoot n d) rfl, and_left_comm,
    ← forall₂_and]
  exact and_congr_right' (forall₂_congr fun site hsite => allApart_method (h.methods site hsite))

/-- The schemas that generation comes by, place by place. -/
theorem forall_mem_visits {P : Site → Prop} :
    (∀ site ∈ d.visits n, P site) ↔
      (∀ site ∈ d.schemas.flatMap fun e => e.2.visits n.modelPackage .root, P site) ∧
        (∀ site ∈ d.parameters.visits n.modelPackage n.request, P site) ∧
        ∀ site ∈ d.tree.methodSites n.client,
          ∀ visited ∈ site.method.callParameters.visits n.modelPackage site.type, P visited := by
  rw [Description.visits, List.forall_mem_append, List.forall_mem_append, and_assoc]
  simp only [List.forall_mem_flatMap]

theorem forall_mem_everyMethod {P : Method → Prop} :
    (∀ m ∈ d.tree.everyMethod, P m) ↔ ∀ site ∈ d.tree.methodSites n.client, P site.method := by
  rw [← Resource.map_method_methodSites d.tree n.client, List.forall_mem_map]

/-- Siblings have different names everywhere in the API exactly if keys are apart. -/
theorem allApart_api (h : d.Generates n api) :
    (∀ c ∈ api.topLevel, DeclarationOf.AllApart (.ofClass c)) ↔ d.KeysApart n := by
  have hmodels : (∀ c ∈ api.models, DeclarationOf.AllApart (.ofClass c)) ↔
      ∀ c ∈ d.models n, DeclarationOf.AllApart (.ofClass c) :=
    forall_congr' fun c => by rw [h.models.mem_iff]
  have hrequest := allApart_request h
  have hclient := allApart_client h
  rw [forall₂_and] at hclient
  rw [Api.topLevel, List.forall_mem_append, hmodels, Description.models, List.forall_mem_append,
    List.forall_mem_append, allApart_schemas h, List.forall_mem_cons, List.forall_mem_singleton]
  -- the models that fields need are listed apart from the classes that own the fields
  constructor
  · rintro ⟨⟨⟨hschemas, hglobals⟩, hmodels⟩, hrequested, hclients⟩
    obtain ⟨hparameters, hvisited⟩ := hrequest.1 ⟨hglobals, hrequested⟩
    obtain ⟨hnodes, hmethods, hinside⟩ := hclient.1 ⟨hmodels, hclients⟩
    exact {
      objects := forall_mem_visits.2 ⟨hschemas, hvisited, hinside⟩
      parameters := hparameters
      methods := forall_mem_everyMethod.2 hmethods
      nodes := hnodes }
  · intro hkeys
    obtain ⟨hschemas, hvisited, hinside⟩ := forall_mem_visits.1 hkeys.objects
    obtain ⟨hglobals, hrequested⟩ := hrequest.2 ⟨hkeys.parameters, hvisited⟩
    obtain ⟨hmodels, hclients⟩ :=
      hclient.2 ⟨hkeys.nodes, forall_mem_everyMethod.1 hkeys.methods, hinside⟩
    exact ⟨⟨⟨hschemas, hglobals⟩, hmodels⟩, hrequested, hclients⟩

/-! ## All declarations -/

section

variable {settings : Settings} (h : d.Generates (d.naming settings) api)

include h

/-- The names at the top of an API. -/
theorem names_topLevel :
    api.topLevel.map (·.name) = api.models.map (·.name) ++
      [(d.naming settings).request, (d.naming settings).client] := by
  rw [Api.topLevel, List.map_append, h.request, h.client]
  rfl

/-- No class at the top of an API has another one around it. -/
theorem length_names_topLevel : ∀ c ∈ api.topLevel, c.name.names.length = 1 := by
  have hnames : ∀ q ∈ api.topLevel.map (·.name), q.names.length = 1 := by
    rw [names_topLevel h, List.forall_mem_append]
    constructor
    · intro q hq
      obtain ⟨id, -, rfl⟩ := List.mem_map.1 ((perm_modelIds h).mem_iff.1 hq)
      rfl
    · intro q hq
      rcases List.mem_pair.1 hq with rfl | rfl <;> rfl
  exact fun c hc => hnames _ (List.mem_map_of_mem hc)

/-- The classes at the top of an API have different names: the models are registered, and are in a
package of their own. -/
theorem nodup_names_topLevel : (api.topLevel.map (·.name)).Nodup := by
  have hmodels : (api.models.map (·.name)).Nodup := by
    rw [(perm_modelIds h).nodup_iff]
    exact (nodup_modelIds h).map fun a b hab => congrArg QualifiedName.simpleName hab
  have hservices : (d.naming settings).request ≠ (d.naming settings).client := by
    intro heq
    have hlength := congrArg (fun q : QualifiedName => q.simpleName.length) heq
    simp [Description.naming, Naming.ofDescription, QualifiedName.topLevel] at hlength
  have hpackage : (d.naming settings).modelPackage ≠ (d.naming settings).package := by
    intro heq
    have hlength := congrArg List.length heq
    simp [Naming.modelPackage] at hlength
  have hmodel : ∀ q ∈ api.models.map (·.name), q.package = (d.naming settings).modelPackage := by
    intro q hq
    obtain ⟨id, -, rfl⟩ := List.mem_map.1 ((perm_modelIds h).mem_iff.1 hq)
    rfl
  have hservice : ∀ q ∈ [(d.naming settings).request, (d.naming settings).client],
      q.package = (d.naming settings).package := by
    intro q hq
    rcases List.mem_pair.1 hq with rfl | rfl <;> rfl
  rw [names_topLevel h, List.nodup_append]
  refine ⟨hmodels, List.pairwise_pair.2 hservices, ?_⟩
  rintro q hq _ hq' rfl
  exact hpackage ((hmodel q hq).symm.trans (hservice q hq'))

end

/-- **Names differ if keys are apart.** All declarations of a generated API, at any depth, have
different names exactly if keys whose types are nested in the same class become different type
names. -/
theorem names_nodup_iff {settings : Settings} (h : (d.generate settings).result = .ok api) :
    (api.declarations.map (·.name)).Nodup ↔ d.KeysApart (d.naming settings) := by
  have hgenerates := generates_of_generate h
  have hknown : AllKnown (fun _ => True) d (d.naming settings) api :=
    ⟨hgenerates, fun _ _ => trivial, fun _ _ _ _ => trivial⟩
  have hdeclarations : api.declarations =
      (api.topLevel.map DeclarationOf.ofClass).flatMap DeclarationOf.all := by
    rw [List.flatMap_map]
    rfl
  have hsound : ∀ x ∈ api.topLevel.map DeclarationOf.ofClass, x.AllSound fun _ => True :=
    List.forall_mem_map.2 hknown.allSound
  have hlength : ∀ x ∈ api.topLevel.map DeclarationOf.ofClass, x.name.names.length = 1 :=
    List.forall_mem_map.2 (length_names_topLevel hgenerates)
  have hnames : ((api.topLevel.map DeclarationOf.ofClass).map (·.name)).Nodup := by
    rw [List.map_map]
    exact nodup_names_topLevel hgenerates
  rw [hdeclarations, DeclarationOf.nodup_names_forest hsound
    fun x hx y hy => (hlength x hx).trans (hlength y hy).symm, and_iff_right hnames,
    List.forall_mem_map, ← allApart_api hgenerates]
  exact forall₂_congr fun c hc => DeclarationOf.nodup_names_iff (hknown.allSound c hc)

theorem names_nodup_shelves :
    ∃ api, (Description.shelves.generate {}).result = .ok api ∧
      (api.declarations.map (·.name)).Nodup := by
  obtain ⟨api, h⟩ := shelves_generate
  have hkeys : Description.shelves.KeysApart (Description.shelves.naming {}) :=
    ⟨by decide +kernel, by decide +kernel, by decide +kernel, by decide +kernel⟩
  exact ⟨api, h, (names_nodup_iff h).2 hkeys⟩

/-- An API with a method and a resource of the same name. -/
def Description.twins : Description where
  name := "books"
  version := "v1"
  resources := [("items", {})]
  methods := [("items", { path := "items", httpMethod := "GET" })]

/-- The classes of the method and of the resource have the same name. -/
theorem names_not_nodup_twins :
    ∃ api, (Description.twins.generate {}).result = .ok api ∧
      ¬(api.declarations.map (·.name)).Nodup := by
  have hrepeated : (Description.twins.generate {}).result.toOption.any
      (fun api => decide ¬(api.declarations.map (·.name)).Nodup) = true := by decide +kernel
  obtain ⟨api, h, hrepeated⟩ := Traced.exists_of_any hrepeated
  exact ⟨api, h, of_decide_eq_true hrepeated⟩

end ClientGen
