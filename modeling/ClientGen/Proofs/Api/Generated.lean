import ClientGen.Proofs.Api.Assembly

/-!
# What a successful generation gives

`Description.Generates` says of an API all there is to say: every schema on the way could be
resolved, the models are all that these schemas need, in the order of their names, and the request
type and the client class are built from typings alone. `generates_of_generate` proves it of every
API that is generated; what is claimed of generated APIs follows from it.
-/

namespace ClientGen

open Generation

/-! ## Methods -/

/-- All required parameters of the method are declared, and all its parameters can be resolved. -/
structure MethodSite.Typed (n : Naming) (site : MethodSite) : Prop where
  declared : site.method.requiredParameters.keys = site.method.requiredNames
  required : site.method.requiredParameters.Resolve n.modelPackage site.type
  optional : site.method.optionalParameters.Resolve n.modelPackage site.type

/-- The parameters of the method, typed, in the order in which generation comes by. -/
def MethodSite.typings (n : Naming) (site : MethodSite) : List Typing :=
  site.method.requiredParameters.typed n.modelPackage site.type ++
    site.method.optionalParameters.typed n.modelPackage site.type

theorem MethodSite.Typed.valid {n : Naming} {site : MethodSite} (h : site.Typed n) :
    ∀ t ∈ site.typings n, t.Valid n.modelPackage site.type := by
  intro t ht
  rcases List.mem_append.1 ht with ht | ht
  · exact h.required t ht
  · exact h.optional t ht

namespace Generation

variable {n : Naming} {r r' : Registry}

theorem methodTrace_ok {depth : Nat} {site : MethodSite}
    (h : (methodTrace n depth r site).result = .ok r') :
    site.Typed n ∧ r.Extends (Typing.topLevel (site.typings n)) r' := by
  obtain ⟨q, hq, h⟩ := Traced.bind_result_eq_ok.1 h
  rw [Traced.between] at h
  obtain ⟨o, ho, h⟩ := Traced.bind_result_eq_ok.1 h
  rw [Traced.pure_result_eq_ok] at h
  subst h
  obtain ⟨hdeclared, hrequired, hfirst, -, -⟩ := requireds_ok hq
  obtain ⟨hoptional, hrest, -, -⟩ := optionals_ok ho
  refine ⟨⟨hdeclared, hrequired, hoptional⟩, ?_⟩
  rw [MethodSite.typings, Typing.topLevel_append]
  exact hfirst.trans hrest

/-- The methods at the given places are typed, and their models are entered. -/
def Enters (n : Naming) (r : Registry) (sites : List MethodSite) (r' : Registry) : Prop :=
  (∀ site ∈ sites, site.Typed n) ∧
    r.Extends (Typing.topLevel (sites.flatMap (·.typings n))) r'

theorem Enters.nil (n : Naming) (r : Registry) : Enters n r [] r :=
  ⟨fun _ h => (by cases h), Registry.Extends.refl r⟩

theorem Enters.append {sites more : List MethodSite} {r'' : Registry} (h : Enters n r sites r')
    (hmore : Enters n r' more r'') : Enters n r (sites ++ more) r'' := by
  refine ⟨?_, ?_⟩
  · intro site hsite
    rcases List.mem_append.1 hsite with hsite | hsite
    · exact h.1 site hsite
    · exact hmore.1 site hsite
  · rw [List.flatMap_append, Typing.topLevel_append]
    exact h.2.trans hmore.2

theorem methodsTrace_ok {owner : QualifiedName} {depth : Nat} {methods : Keyed Method}
    (h : (methodsTrace n owner depth r methods).result = .ok r') :
    Enters n r (methods.map fun (key, m) => ⟨owner.member key, key, m⟩) r' := by
  induction methods generalizing r with
  | nil =>
    rw [methodsTrace, List.foldlM_nil, Traced.pure_result_eq_ok] at h
    exact h ▸ Enters.nil n r
  | cons e rest ih =>
    rw [methodsTrace, List.foldlM_cons] at h
    obtain ⟨first, hfirst, h⟩ := Traced.bind_result_eq_ok.1 h
    obtain ⟨htyped, hextends⟩ := methodTrace_ok hfirst
    have hone : Enters n r [⟨owner.member e.1, e.1, e.2⟩] first := by
      refine ⟨?_, ?_⟩
      · intro site hsite
        cases List.mem_singleton.1 hsite
        exact htyped
      · rw [List.flatMap_singleton]
        exact hextends
    exact hone.append (ih h)

/-- If the components of a node can be added, all methods below it are typed. -/
theorem componentsTrace_ok (node : Resource) :
    ∀ {owner : QualifiedName} {depth : Nat} {r r' : Registry},
      (componentsTrace n owner depth r node).result = .ok r' →
        Enters n r (node.methodSites owner) r' := by
  induction node using Resource.induction with
  | node methods resources ih =>
    have hbelow : ∀ {owner : QualifiedName} {depth : Nat} {r r' : Registry},
        (resourcesTrace n owner depth r resources).result = .ok r' →
          Enters n r (Resource.methodSitesBelow owner resources) r' := by
      induction resources with
      | nil =>
        intro owner depth r r' h
        rw [resourcesTrace, Traced.pure_result_eq_ok] at h
        exact h ▸ Enters.nil n r
      | cons e rest ihrest =>
        intro owner depth r r' h
        obtain ⟨first, hfirst, h⟩ := Traced.bind_result_eq_ok.1 h
        refine (ih e List.mem_cons_self hfirst).append ?_
        exact ihrest (fun e he => ih e (List.mem_cons_of_mem _ he)) h
    intro owner depth r r' h
    obtain ⟨first, hfirst, h⟩ := Traced.bind_result_eq_ok.1 h
    exact (methodsTrace_ok hfirst).append (hbelow h)

end Generation

/-! ## The whole API -/

/-- The parameters of the API as fields of its request type. -/
def Description.globals (d : Description) (n : Naming) : Optionals where
  registry := .empty
  fields := (d.parameters.typed n.modelPackage n.request).map Typing.optionalField
  nested := Typing.nested (d.parameters.typed n.modelPackage n.request)

/-- The models that the schemas of a description need, in the order in which generation comes by. -/
def Description.models (d : Description) (n : Naming) : List Class :=
  (d.schemas.flatMap fun e => (Resolution.resolved n.modelPackage .root e.2).topLevel) ++
    Typing.topLevel (d.parameters.typed n.modelPackage n.request) ++
    Typing.topLevel ((d.tree.methodSites n.client).flatMap (·.typings n))

/-- The API is what generation gives for the description, under the given names. -/
structure Description.Generates (d : Description) (n : Naming) (api : Api) : Prop where
  schemas : ∀ e ∈ d.schemas, Resolution.Resolves n.modelPackage .root e.2
  parameters : d.parameters.Resolve n.modelPackage n.request
  methods : ∀ site ∈ d.tree.methodSites n.client, site.Typed n
  models : api.models.Perm (d.models n)
  ordered : api.models.Pairwise fun a b => a.simpleName < b.simpleName
  request : api.request = requestClass n (d.globals n)
  client : api.client = Component.Draft.nestAll (components n n.client d.tree) (clientRoot n d)
  selector : api.selector = d.selector
  package : api.package = n.package
  modelPackage : api.modelPackage = n.modelPackage

/-- What is built under some names is what generation gives under these names. -/
theorem generates_of_build {d : Description} {n : Naming} {api : Api}
    (h : (d.build n).result = .ok api) : d.Generates n api := by
  obtain ⟨r, hmodels, h⟩ := Traced.bind_result_eq_ok.1 h
  obtain ⟨o, hoptionals, h⟩ := Traced.bind_result_eq_ok.1 h
  obtain ⟨⟨last, client⟩, hclient, h⟩ := Traced.bind_result_eq_ok.1 h
  rw [Traced.report_bind_result, Traced.pure_result_eq_ok] at h
  subst h
  rw [clientClass_eq] at hclient
  obtain ⟨last', hlast, hclient⟩ := Traced.bind_result_eq_ok.1 hclient
  rw [Traced.pure_result_eq_ok] at hclient
  cases hclient
  obtain ⟨hschemas, hfirst⟩ := models_ok hmodels
  obtain ⟨hparameters, hsecond, hfields, hnested⟩ := optionals_ok hoptionals
  obtain ⟨hmethods, hthird⟩ := componentsTrace_ok d.tree hlast
  exact {
    schemas := hschemas
    parameters := hparameters
    methods := hmethods
    models := ((hfirst.trans hsecond).trans hthird).perm_of_empty
    ordered := last.ordered
    request := by
      rw [requestClass, requestClass, hfields, hnested]
      rfl
    client := rfl
    selector := rfl
    package := rfl
    modelPackage := rfl }

/-- The names that generation uses under given settings. -/
def Description.naming (d : Description) (settings : Settings) : Naming :=
  .ofDescription d settings.baseSegments

/-- Everything that is known of an API that was generated. -/
theorem generates_of_generate {d : Description} {settings : Settings} {api : Api}
    (h : (d.generate settings).result = .ok api) : d.Generates (d.naming settings) api :=
  generates_of_build (Traced.mapError_result_eq_ok.1 h)

/-- The small API can be generated. -/
theorem shelves_generate : ∃ api, (Description.shelves.generate {}).result = .ok api :=
  isOk_iff.1 (by decide +kernel)

end ClientGen
