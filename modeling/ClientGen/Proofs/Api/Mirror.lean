import ClientGen.Proofs.Api.Generated
import ClientGen.Proofs.Description.Ordered
import Mathlib.Data.List.Forall2

/-!
# The client mirrors its description

The client class is built on a stack, with classes and factory methods put in place when a component
is closed. `Mirrors` compares the outcome with the tree of the description: in every class of the
tree stand the components of its methods and then those of its resources, in the order of their
keys, each beside the factory method at the same position. `client_mirrors` says that this is all
there is in a generated client, and what the components are.
-/

namespace ClientGen

open Component Generation

/-! ## Mirroring -/

/-- A component as its parent has it: its class, and the factory method that makes it. -/
structure Made where
  type : Class
  factory : Factory

/-- The factory methods are in the order of their wire names, which are all different. -/
def Made.InOrder (ms : List Made) : Prop :=
  ms.Pairwise fun a b => a.factory.identifier.wireName < b.factory.identifier.wireName

/-- What the class has in it are the methods and resources of a node, and nothing else; and so on
for the resources. Of each method and resource in its place it is said what has become of it. -/
inductive Mirrors (IsMethod : MethodSite → Made → Prop)
    (IsResource : QualifiedName → String → Made → Prop) : Class → Resource → Prop
  | node {c : Class} {methods : Keyed Method} {resources : Keyed Resource} (ms rs : List Made)
    (nested : c.nested = (ms ++ rs).map fun p => .ofClass p.type)
    (factories : c.factories = (ms ++ rs).map (·.factory))
    (methodsInOrder : Made.InOrder ms) (resourcesInOrder : Made.InOrder rs)
    (isMethod : List.Forall₂ (fun e p => IsMethod ⟨c.name.member e.1, e.1, e.2⟩ p) methods ms)
    (isResource : List.Forall₂ (fun e p => IsResource (c.name.member e.1) e.1 p) resources rs)
    (below : List.Forall₂ (fun e p => Mirrors IsMethod IsResource p.type e.2) resources rs) :
    Mirrors IsMethod IsResource c ⟨methods, resources⟩

variable {n : Naming} {IsMethod : MethodSite → Made → Prop}
  {IsResource : QualifiedName → String → Made → Prop}

/-- A component, once it is finished. -/
def Component.Draft.made (d : Draft) : Made :=
  ⟨d.finish, d.factory⟩

/-- What a method of a class becomes. -/
def methodMade (n : Naming) (owner : QualifiedName) (e : String × Method) : Made :=
  (methodDraft n ⟨owner.member e.1, e.1, e.2⟩).made

/-- What a resource of a class becomes. -/
def resourceMade (n : Naming) (owner : QualifiedName) (e : String × Resource) : Made :=
  (resourceDraft (owner.member e.1) e.1 (components n (owner.member e.1) e.2)).made

theorem map_made_components (owner : QualifiedName) (methods : Keyed Method)
    (resources : Keyed Resource) :
    (components n owner ⟨methods, resources⟩).map Draft.made =
      methods.map (methodMade n owner) ++ resources.map (resourceMade n owner) := by
  rw [components, resourceDrafts_eq_map, methodDrafts, List.map_append, List.map_map, List.map_map]
  rfl

theorem nested_nestAll {c : Class} (parts : List Draft) (h : c.nested = []) :
    (Draft.nestAll parts c).nested = (parts.map Draft.made).map fun p => .ofClass p.type := by
  rw [List.map_map, Draft.nestAll, h]
  exact List.nil_append _

theorem factories_nestAll {c : Class} (parts : List Draft) (h : c.factories = []) :
    (Draft.nestAll parts c).factories = (parts.map Draft.made).map (·.factory) := by
  rw [List.map_map, Draft.nestAll, h]
  exact List.nil_append _

/-- Components that are called as the entries of a map are in the order of the map. -/
theorem inOrder_map {α : Type} {entries : Keyed α} (h : entries.Ordered) {f : String × α → Made}
    (hf : ∀ e, (f e).factory.identifier.wireName = e.1) : Made.InOrder (entries.map f) := by
  refine List.pairwise_map.2 (h.imp ?_)
  intro a b hlt
  rw [hf, hf]
  exact hlt

/-- The components below a node mirror it in every class that had none before. -/
theorem mirrors_components
    (hresource : ∀ (owner : QualifiedName) (key : String) (parts : List Draft),
      IsResource (owner.member key) key (resourceDraft (owner.member key) key parts).made)
    (node : Resource) :
    ∀ c : Class, c.nested = [] → c.factories = [] → node.Ordered →
      (∀ site ∈ node.methodSites c.name, IsMethod site (methodDraft n site).made) →
      Mirrors IsMethod IsResource (Draft.nestAll (components n c.name node) c) node := by
  induction node using Resource.induction with
  | node methods resources ih =>
    intro c hnested hfactories hordered hmethod
    obtain ⟨⟨hmethods, -⟩, hresources, hbelow⟩ := Resource.ordered_iff.1 hordered
    refine .node (methods.map (methodMade n c.name)) (resources.map (resourceMade n c.name))
      ?_ ?_ ?_ ?_ ?_ ?_ ?_
    · rw [nested_nestAll _ hnested, map_made_components]
    · rw [factories_nestAll _ hfactories, map_made_components]
    · exact inOrder_map hmethods fun _ => rfl
    · exact inOrder_map hresources fun _ => rfl
    · refine List.forall₂_map_right_iff.2 (List.forall₂_same.2 fun e he => ?_)
      exact hmethod _ (Resource.mem_methodSites.2 (.inl ⟨e, he, rfl⟩))
    · refine List.forall₂_map_right_iff.2 (List.forall₂_same.2 fun e _ => ?_)
      exact hresource c.name e.1 _
    · refine List.forall₂_map_right_iff.2 (List.forall₂_same.2 fun e he => ?_)
      refine ih e he (resourceRoot (c.name.member e.1)) rfl rfl (hbelow e he) fun site hsite => ?_
      exact hmethod site (Resource.mem_methodSites.2 (.inr ⟨e, he, hsite⟩))

/-- The client that is generated mirrors its description, whatever is true of its components. -/
theorem mirrors_of_generates {d : Description} {api : Api} (h : d.Generates n api)
    (hordered : d.Ordered)
    (hmethod : ∀ site ∈ d.tree.methodSites n.client, IsMethod site (methodDraft n site).made)
    (hresource : ∀ (owner : QualifiedName) (key : String) (parts : List Draft),
      IsResource (owner.member key) key (resourceDraft (owner.member key) key parts).made) :
    Mirrors IsMethod IsResource api.client d.tree := by
  rw [h.client]
  exact mirrors_components hresource d.tree (clientRoot n d) rfl rfl hordered.tree hmethod

/-! ## What the components are -/

/-- The class is a component with the given name, and beside it stands the factory method for the
key: it returns the class, and takes what the one constructor of the class takes. -/
structure Made.IsComponent (type : QualifiedName) (key : String) (documentation : Option String)
    (p : Made) : Prop where
  kind : p.type.kind = .component
  name : p.type.name = type
  identifier : p.factory.identifier = ⟨key⟩
  returns : p.factory.returns = p.type.name
  params : ∃ init, p.type.constructors = [init] ∧ init.name = "new" ∧
    p.factory.params = init.params
  documentation : p.factory.documentation = documentation

/-- The class has nothing but what is nested in it. -/
structure Class.IsBare (c : Class) : Prop where
  fields : c.fields = []
  constants : c.constants = []
  superType : c.superType = none
  params : ∀ init ∈ c.constructors, init.params = []

theorem isComponent_made (d : Draft) (key : String) (hkey : d.spec.identifier = ⟨key⟩)
    (hkind : d.type.kind = .component) (hconstructors : d.type.constructors = [])
    (hinit : d.init.name = "new" ∧ d.init.params = d.spec.params) :
    d.made.IsComponent d.type.name key (d.spec.documentation.map escapeDoc) where
  kind := hkind
  name := rfl
  identifier := hkey
  returns := rfl
  params := by
    refine ⟨{ d.init with body := d.init.body ++ d.spec.params.map requirement }, ?_, hinit.1,
      hinit.2.symm⟩
    show d.type.constructors ++ _ = _
    rw [hconstructors, List.nil_append]
  documentation := rfl

theorem isBare_resource (type : QualifiedName) (key : String) (parts : List Draft) :
    (resourceDraft type key parts).made.type.IsBare where
  fields := rfl
  constants := rfl
  superType := rfl
  params := by
    intro init hinit
    cases List.mem_singleton.1 hinit
    rfl

/-- **The client mirrors its description.** In the client, and in the class of every resource, the
components of the methods and then those of the resources of that node stand in the order of their
keys, each named after its key and beside its factory method; a resource has nothing else. The maps
of a description that is read are always in order, `ordered_of_ofText`. -/
theorem client_mirrors {d : Description} {settings : Settings} {api : Api} (hordered : d.Ordered)
    (h : (d.generate settings).result = .ok api) :
    Mirrors
      (fun site p => p.IsComponent site.type site.key (site.method.description.map escapeDoc))
      (fun type key p => p.IsComponent type key none ∧ p.type.IsBare) api.client d.tree := by
  refine mirrors_of_generates (generates_of_generate h) hordered ?_ ?_
  · intro site _
    exact isComponent_made (methodDraft (d.naming settings) site) site.key rfl rfl rfl ⟨rfl, rfl⟩
  · intro owner key parts
    exact ⟨isComponent_made (resourceDraft (owner.member key) key parts) key rfl rfl rfl ⟨rfl, rfl⟩,
      isBare_resource _ _ _⟩

theorem client_mirrors_shelves :
    ∃ api, (Description.shelves.generate {}).result = .ok api ∧ Mirrors
      (fun site p => p.IsComponent site.type site.key (site.method.description.map escapeDoc))
      (fun type key p => p.IsComponent type key none ∧ p.type.IsBare) api.client
      Description.shelves.tree := by
  obtain ⟨api, h⟩ := shelves_generate
  exact ⟨api, h, client_mirrors shelves_ordered h⟩

end ClientGen
