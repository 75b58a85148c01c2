import ClientGen.Api
import ClientGen.Proofs.Schema.Nodes

/-!
# The tree of resources and methods

Methods and resources hang on an API as they hang on a resource, so a description has one tree of
them, `Description.tree`. `Resource.induction` proves a property of all such trees from the
resources directly below. Every node of the tree becomes a class; `Resource.methodSites` lists the
methods at all depths, each with the name of its class.

Two lists cover all schemas of a description: `Description.references`, the targets that are
referred to anywhere, and `Description.visits`, the schemas that generation comes by. Those of a
method are below `Method.callParameters`, its parameters in call order.
-/

namespace ClientGen

/-! ## Names of components -/

/-- The name of the class that stands for a method or resource of a class. -/
def QualifiedName.member (owner : QualifiedName) (key : String) : QualifiedName :=
  owner.nested (Identifier.typeName ⟨key⟩)

/-! ## The tree -/

/-- The methods and resources of an API, as those of a resource. -/
def Description.tree (d : Description) : Resource :=
  ⟨d.methods, d.resources⟩

/-- A method, with the name of its class. -/
structure MethodSite where
  type : QualifiedName
  key : String
  method : Method

namespace Resource

/-- What holds of a resource when it holds of all resources directly below it, holds of all. -/
@[elab_as_elim]
theorem induction {P : Resource → Prop}
    (node : ∀ (methods : List (String × Method)) (resources : List (String × Resource)),
      (∀ e ∈ resources, P e.2) → P ⟨methods, resources⟩) (r : Resource) : P r := by
  refine Resource.rec
    (motive_1 := P)
    (motive_2 := fun resources => ∀ e ∈ resources, P e.2)
    (motive_3 := fun e => P e.2)
    ?node ?nil ?cons ?entry r
  case node => intro methods resources hresources; exact node methods resources hresources
  case nil => intro e he; cases he
  case cons =>
    intro head tail hhead htail e he
    rcases List.mem_cons.1 he with rfl | he
    · exact hhead
    · exact htail e he
  case entry => intro key r ih; exact ih

mutual

/-- The methods at all depths, if the class of the resource has the given name. -/
def methodSites (owner : QualifiedName) : Resource → List MethodSite
  | ⟨methods, resources⟩ =>
    (methods.map fun (key, m) => ⟨owner.member key, key, m⟩) ++ methodSitesBelow owner resources

/-- The methods of the resources of a class, at all depths. -/
def methodSitesBelow (owner : QualifiedName) : List (String × Resource) → List MethodSite
  | [] => []
  | (key, r) :: rest => methodSites (owner.member key) r ++ methodSitesBelow owner rest

end

theorem methodSitesBelow_eq_flatMap (owner : QualifiedName) (resources : List (String × Resource)) :
    methodSitesBelow owner resources =
      resources.flatMap fun e => e.2.methodSites (owner.member e.1) := by
  induction resources with
  | nil => rfl
  | cons e rest ih =>
    rw [List.flatMap_cons, ← ih]
    rfl

/-- A method stands at a node itself or below one of its resources. -/
theorem mem_methodSites {owner : QualifiedName} {methods : List (String × Method)}
    {resources : List (String × Resource)} {site : MethodSite} :
    site ∈ methodSites owner ⟨methods, resources⟩ ↔
      (∃ e ∈ methods, ⟨owner.member e.1, e.1, e.2⟩ = site) ∨
        ∃ e ∈ resources, site ∈ e.2.methodSites (owner.member e.1) := by
  rw [methodSites, methodSitesBelow_eq_flatMap, List.mem_append, List.mem_map, List.mem_flatMap]

mutual

/-- The methods at all depths. -/
def everyMethod : Resource → List Method
  | ⟨methods, resources⟩ => methods.map Prod.snd ++ everyMethodBelow resources

/-- The methods of resources, at all depths. -/
def everyMethodBelow : List (String × Resource) → List Method
  | [] => []
  | (_, r) :: rest => everyMethod r ++ everyMethodBelow rest

end

/-- The methods with the names of their classes are all methods. -/
theorem map_method_methodSites (r : Resource) :
    ∀ owner, (r.methodSites owner).map (·.method) = r.everyMethod := by
  induction r using Resource.induction with
  | node methods resources ih =>
    have hbelow : ∀ owner, (methodSitesBelow owner resources).map (·.method) =
        everyMethodBelow resources := by
      intro owner
      induction resources with
      | nil => rfl
      | cons e rest ihrest =>
        rw [methodSitesBelow, List.map_append, ih e List.mem_cons_self,
          ihrest fun e he => ih e (List.mem_cons_of_mem _ he)]
        rfl
    intro owner
    rw [methodSites, List.map_append, hbelow, List.map_map]
    rfl

end Resource

/-! ## References -/

/-- The targets that a method refers to: in its parameters, for its body, and for its response. -/
def Method.references (m : Method) : List String :=
  m.parameters.flatMap (·.2.references) ++ m.request.toList ++ m.response.toList

/-- The targets that a description refers to, anywhere. -/
def Description.references (d : Description) : List String :=
  d.schemas.flatMap (·.2.references) ++ d.parameters.flatMap (·.2.references) ++
    d.tree.everyMethod.flatMap Method.references

/-! ## Parameters of methods -/

/-- The named entries; names that have none are left out. -/
def Keyed.select {α : Type} (entries : Keyed α) (names : List String) : Keyed α :=
  names.filterMap fun name => (entries.find? name).map (name, ·)

/-- The entries that are under none of the names. -/
def Keyed.without {α : Type} (entries : Keyed α) (names : List String) : Keyed α :=
  entries.filter fun e => e.1 ∉ names

theorem Keyed.keys_without {α : Type} (entries : Keyed α) (names : List String) :
    (entries.without names).keys = entries.keys.filter (· ∉ names) := by
  rw [without, keys, keys, List.filter_map]
  rfl

/-- Whatever is selected is an entry, under one of the names. -/
theorem Keyed.mem_of_mem_select {α : Type} {entries : Keyed α} {names : List String}
    {e : String × α} (h : e ∈ entries.select names) : e ∈ entries ∧ e.1 ∈ names := by
  obtain ⟨name, hname, hfind⟩ := List.mem_filterMap.1 h
  obtain ⟨value, hvalue, rfl⟩ := Option.map_eq_some_iff.1 hfind
  obtain ⟨before, rest, hentries, -⟩ := List.lookup_eq_some_iff.1 hvalue
  rw [hentries]
  exact ⟨List.mem_append_right _ List.mem_cons_self, hname⟩

/-- Nothing is found under a name that is no key. -/
theorem Keyed.find?_eq_none {α : Type} {entries : Keyed α} {name : String} :
    entries.find? name = none ↔ name ∉ entries.keys := by
  rw [Keyed.find?, List.lookup_eq_none_iff, Keyed.keys, List.mem_map]
  constructor
  · rintro h ⟨e, he, rfl⟩
    simpa using h e he
  · intro h e he
    simpa using fun hname => h ⟨e, he, hname.symm⟩

/-- The names of the required parameters in call order: those listed, then, as they are declared,
the others that say themselves that they are required. -/
def Method.callOrder (m : Method) : List String :=
  m.parameterOrder ++
    Keyed.keys (m.parameters.filter fun e => e.2.required = some true ∧ e.1 ∉ m.parameterOrder)

/-- The parameters of a method in the order in which generation comes by them: the required ones in
call order, as often as they are listed, and then all that are not required. -/
def Method.callParameters (m : Method) : Keyed Schema :=
  m.parameters.select m.callOrder ++ m.parameters.without m.callOrder

/-- The required parameters, in call order. -/
def Method.requiredParameters (m : Method) : Keyed Schema :=
  m.parameters.select m.requiredNames

theorem isRequired_iff {s : Schema} : s.isRequired = true ↔ s.required = some true := by
  rw [Schema.isRequired]
  cases s.required with
  | none => simp
  | some b => simp

/-- Just the parameters in call order are asked for. -/
theorem Method.requiredNames_eq (m : Method) : m.requiredNames = m.callOrder := by
  have hflagged : (m.parameters.filter fun e => e.2.isRequired && !m.parameterOrder.contains e.1) =
      m.parameters.filter fun e => e.2.required = some true ∧ e.1 ∉ m.parameterOrder := by
    refine List.filter_congr fun e _ => ?_
    rw [Bool.eq_iff_iff]
    simp only [Bool.and_eq_true, Bool.not_eq_true', List.contains_eq_mem, decide_eq_true_eq,
      decide_eq_false_iff_not, isRequired_iff]
  rw [callOrder, ← hflagged]
  rfl

/-- The optional parameters are the declared ones that are not required. -/
theorem Method.optionalParameters_eq (m : Method) :
    m.optionalParameters = m.parameters.without m.callOrder := by
  rw [optionalParameters, requiredNames_eq, Keyed.without]
  refine List.filter_congr fun e _ => ?_
  simp only [List.contains_eq_mem, decide_not]

theorem Method.callParameters_eq (m : Method) :
    m.callParameters = m.requiredParameters ++ m.optionalParameters := by
  rw [callParameters, requiredParameters, requiredNames_eq, optionalParameters_eq]

/-! ## Visits -/

/-- The schemas that generation comes by below the parameters of a class. -/
def Keyed.visits (package : List String) (owner : QualifiedName) (parameters : Keyed Schema) :
    List Site :=
  parameters.flatMap fun e => e.2.visits package (.field ⟨e.1⟩ owner)

theorem Keyed.visits_append (package : List String) (owner : QualifiedName)
    (parameters more : Keyed Schema) :
    Keyed.visits package owner (parameters ++ more) =
      parameters.visits package owner ++ more.visits package owner :=
  List.flatMap_append

/-- The schemas that generation comes by: below the named schemas, the parameters of the API, and
the required and optional parameters of all methods. -/
def Description.visits (d : Description) (n : Naming) : List Site :=
  d.schemas.flatMap (fun e => e.2.visits n.modelPackage .root) ++
    d.parameters.visits n.modelPackage n.request ++
    (d.tree.methodSites n.client).flatMap fun site =>
      site.method.callParameters.visits n.modelPackage site.type

/-! ## A small API -/

/-- The description of an API for books on shelves. -/
def Description.shelves : Description where
  name := "books"
  version := "v1"
  parameters := [("alt", { type := some "string", enumValues := some ["json"] })]
  schemas := [("Book", { id := some "Book", type := some "object", properties := some [
    ("shelf", { reference := some "Shelf" }),
    ("size", { type := some "object", properties := some [("pages", { type := some "integer" })] })
    ] })]
  resources := [("shelves", { methods := [("get", {
    path := "shelves/\x7bshelf\x7d"
    httpMethod := "GET"
    parameterOrder := ["shelf"]
    parameters := [
      ("shelf", { type := some "string" }),
      ("view", { type := some "string", enumValues := some ["brief", "full"] })]
    response := some "Shelf" })] })]

end ClientGen
