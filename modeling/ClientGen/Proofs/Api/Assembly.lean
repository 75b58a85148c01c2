import ClientGen.Proofs.Api.Typed
import ClientGen.Proofs.Component.Growth

/-!
# The components of a client

The class of a client is built up on a stack. What comes out is a tree that follows the tree of the
description: `Generation.components` gives the components of a node by recursion, from the typings
of the parameters alone. `Generation.componentsTrace` gives, by the same recursion, what is reported
on the way and the models that are entered.

* `grows_addMethod`, `grows_addResource` — adding a method or a resource nests just these components
  in the current class.
* `clientClass_eq` — the client class is the root class with the components of the description.
-/

namespace ClientGen

namespace Generation

open Component

/-! ## Components -/

/-- What the component of a method is called, and what its constructor takes. -/
def methodSpec (n : Naming) (site : MethodSite) : Spec where
  identifier := ⟨site.key⟩
  documentation := site.method.description
  body := bodyParam n site.method
  required := (site.method.requiredParameters.typed n.modelPackage site.type).map Typing.param

/-- The component of a method. -/
def methodDraft (n : Naming) (site : MethodSite) : Draft where
  spec := methodSpec n site
  type := {
    name := site.type
    kind := .component
    superType := some (.applied (.named n.request) [responseType n site.method])
    constants := [⟨pathConstant, .literal site.method.path⟩]
    fields := (site.method.optionalParameters.typed n.modelPackage site.type).map
      Typing.optionalField
    nested := Typing.nested (site.method.requiredParameters.typed n.modelPackage site.type) ++
      Typing.nested (site.method.optionalParameters.typed n.modelPackage site.type) }
  init := {
    name := "new"
    params := (methodSpec n site).params
    body := [.forward (baseRequest.primary.arguments (methodCall n site.method))] }

/-- The component of a resource, given those in it. -/
def resourceDraft (type : QualifiedName) (key : String) (parts : List Draft) : Draft where
  spec := { identifier := ⟨key⟩ }
  type := Draft.nestAll parts { name := type, kind := .component }
  init := { name := "new", params := [] }

/-- The class of a resource before anything is nested in it. -/
def resourceRoot (type : QualifiedName) : Class where
  name := type
  kind := .component
  constructors := [{ name := "new", params := [] }]

theorem finish_resourceDraft (type : QualifiedName) (key : String) (parts : List Draft) :
    (resourceDraft type key parts).finish = Draft.nestAll parts (resourceRoot type) := rfl

/-- The components of the methods of a class. -/
def methodDrafts (n : Naming) (owner : QualifiedName) (methods : Keyed Method) : List Draft :=
  methods.map fun (key, m) => methodDraft n ⟨owner.member key, key, m⟩

mutual

/-- The components directly below a node of the tree, whose class has the given name. -/
def components (n : Naming) (owner : QualifiedName) : Resource → List Draft
  | ⟨methods, resources⟩ => methodDrafts n owner methods ++ resourceDrafts n owner resources

/-- The components of the resources of a class. -/
def resourceDrafts (n : Naming) (owner : QualifiedName) : List (String × Resource) → List Draft
  | [] => []
  | (key, r) :: rest =>
    resourceDraft (owner.member key) key (components n (owner.member key) r) ::
      resourceDrafts n owner rest

end

theorem resourceDrafts_eq_map (n : Naming) (owner : QualifiedName)
    (resources : List (String × Resource)) :
    resourceDrafts n owner resources = resources.map fun e =>
      resourceDraft (owner.member e.1) e.1 (components n (owner.member e.1) e.2) := by
  induction resources with
  | nil => rfl
  | cons e rest ih =>
    rw [List.map_cons, ← ih]
    rfl

/-- A component at a node is that of a method or of a resource. -/
theorem mem_components {n : Naming} {owner : QualifiedName} {methods : Keyed Method}
    {resources : Keyed Resource} {d : Draft} :
    d ∈ components n owner ⟨methods, resources⟩ ↔
      (∃ e ∈ methods, methodDraft n ⟨owner.member e.1, e.1, e.2⟩ = d) ∨
        ∃ e ∈ resources, resourceDraft (owner.member e.1) e.1
          (components n (owner.member e.1) e.2) = d := by
  rw [components, methodDrafts, resourceDrafts_eq_map, List.mem_append, List.mem_map, List.mem_map]

/-! ## Reports and models -/

/-- What adding a method reports, and the models after it. -/
def methodTrace (n : Naming) (depth : Nat) (r : Registry) (site : MethodSite) :
    Traced Registry := do
  let q ← requireds n site.type (site.method.id.getD site.key) site.method.parameters r
    site.method.requiredNames
  Traced.between (.opening site.type depth) (.closing site.type) do
    let o ← optionals n site.type q.registry site.method.optionalParameters
    return o.registry

/-- What adding the methods of a class reports, and the models after it. -/
def methodsTrace (n : Naming) (owner : QualifiedName) (depth : Nat) (r : Registry)
    (methods : Keyed Method) : Traced Registry :=
  methods.foldlM (fun r (key, m) => methodTrace n depth r ⟨owner.member key, key, m⟩) r

mutual

/-- What adding the components of a node reports, and the models after it. Its components are opened
at the given depth. -/
def componentsTrace (n : Naming) (owner : QualifiedName) (depth : Nat) (r : Registry) :
    Resource → Traced Registry
  | ⟨methods, resources⟩ => do
    let r ← methodsTrace n owner depth r methods
    resourcesTrace n owner depth r resources

/-- What adding the resources of a class reports, and the models after it. -/
def resourcesTrace (n : Naming) (owner : QualifiedName) (depth : Nat) (r : Registry) :
    List (String × Resource) → Traced Registry
  | [] => pure r
  | (key, resource) :: rest => do
    let r ← Traced.between (.opening (owner.member key) depth) (.closing (owner.member key))
      (componentsTrace n (owner.member key) (depth + 1) r resource)
    resourcesTrace n owner depth r rest

end

/-! ## Adding them on the stack -/

variable {n : Naming}

/-- The work inside the scope of a method ends with its component on top. -/
theorem methodWork_eq (site : MethodSite) {q : Requireds} (s : Stack)
    (hnested : q.nested =
      Typing.nested (site.method.requiredParameters.typed n.modelPackage site.type))
    (x : Traced Optionals)
    (hx : x = optionals n site.type q.registry site.method.optionalParameters) :
    ∃ d, (do
        let o ← Work.traced x
        Work.change (·.modifyCurrent (methodContent n site.method q.nested o))
        let arguments := baseRequest.primary.arguments (methodCall n site.method)
        Work.change (·.modifyConstructor fun c => { c with body := c.body ++ [.forward arguments] })
        return o.registry : Work Registry) (s.push (.new site.type (methodSpec n site))) =
          ⟨(x >>= fun o => pure o.registry).events, s.push d,
            (x >>= fun o => pure o.registry).result⟩ ∧
      ∀ r, (x >>= fun o => pure o.registry).result = .ok r → d = methodDraft n site := by
  obtain ⟨events, e | o⟩ := x
  · exact ⟨_, rfl, fun r hr => by cases hr⟩
  · obtain ⟨-, -, hfields, hothers⟩ := optionals_ok (congrArg Traced.result hx).symm
    refine ⟨methodDraft n site, ?_, fun r _ => rfl⟩
    have hdraft : methodDraft n site =
        { Draft.new site.type (methodSpec n site) with
          type := methodContent n site.method q.nested o { name := site.type, kind := .component }
          init := {
            name := "new"
            params := (methodSpec n site).params
            body := [.forward (baseRequest.primary.arguments (methodCall n site.method))] } } := by
      rw [methodDraft, methodContent, hfields, hothers, hnested]
      rfl
    rw [hdraft]
    rfl

/-- Adding a method nests its component in the current class. -/
theorem grows_addMethod (r : Registry) (owner : QualifiedName) (depth : Nat) (key : String)
    (m : Method) :
    (addMethod n r key m).Grows owner depth
      (methodTrace n (depth + 1) r ⟨owner.member key, key, m⟩)
      [methodDraft n ⟨owner.member key, key, m⟩] := by
  refine Work.grows_childName_bind ?_
  refine Work.Grows.bind (Work.grows_traced _) ?_
  intro q hq
  obtain ⟨-, -, -, hparams, hnested⟩ := requireds_ok hq
  have hspec : (⟨⟨key⟩, m.description, bodyParam n m, q.params⟩ : Spec) =
      methodSpec n ⟨owner.member key, key, m⟩ := by
    rw [hparams]
    rfl
  simp only
  rw [hspec]
  refine Work.grows_within rfl ?_
  intro s _
  exact methodWork_eq ⟨owner.member key, key, m⟩ s hnested _ rfl

theorem grows_addMethods (methods : Keyed Method) (r : Registry) (owner : QualifiedName)
    (depth : Nat) :
    (addMethods n r methods).Grows owner depth (methodsTrace n owner (depth + 1) r methods)
      (methodDrafts n owner methods) := by
  induction methods generalizing r with
  | nil => exact Work.grows_traced (pure r)
  | cons e rest ih =>
    obtain ⟨key, m⟩ := e
    exact (grows_addMethod r owner depth key m).bind fun r' _ => ih r'

/-- Adds the components of a node to the current class. -/
def addComponents (n : Naming) (r : Registry) (node : Resource) : Work Registry := do
  let r ← addMethods n r node.methods
  addResources n r node.resources

/-- On every stack, adding the components of a node nests just these in the current class. -/
def NestsComponents (n : Naming) (node : Resource) : Prop :=
  ∀ (r : Registry) (owner : QualifiedName) (depth : Nat),
    (addComponents n r node).Grows owner depth (componentsTrace n owner (depth + 1) r node)
      (components n owner node)

/-- Adding a resource nests its component, with all that is below, in the current class. -/
theorem grows_addResource {resource : Resource} (h : NestsComponents n resource) (key : String)
    (r : Registry) (owner : QualifiedName) (depth : Nat) :
    (addResource n key r resource).Grows owner depth
      ((componentsTrace n (owner.member key) (depth + 2) r resource).between
        (.opening (owner.member key) (depth + 1)) (.closing (owner.member key)))
      [resourceDraft (owner.member key) key (components n (owner.member key) resource)] := by
  obtain ⟨methods, resources⟩ := resource
  refine Work.grows_within rfl ?_
  intro s hdepth
  obtain ⟨got, hgot, hparts⟩ := h r (owner.member key) (depth + 1)
    (s.push (.new (owner.member key) { identifier := ⟨key⟩ })) rfl
    (by rw [Stack.depth_push, hdepth])
  refine ⟨_, hgot, ?_⟩
  intro r' hr'
  rw [hparts r' hr']
  rfl

/-- Adding what is below a node nests the components that it has by recursion. -/
theorem nestsComponents (n : Naming) (node : Resource) : NestsComponents n node := by
  induction node using Resource.induction with
  | node methods resources ih =>
    have hbelow : ∀ (r : Registry) (owner : QualifiedName) (depth : Nat),
        (addResources n r resources).Grows owner depth
          (resourcesTrace n owner (depth + 1) r resources) (resourceDrafts n owner resources) := by
      induction resources with
      | nil =>
        intro r owner depth
        exact Work.grows_traced (pure r)
      | cons e rest ihrest =>
        intro r owner depth
        refine (grows_addResource (ih e List.mem_cons_self) e.1 r owner depth).bind fun r' _ => ?_
        exact ihrest (fun e he => ih e (List.mem_cons_of_mem _ he)) r' owner depth
    intro r owner depth
    exact (grows_addMethods methods r owner depth).bind fun r' _ => hbelow r' owner depth

/-- The client class is its root with the components of the description nested in it. -/
theorem clientClass_eq (n : Naming) (r : Registry) (d : Description) :
    clientClass n r d = do
      let r ← componentsTrace n n.client 1 r d.tree
      return (r, Draft.nestAll (components n n.client d.tree) (clientRoot n d)) := by
  obtain ⟨got, hgot, hparts⟩ := nestsComponents n d.tree r n.client 0 { root := clientRoot n d }
    rfl rfl
  have hdone : clientClass n r d =
      let done := addComponents n r d.tree { root := clientRoot n d }
      do
        let r ← Traced.mk done.events done.result
        let client ← Traced.ofExcept done.stack.finish
        return (r, client) := rfl
  rw [hdone, hgot]
  generalize componentsTrace n n.client (0 + 1) r d.tree = x at hparts
  obtain ⟨events, e | r'⟩ := x
  · rfl
  · rw [hparts r' rfl]
    show Traced.mk (events ++ []) _ = Traced.mk (events ++ []) _
    rfl

end Generation

end ClientGen
