import ClientGen.Proofs.Api.Generated
import ClientGen.Proofs.Resolution.Packages

/-!
# Generation under another base package

The base package has no part in generation but that packages begin with it. If all names are moved
to other packages in the same way, every stage of generation succeeds as before, and gives what it
gave, moved: models and their registry, parameters, and the components of the client, which are
known in full from `clientClass_eq`. `image_build` puts these together for any change of packages,
and `generate_rebase` is the case where one base package replaces another.
-/

namespace ClientGen

open Component Generation
open Traced (Image image_pure image_fail)

variable (f : List String → List String)

/-! ## The registry -/

/-- The models in other packages; their order is that of their simple names and stays. -/
def Registry.mapPackages (r : Registry) : Registry where
  classes := r.classes.map (Class.mapPackages f)
  ordered := by
    rw [List.pairwise_map]
    simpa using r.ordered

theorem Class.insertInto_mapPackages (c : Class) (classes : List Class) :
    (c.mapPackages f).insertInto (classes.map (mapPackages f)) =
      (c.insertInto classes).map (mapPackages f) := by
  induction classes with
  | nil => rfl
  | cons d rest ih =>
    rw [List.map_cons, insertInto, insertInto, simpleName_mapPackages, simpleName_mapPackages, ih]
    by_cases h : c.simpleName < d.simpleName
    · rw [if_pos h, if_pos h, List.map_cons, List.map_cons]
    · rw [if_neg h, if_neg h, List.map_cons]

theorem Registry.image_enter (r : Registry) (c : Class) :
    Image (mapPackages f) (r.enter c) ((r.mapPackages f).enter (c.mapPackages f)) := by
  have hiff : (∀ d ∈ (r.mapPackages f).classes, d.simpleName ≠ (c.mapPackages f).simpleName) ↔
      ∀ d ∈ r.classes, d.simpleName ≠ c.simpleName := by
    simp [mapPackages]
  by_cases hfree : ∀ d ∈ r.classes, d.simpleName ≠ c.simpleName
  · unfold enter register
    rw [dif_pos hfree, dif_pos (hiff.2 hfree)]
    refine Image.report_bind (image_pure ?_)
    simp only [mapPackages, Class.insertInto_mapPackages]
  · unfold enter register
    rw [dif_neg hfree, dif_neg (mt hiff.1 hfree)]
    exact image_fail

/-! ## Names -/

/-- The second naming is the first one in other packages. -/
structure Naming.Moves (n n' : Naming) : Prop where
  package : n'.package = f n.package
  modelPackage : n'.modelPackage = f n.modelPackage
  client : n'.client = n.client.mapPackage f
  request : n'.request = n.request.mapPackage f

variable {f} {n n' : Naming}

theorem Traced.Image.between {α β : Type} {g : α → β} {x : Traced α} {y : Traced β}
    (h : Image g x y) {first first' last last' : Event} :
    Image g (x.between first last) (y.between first' last') := h

/-! ## Schemas and parameters -/

namespace Generation

def Settled.mapPackages (f : List String → List String) (s : Settled) : Settled where
  registry := s.registry.mapPackages f
  type := s.type.mapPackages f
  nested := s.nested.map (DeclarationOf.mapPackages f)

def Optionals.mapPackages (f : List String → List String) (o : Optionals) : Optionals where
  registry := o.registry.mapPackages f
  fields := o.fields.map (Field.mapPackages f)
  nested := o.nested.map (DeclarationOf.mapPackages f)

def Requireds.mapPackages (f : List String → List String) (q : Requireds) : Requireds where
  registry := q.registry.mapPackages f
  params := q.params.map (Param.mapPackages f)
  nested := q.nested.map (DeclarationOf.mapPackages f)

theorem image_settle (hn : n.Moves f n') (r : Registry) (scope : Scope) (schema : Schema) :
    Image (Settled.mapPackages f) (settle n r scope schema)
      (settle n' (r.mapPackages f) (scope.mapPackages f) schema) := by
  unfold settle
  rw [hn.modelPackage]
  refine Image.bind (Resolution.image_resolve f n.modelPackage schema scope) fun resolved => ?_
  rw [Resolved.topLevel_mapPackages]
  refine Image.bind (Image.foldlM (Registry.image_enter f) resolved.topLevel r) fun registry => ?_
  apply image_pure
  rw [Resolved.nested_mapPackages]
  rfl

theorem image_models (hn : n.Moves f n') (schemas : Keyed Schema) :
    Image (Registry.mapPackages f) (models n schemas) (models n' schemas) := by
  refine Image.foldlM_same (F := Registry.mapPackages f) (fun r e => ?_) schemas .empty
  apply Image.report_bind
  refine Image.bind (image_settle hn r .root e.2).mapError fun settled => ?_
  exact image_pure rfl

theorem image_optionals (hn : n.Moves f n') (owner : QualifiedName) (parameters : Keyed Schema)
    (r : Registry) :
    Image (Optionals.mapPackages f) (optionals n owner r parameters)
      (optionals n' (owner.mapPackage f) (r.mapPackages f) parameters) := by
  induction parameters generalizing r with
  | nil => exact image_pure rfl
  | cons e rest ih =>
    obtain ⟨name, schema⟩ := e
    rw [optionals, optionals]
    refine Image.bind (image_settle hn r (.field ⟨name⟩ owner) schema) fun settled => ?_
    refine Image.bind (ih settled.registry) fun others => ?_
    apply image_pure
    rw [Optionals.mapPackages, Optionals.mapPackages, List.map_append]
    rfl

theorem image_requireds (hn : n.Moves f n') (owner : QualifiedName) (method : String)
    (parameters : Keyed Schema) (names : List String) (r : Registry) :
    Image (Requireds.mapPackages f) (requireds n owner method parameters r names)
      (requireds n' (owner.mapPackage f) method parameters (r.mapPackages f) names) := by
  induction names generalizing r with
  | nil => exact image_pure rfl
  | cons name rest ih =>
    rw [requireds, requireds]
    cases parameters.find? name with
    | none => exact image_fail
    | some schema =>
      refine Image.bind (image_settle hn r (.field ⟨name⟩ owner) schema) fun settled => ?_
      refine Image.bind (ih settled.registry) fun others => ?_
      apply image_pure
      rw [Requireds.mapPackages, Requireds.mapPackages, List.map_append]
      rfl

/-! ## The models that components need -/

theorem member_mapPackage (owner : QualifiedName) (key : String) :
    (owner.mapPackage f).member key = (owner.member key).mapPackage f :=
  (owner.mapPackage_nested f _).symm

theorem image_methodTrace (hn : n.Moves f n') (depth : Nat) (r : Registry) (owner : QualifiedName)
    (key : String) (m : Method) :
    Image (Registry.mapPackages f) (methodTrace n depth r ⟨owner, key, m⟩)
      (methodTrace n' depth (r.mapPackages f) ⟨owner.mapPackage f, key, m⟩) := by
  refine Image.bind (image_requireds hn owner _ _ _ r) fun q => ?_
  apply Image.between
  refine Image.bind (image_optionals hn owner m.optionalParameters q.registry) fun o => ?_
  exact image_pure rfl

theorem image_methodsTrace (hn : n.Moves f n') (depth : Nat) (owner : QualifiedName)
    (methods : Keyed Method) (r : Registry) :
    Image (Registry.mapPackages f) (methodsTrace n owner depth r methods)
      (methodsTrace n' (owner.mapPackage f) depth (r.mapPackages f) methods) := by
  refine Image.foldlM_same (F := Registry.mapPackages f) (fun r e => ?_) methods r
  simp only [member_mapPackage]
  exact image_methodTrace hn depth r (owner.member e.1) e.1 e.2

theorem image_componentsTrace (hn : n.Moves f n') (node : Resource) :
    ∀ (owner : QualifiedName) (depth : Nat) (r : Registry),
      Image (Registry.mapPackages f) (componentsTrace n owner depth r node)
        (componentsTrace n' (owner.mapPackage f) depth (r.mapPackages f) node) := by
  induction node using Resource.induction with
  | node methods resources ih =>
    have hbelow : ∀ (owner : QualifiedName) (depth : Nat) (r : Registry),
        Image (Registry.mapPackages f) (resourcesTrace n owner depth r resources)
          (resourcesTrace n' (owner.mapPackage f) depth (r.mapPackages f) resources) := by
      induction resources with
      | nil =>
        intro owner depth r
        exact image_pure rfl
      | cons e rest ihrest =>
        intro owner depth r
        rw [resourcesTrace, resourcesTrace, member_mapPackage]
        have hfirst := ih e List.mem_cons_self (owner.member e.1) (depth + 1) r
        refine Image.bind (Image.between hfirst) ?_
        exact ihrest (fun e he => ih e (List.mem_cons_of_mem _ he)) owner depth
    intro owner depth r
    rw [componentsTrace, componentsTrace]
    exact Image.bind (image_methodsTrace hn depth owner methods r) fun r => hbelow owner depth r

end Generation

/-! ## What is made of parameters -/

theorem Resolution.resolved_mapPackages (f : List String → List String) (package : List String)
    (scope : Scope) (s : Schema) :
    resolved (f package) (scope.mapPackages f) s = (resolved package scope s).mapPackages f := by
  have h : (resolve (f package) (scope.mapPackages f) s).result.toOption = _ :=
    image_resolve f package s scope
  rw [resolved, resolved, h]
  exact Option.getD_map (Resolved.mapPackages f) { type := .void } _

def Typing.mapPackages (f : List String → List String) (t : Typing) : Typing :=
  { t with resolved := t.resolved.mapPackages f }

theorem Typing.nested_mapPackages (ts : List Typing) :
    nested (ts.map (mapPackages f)) = (nested ts).map (DeclarationOf.mapPackages f) := by
  rw [nested, nested, List.flatMap_map, List.map_flatMap]
  congr 1
  funext t
  exact t.resolved.nested_mapPackages f

theorem Keyed.typed_mapPackages (package : List String) (owner : QualifiedName)
    (entries : Keyed Schema) :
    entries.typed (f package) (owner.mapPackage f) =
      (entries.typed package owner).map (Typing.mapPackages f) := by
  rw [typed, typed, List.map_map]
  congr 1
  funext e
  have h := Resolution.resolved_mapPackages f package (.field ⟨e.1⟩ owner) e.2
  exact congrArg (Typing.mk e.1 e.2) h

/-! ## Components -/

namespace Component

def Spec.mapPackages (f : List String → List String) (s : Spec) : Spec :=
  { s with
    body := s.body.map (Param.mapPackages f)
    required := s.required.map (Param.mapPackages f) }

def Draft.mapPackages (f : List String → List String) (d : Draft) : Draft where
  spec := d.spec.mapPackages f
  type := d.type.mapPackages f
  init := d.init.mapPackages f

theorem Spec.params_mapPackages (s : Spec) :
    (s.mapPackages f).params = s.params.map (Param.mapPackages f) := by
  obtain ⟨identifier, documentation, body, required⟩ := s
  cases body <;> simp [params, mapPackages]

theorem paramField_mapPackages (key : Bool) (p : Param) :
    paramField key (p.mapPackages f) = (paramField key p).mapPackages f := rfl

namespace Draft

theorem paramFields_mapPackages (d : Draft) :
    (d.mapPackages f).paramFields = d.paramFields.map (Field.mapPackages f) := by
  obtain ⟨⟨identifier, documentation, body, required⟩, type, init⟩ := d
  cases body <;> simp [paramFields, mapPackages, Spec.mapPackages, paramField_mapPackages]

/-- A component in other packages is finished as it was. -/
theorem finish_mapPackages (d : Draft) : (d.mapPackages f).finish = d.finish.mapPackages f := by
  have hparams : (d.mapPackages f).spec.params = d.spec.params.map (Param.mapPackages f) :=
    d.spec.params_mapPackages
  rw [finish, finish, paramFields_mapPackages, hparams, Class.mapPackages_eq]
  simp only [mapPackages, Constructor.mapPackages, List.map_append, List.map_cons, List.map_nil,
    List.map_map]
  rw [Class.mapPackages_eq]
  rfl

theorem factory_mapPackages (d : Draft) :
    (d.mapPackages f).factory = d.factory.mapPackages f := by
  have hparams : (d.mapPackages f).spec.params = d.spec.params.map (Param.mapPackages f) :=
    d.spec.params_mapPackages
  rw [factory, factory, hparams, Factory.mapPackages, mapPackages, Class.mapPackages_eq]
  rfl

/-- A class with components in it, in other packages. -/
theorem nestAll_mapPackages (parts : List Draft) (c : Class) :
    nestAll (parts.map (mapPackages f)) (c.mapPackages f) = (nestAll parts c).mapPackages f := by
  rw [nestAll, nestAll, Class.mapPackages_eq, Class.mapPackages_eq, List.map_map, List.map_map]
  simp only [List.map_append, List.map_map]
  congr 2
  · apply List.map_congr_left
    intro d _
    exact d.factory_mapPackages
  · apply List.map_congr_left
    intro d _
    exact congrArg DeclarationOf.ofClass d.finish_mapPackages

end Draft

end Component

namespace Generation

/-! ## What is passed on to the runtime -/

theorem genericType_mapPackages (c : RequestContract) :
    c.genericType.mapPackages f = c.genericType := by
  have hvariables : ∀ names : List String,
      TypeRef.mapAllPackages f (names.map .variable) = names.map .variable := by
    intro names
    induction names with
    | nil => rfl
    | cons name rest ih => rw [List.map_cons, TypeRef.mapAllPackages, ih, TypeRef.mapPackages]
  rw [RequestContract.genericType, TypeRef.mapPackages, TypeRef.mapPackages, hvariables]

theorem declared_mapPackages (p : RuntimeParam) (response : TypeRef) :
    p.declared (response.mapPackages f) = (p.declared response).mapPackages f := by
  obtain ⟨name, role⟩ := p
  cases role <;> rfl

theorem requestConstructor_mapPackages (response : TypeRef) (c : RuntimeConstructor) :
    requestConstructor (response.mapPackages f) c =
      (requestConstructor response c).mapPackages f := by
  simp only [requestConstructor, Constructor.mapPackages, Statement.mapPackages, List.map_map,
    List.map_cons, List.map_nil]
  congr 1
  apply List.map_congr_left
  intro p _
  exact declared_mapPackages p response

theorem responseType_mapPackages (hn : n.Moves f n') (m : Method) :
    responseType n' m = (responseType n m).mapPackages f := by
  rw [responseType, responseType]
  cases m.response with
  | none => rfl
  | some target => exact congrArg (Resolution.reference · target) hn.modelPackage

theorem bodyParam_mapPackages (hn : n.Moves f n') (m : Method) :
    bodyParam n' m = (bodyParam n m).map (Param.mapPackages f) := by
  rw [bodyParam, bodyParam]
  cases m.request with
  | none => rfl
  | some target =>
    have htype : n'.reference target = (n.reference target).mapPackages f :=
      congrArg (Resolution.reference · target) hn.modelPackage
    rw [Option.map_some, htype]
    rfl

theorem arguments_mapPackages (hn : n.Moves f n') (m : Method) (c : RuntimeConstructor) :
    c.arguments (methodCall n' m) = (c.arguments (methodCall n m)).map (Expr.mapPackages f) := by
  rw [RuntimeConstructor.arguments, RuntimeConstructor.arguments, List.map_map]
  apply List.map_congr_left
  intro p _
  obtain ⟨name, role⟩ := p
  cases role with
  | responseType => exact congrArg Expr.type (responseType_mapPackages hn m)
  | content => cases h : m.request <;> simp [MethodCall.argument, methodCall, h, Expr.mapPackages]
  | _ => rfl

/-! ## The classes of the client -/

theorem requestClass_mapPackages (hn : n.Moves f n') (o : Optionals) :
    requestClass n' (o.mapPackages f) = (requestClass n o).mapPackages f := by
  have hname : n'.client.simpleName = n.client.simpleName := by
    rw [hn.client]
    rfl
  have hdocumentation : requestDocumentation n' = requestDocumentation n := by
    unfold requestDocumentation
    rw [hname]
  rw [Class.mapPackages_eq, requestClass, requestClass, hdocumentation, hn.request]
  -- the text itself does not matter
  generalize requestDocumentation n = documentation
  have hresponse : ((baseRequest.typeParameters.head?.map TypeRef.variable).getD
      .void).mapPackages f =
        (baseRequest.typeParameters.head?.map TypeRef.variable).getD .void := by
    cases baseRequest.typeParameters.head? <;> rfl
  have hconstructors : ∀ response : TypeRef, response.mapPackages f = response →
      (baseRequest.constructors.map (requestConstructor response)).map (Constructor.mapPackages f) =
        baseRequest.constructors.map (requestConstructor response) := by
    intro response h
    rw [List.map_map]
    apply List.map_congr_left
    intro c _
    rw [Function.comp_apply, ← requestConstructor_mapPackages, h]
  simp only [hconstructors _ hresponse, Option.map_some, genericType_mapPackages]
  rfl

theorem clientRoot_mapPackages (hn : n.Moves f n') (d : Description) :
    clientRoot n' d = (clientRoot n d).mapPackages f := by
  rw [Class.mapPackages_eq, clientRoot, hn.client]
  rfl

theorem methodSpec_mapPackages (hn : n.Moves f n') (owner : QualifiedName) (key : String)
    (m : Method) :
    methodSpec n' ⟨owner.mapPackage f, key, m⟩ = (methodSpec n ⟨owner, key, m⟩).mapPackages f := by
  simp only [methodSpec, Spec.mapPackages, hn.modelPackage, Keyed.typed_mapPackages,
    bodyParam_mapPackages hn, List.map_map]
  rfl

theorem methodDraft_mapPackages (hn : n.Moves f n') (owner : QualifiedName) (key : String)
    (m : Method) :
    methodDraft n' ⟨owner.mapPackage f, key, m⟩ =
      (methodDraft n ⟨owner, key, m⟩).mapPackages f := by
  rw [methodDraft, methodSpec_mapPackages hn, Draft.mapPackages, Class.mapPackages_eq]
  simp only [hn.modelPackage, hn.request, Keyed.typed_mapPackages, Typing.nested_mapPackages,
    responseType_mapPackages hn, arguments_mapPackages hn, Spec.params_mapPackages]
  simp only [methodDraft, Constructor.mapPackages, List.map_append, List.map_map]
  rfl

theorem resourceDraft_mapPackages (type : QualifiedName) (key : String) (parts : List Draft) :
    resourceDraft (type.mapPackage f) key (parts.map (Draft.mapPackages f)) =
      (resourceDraft type key parts).mapPackages f := by
  rw [resourceDraft, resourceDraft, Draft.mapPackages, ← Draft.nestAll_mapPackages,
    Class.mapPackages_eq]
  rfl

/-- The components of a node in other packages. -/
theorem components_mapPackages (hn : n.Moves f n') (node : Resource) :
    ∀ owner : QualifiedName, components n' (owner.mapPackage f) node =
      (components n owner node).map (Draft.mapPackages f) := by
  induction node using Resource.induction with
  | node methods resources ih =>
    intro owner
    rw [components, components, resourceDrafts_eq_map, resourceDrafts_eq_map, methodDrafts,
      methodDrafts, List.map_append, List.map_map, List.map_map]
    simp only [member_mapPackage]
    congr 1
    · apply List.map_congr_left
      intro e _
      exact methodDraft_mapPackages hn (owner.member e.1) e.1 e.2
    · apply List.map_congr_left
      intro e he
      rw [Function.comp_apply, ← resourceDraft_mapPackages, ih e he (owner.member e.1)]

theorem image_clientClass (hn : n.Moves f n') (r : Registry) (d : Description) :
    Image (fun (r, client) => (r.mapPackages f, client.mapPackages f)) (clientClass n r d)
      (clientClass n' (r.mapPackages f) d) := by
  rw [clientClass_eq, clientClass_eq, hn.client]
  refine Image.bind (image_componentsTrace hn d.tree n.client 1 r) fun r => image_pure ?_
  rw [components_mapPackages hn, clientRoot_mapPackages hn, Draft.nestAll_mapPackages]

end Generation

/-! ## The whole API -/

/-- If names move to other packages, the API is generated as before and moves with them. -/
theorem image_build (hn : n.Moves f n') (d : Description) :
    Image (Api.mapPackages f) (d.build n) (d.build n') := by
  unfold Description.build
  rw [hn.request]
  refine Image.bind (image_models hn d.schemas) fun r => ?_
  refine Image.bind (image_optionals hn n.request d.parameters r) fun o => ?_
  refine Image.bind (image_clientClass hn o.registry d) fun (r, client) => ?_
  apply Image.report_bind
  apply image_pure
  rw [requestClass_mapPackages hn, hn.package, hn.modelPackage]
  rfl

/-! ## Base packages -/

/-- The package with another base package in the place of its own. -/
def rebase (base other package : List String) : List String :=
  if base <+: package then other ++ package.drop base.length else package

theorem rebase_append (base other rest : List String) :
    rebase base other (base ++ rest) = other ++ rest := by
  rw [rebase, if_pos (List.prefix_append base rest), List.drop_left]

example : rebase ["generated"] ["acme", "apis"] ["generated", "books", "model"] =
    ["acme", "apis", "books", "model"] := by decide

/-- All the names of a description under one base package are those under another, moved. -/
theorem moves_of_append {f : List String → List String} {base other : List String}
    (h : ∀ rest, f (base ++ rest) = other ++ rest) (d : Description) :
    Naming.Moves f (.ofDescription d base) (.ofDescription d other) where
  package := (h _).symm
  modelPackage := by
    simp only [Naming.modelPackage, Naming.ofDescription, List.append_assoc, h]
  client := by
    simp only [Naming.ofDescription, QualifiedName.mapPackage_topLevel, h]
  request := by
    simp only [Naming.ofDescription, QualifiedName.mapPackage_topLevel, h]

/-- **The base package decides nothing but where names are.** Whatever the two settings, an API is
generated under both or under none, and the second one is the first with the one base package in the
place of the other: in its own packages, and in those of all names in its classes. All of them do
begin with it, since the API is the one under no base package, moved below the base package. -/
theorem generate_rebase (d : Description) (settings other : Settings) :
    (d.generate other).result.toOption =
        (d.generate settings).result.toOption.map
          (Api.mapPackages (rebase settings.baseSegments other.baseSegments)) ∧
      (d.generate settings).result.toOption =
        (d.generate { settings with basePackage := "" }).result.toOption.map
          (Api.mapPackages (settings.baseSegments ++ ·)) := by
  constructor
  · have hmoves := moves_of_append (rebase_append settings.baseSegments other.baseSegments) d
    exact (image_build hmoves d).mapError
  · have hbare : ({ settings with basePackage := "" } : Settings).baseSegments = [] := by
      simp only [Settings.baseSegments]
      decide +kernel
    have hmoves : Naming.Moves (settings.baseSegments ++ ·) (.ofDescription d [])
        (.ofDescription d settings.baseSegments) := moves_of_append (fun _ => rfl) d
    rw [← hbare] at hmoves
    exact (image_build hmoves d).mapError

end ClientGen
