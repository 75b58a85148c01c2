import ClientGen.Proofs.Api.Generated
import ClientGen.Proofs.Declaration.Tree

/-!
# What declarations are made from

Each declaration of a generated API is made from one place of the description: a class or enum from
a schema, the request type from the parameters of the API, and the classes of the client from the
nodes and methods of the tree. `Origin` lists these cases with all that is in the declaration, and
`origin_of_mem_declarations` says that there are no others, at any depth. Of models it says more:
with everything nested in them they are made from schemas alone, `allFromSchemas_model`. What is to
hold of every declaration by itself is proved case by case from there.
-/

namespace ClientGen

open Component Generation

/-! ## The cases -/

/-- What a declaration that a schema needs is made from. -/
inductive SchemaOrigin (package : List String) : Declaration → Prop
  /-- A class made of an object schema and its properties. -/
  | object (name : QualifiedName) (s : Schema) (documentation : Option String) (ts : List Typing)
    (hdocumentation : documentation = none ∨ documentation = s.documentation.map escapeDoc)
    (hvalid : ∀ t ∈ ts, t.Valid package name)
    (hentries : ts.map Typing.entry = s.properties.getD []) :
    SchemaOrigin package (.ofClass {
      name
      kind := .model
      documentation
      fields := ts.map fun t => Resolution.propertyField t.name t.schema t.type
      nested := Typing.nested ts })
  /-- An enum made of a text schema that lists its values. -/
  | enum (name : QualifiedName) (s : Schema) (constants : List EnumConstant)
    (hconstants : Resolution.enumConstants? s = some constants) :
    SchemaOrigin package (.ofEnum ⟨name, none, constants⟩)

/-- What a declaration of the API is made from. -/
inductive Origin (n : Naming) (d : Description) : Declaration → Prop
  | schema {e : Declaration} (h : SchemaOrigin n.modelPackage e) : Origin n d e
  | request : Origin n d (.ofClass (requestClass n (d.globals n)))
  | client :
    Origin n d (.ofClass (Draft.nestAll (components n n.client d.tree) (clientRoot n d)))
  | method (site : MethodSite) (hsite : site ∈ d.tree.methodSites n.client) :
    Origin n d (.ofClass (methodDraft n site).finish)
  | resource (type : QualifiedName) (node : Resource) :
    Origin n d (.ofClass (Draft.nestAll (components n type node) (resourceRoot type)))

/-- Everything in the declaration is made from schemas. -/
def AllFromSchemas (package : List String) (x : Declaration) : Prop :=
  ∀ e ∈ x.all, SchemaOrigin package e

/-- Everything in the declaration is made from the description. -/
def AllFrom (n : Naming) (d : Description) (x : Declaration) : Prop :=
  ∀ e ∈ x.all, Origin n d e

variable {package : List String} {n : Naming} {d : Description}

theorem allFromSchemas_iff {x : Declaration} :
    AllFromSchemas package x ↔ SchemaOrigin package x ∧ ∀ y ∈ x.nested, AllFromSchemas package y :=
  DeclarationOf.forall_mem_all

theorem allFrom_iff {x : Declaration} :
    AllFrom n d x ↔ Origin n d x ∧ ∀ y ∈ x.nested, AllFrom n d y :=
  DeclarationOf.forall_mem_all

theorem AllFromSchemas.allFrom {x : Declaration} (h : AllFromSchemas n.modelPackage x) :
    AllFrom n d x :=
  fun e he => .schema (h e he)

/-! ## Schemas -/

/-- The model of an object has the documentation of the object, or none. -/
theorem Resolution.documentation_of_model {package : List String} {scope : Scope} {s : Schema}
    {id : String} {r : Resolved} (hk : s.kind = .object) (hid : s.id = some id)
    (h : (resolve package scope s).result = .ok r) :
    ∃ c, r.emitted.getLast? = some (.topLevel c) ∧
      (c.documentation = none ∨ c.documentation = s.documentation.map escapeDoc) := by
  have hmodel : (resolveModel package scope s id).result = .ok r := by
    simpa only [resolve_eq, hk, resolveObject, hid] using h
  obtain ⟨p, -, hmodel⟩ := Traced.bind_result_eq_ok.1 hmodel
  rw [Traced.pure_result_eq_ok] at hmodel
  subst hmodel
  refine ⟨_, List.getLast?_concat, ?_⟩
  by_cases hscope : scope.enclosing.isNone
  · exact .inr (if_pos hscope)
  · exact .inl (if_neg hscope)

/-- Wherever the schema is used, all that it emits is made from schemas. -/
def EmitsFromSchemas (package : List String) (s : Schema) : Prop :=
  ∀ scope r, (Resolution.resolve package scope s).result = .ok r →
    ∀ x ∈ r.emitted, AllFromSchemas package x.declaration

/-- What the fields of a type need, if each of their schemas does as it should. -/
theorem allFromSchemas_typings {owner : QualifiedName} {ts : List Typing}
    (hvalid : ∀ t ∈ ts, t.Valid package owner)
    (hts : ∀ t ∈ ts, EmitsFromSchemas package t.schema) :
    (∀ x ∈ Typing.nested ts, AllFromSchemas package x) ∧
      ∀ c ∈ Typing.topLevel ts, AllFromSchemas package (.ofClass c) := by
  constructor
  · intro x hx
    obtain ⟨t, ht, hx⟩ := Typing.mem_nested.1 hx
    exact hts t ht _ _ (hvalid t ht) _ (Resolved.mem_nested.1 hx)
  · intro c hc
    obtain ⟨t, ht, hc⟩ := Typing.mem_topLevel.1 hc
    exact hts t ht _ _ (hvalid t ht) _ (Resolved.mem_topLevel.1 hc)

/-- What is emitted for an object: the models that its properties need, then its own class. -/
theorem allFromSchemas_object {name : QualifiedName} {s : Schema} {documentation : Option String}
    {ts : List Typing} {own : Emission}
    (hdocumentation : documentation = none ∨ documentation = s.documentation.map escapeDoc)
    (hvalid : ∀ t ∈ ts, t.Valid package name)
    (hentries : ts.map Typing.entry = s.properties.getD [])
    (hproperties : ∀ entries, s.properties = some entries →
      ∀ e ∈ entries, EmitsFromSchemas package e.2)
    (hown : own.declaration = .ofClass {
      name
      kind := .model
      documentation
      fields := ts.map fun t => Resolution.propertyField t.name t.schema t.type
      nested := Typing.nested ts }) :
    ∀ x ∈ (Typing.topLevel ts).map .topLevel ++ [own], AllFromSchemas package x.declaration := by
  have hbelow : ∀ t ∈ ts, EmitsFromSchemas package t.schema := by
    intro t ht
    obtain ⟨entries, hp, he⟩ := Typing.mem_properties hentries t ht
    exact hproperties entries hp _ he
  obtain ⟨hnested, htop⟩ := allFromSchemas_typings hvalid hbelow
  intro x hx
  rcases List.mem_append.1 hx with hx | hx
  · obtain ⟨c, hc, rfl⟩ := List.mem_map.1 hx
    exact htop c hc
  · rw [List.mem_singleton.1 hx, hown]
    exact allFromSchemas_iff.2
      ⟨.object name s documentation ts hdocumentation hvalid hentries, hnested⟩

theorem emitsFromSchemas (package : List String) (s : Schema) : EmitsFromSchemas package s := by
  induction s using Schema.induction with
  | node s hproperties hadditional hitems =>
    intro scope r h
    cases Resolution.outcome_of_resolve h with
    | reference | primitive | void => intro x hx; cases hx
    | enum hint enclosing constants _ _ _ hconstants =>
      intro x hx
      cases List.mem_singleton.1 hx
      exact allFromSchemas_iff.2 ⟨.enum _ s constants hconstants, fun y hy => by cases hy⟩
    | list items item _ hi hitem => exact hitems items hi scope item hitem
    | map values value _ _ _ ha hvalue => exact hadditional values ha scope value hvalue
    | model id documentation ts hk hid hts hentries =>
      obtain ⟨c, hlast, hdocumentation⟩ := Resolution.documentation_of_model hk hid h
      rw [List.getLast?_concat] at hlast
      cases hlast
      exact allFromSchemas_object hdocumentation hts hentries hproperties rfl
    | nestedClass hint enclosing ts _ _ _ _ hts hentries =>
      refine allFromSchemas_object (.inl rfl) hts ?_ hproperties rfl
      rw [hentries]
      rfl

/-- All that parameters need. -/
theorem allFromSchemas_typed {owner : QualifiedName} {parameters : Keyed Schema}
    (h : parameters.Resolve package owner) :
    (∀ x ∈ Typing.nested (parameters.typed package owner), AllFromSchemas package x) ∧
      ∀ c ∈ Typing.topLevel (parameters.typed package owner), AllFromSchemas package (.ofClass c) :=
  allFromSchemas_typings h fun t _ => emitsFromSchemas package t.schema

/-! ## Components -/

/-- What is nested in a class with components. -/
theorem allFrom_nestAll {c : Class} {parts : List Draft} (hc : c.nested = [])
    (horigin : Origin n d (.ofClass (Draft.nestAll parts c)))
    (hparts : ∀ part ∈ parts, AllFrom n d (.ofClass part.finish)) :
    AllFrom n d (.ofClass (Draft.nestAll parts c)) := by
  refine allFrom_iff.2 ⟨horigin, fun x hx => ?_⟩
  have hnested : x ∈ c.nested ++ parts.map fun part => .ofClass part.finish := hx
  rw [hc, List.nil_append] at hnested
  obtain ⟨part, hpart, rfl⟩ := List.mem_map.1 hnested
  exact hparts part hpart

theorem allFrom_method {site : MethodSite} (hsite : site ∈ d.tree.methodSites n.client)
    (h : site.Typed n) : AllFrom n d (.ofClass (methodDraft n site).finish) := by
  refine allFrom_iff.2 ⟨.method site hsite, fun x hx => ?_⟩
  have hnested :
      x ∈ Typing.nested (site.method.requiredParameters.typed n.modelPackage site.type) ++
        Typing.nested (site.method.optionalParameters.typed n.modelPackage site.type) := hx
  rcases List.mem_append.1 hnested with hx | hx
  · exact ((allFromSchemas_typed h.required).1 x hx).allFrom
  · exact ((allFromSchemas_typed h.optional).1 x hx).allFrom

/-- The components below a node whose methods are all methods of the description. -/
theorem allFrom_components (node : Resource) :
    ∀ owner, (∀ site ∈ node.methodSites owner, site ∈ d.tree.methodSites n.client ∧ site.Typed n) →
      ∀ part ∈ components n owner node, AllFrom n d (.ofClass part.finish) := by
  induction node using Resource.induction with
  | node methods resources ih =>
    intro owner hsites part hpart
    rcases mem_components.1 hpart with ⟨e, he, rfl⟩ | ⟨e, he, rfl⟩
    · obtain ⟨hsite, htyped⟩ := hsites _ (Resource.mem_methodSites.2 (.inl ⟨e, he, rfl⟩))
      exact allFrom_method hsite htyped
    · rw [finish_resourceDraft]
      refine allFrom_nestAll rfl (.resource _ e.2) (ih e he (owner.member e.1) ?_)
      intro site hsite
      exact hsites site (Resource.mem_methodSites.2 (.inr ⟨e, he, hsite⟩))

/-! ## The whole API -/

variable {api : Api}

/-- Models are made from schemas, and so is everything nested in them. -/
theorem allFromSchemas_model (h : d.Generates n api) :
    ∀ c ∈ api.models, AllFromSchemas n.modelPackage (.ofClass c) := by
  intro c hc
  replace hc := h.models.mem_iff.1 hc
  rw [Description.models, List.mem_append, List.mem_append] at hc
  rcases hc with (hc | hc) | hc
  · obtain ⟨e, he, hc⟩ := List.mem_flatMap.1 hc
    exact emitsFromSchemas _ e.2 _ _ (h.schemas e he) _ (Resolved.mem_topLevel.1 hc)
  · exact (allFromSchemas_typed h.parameters).2 c hc
  · obtain ⟨t, ht, hc⟩ := Typing.mem_topLevel.1 hc
    obtain ⟨site, hsite, ht⟩ := List.mem_flatMap.1 ht
    exact emitsFromSchemas _ t.schema _ _ ((h.methods site hsite).valid t ht) _
      (Resolved.mem_topLevel.1 hc)

/-- **Every declaration has an origin in the description**, however deep it is nested. -/
theorem origin_of_mem_declarations (h : d.Generates n api) :
    ∀ e ∈ api.declarations, Origin n d e := by
  have hclasses : ∀ c ∈ api.topLevel, AllFrom n d (.ofClass c) := by
    intro c hc
    rcases List.mem_append.1 hc with hc | hc
    · exact (allFromSchemas_model h c hc).allFrom
    rcases List.mem_cons.1 hc with rfl | hc
    · rw [h.request]
      refine allFrom_iff.2 ⟨.request, fun x hx => ?_⟩
      exact ((allFromSchemas_typed h.parameters).1 x hx).allFrom
    · rw [List.mem_singleton.1 hc, h.client]
      refine allFrom_nestAll rfl .client (allFrom_components d.tree n.client fun site hsite => ?_)
      exact ⟨hsite, h.methods site hsite⟩
  intro e he
  obtain ⟨c, hc, he⟩ := List.mem_flatMap.1 he
  exact hclasses c hc e he

/-! ## Finding a class -/

/-- The declaration is a class that passes a test. -/
def DeclarationOf.isClassWith (p : Class → Bool) : Declaration → Bool
  | .ofClass c => p c
  | .ofEnum _ => false

/-- A class that is found among the declarations of a generated API. -/
theorem exists_class_of_any {x : Traced Api} {p : Class → Bool}
    (h : x.result.toOption.any (fun api => api.declarations.any (·.isClassWith p)) = true) :
    ∃ api c, x.result = .ok api ∧ .ofClass c ∈ api.declarations ∧ p c = true := by
  obtain ⟨api, hx, hfound⟩ := Traced.exists_of_any h
  obtain ⟨e, he, hp⟩ := List.any_eq_true.1 hfound
  cases e with
  | ofClass c => exact ⟨api, c, hx, he, hp⟩
  | ofEnum => cases hp

end ClientGen
