import ClientGen.Proofs.Api.Generated
import ClientGen.Proofs.Resolution.Failure
import ClientGen.Proofs.Resolution.Models

/-!
# Why generation fails

`Description.Fault` lists what can be wrong with a description, each fault with the place where it
is: a named schema, the schema of a parameter, an id that is met again, or a required parameter that
is not declared. `fault_of_generate` says that there are no other reasons: a generation that fails
reports one of these faults, once as one in its API. A component is never closed out of order, and a
type is never missing around a field.
-/

namespace ClientGen

/-! ## Faults -/

/-- Something is wrong with one of the visited schemas, which is what the error says. -/
def Offends (visited : List Site) (e : Error) : Prop :=
  ∃ site ∈ visited, site.offence? = some e

/-- What can be wrong with a named schema, given the schemas that its visit comes by. -/
inductive NamedFault (package : List String) (visited : List Site) : Error → Prop
  | unnamedObject (field : Option String) (h : Offends visited (.unnamedObject field)) :
    NamedFault package visited (.unnamedObject field)
  | unnamedEnum (h : Offends visited .unnamedEnum) : NamedFault package visited .unnamedEnum
  | missingItems (field : Option String) (h : Offends visited (.missingItems field)) :
    NamedFault package visited (.missingItems field)
  /-- The name of a model is taken. -/
  | duplicateType (id : String) (h : id ∈ Site.modelIds visited) :
    NamedFault package visited (.duplicateType (QualifiedName.topLevel package id).dotted)

/-- What can be wrong with parameters, given the schemas that their visits come by. There is always
a field, and a type around it. -/
inductive ParameterFault (package : List String) (visited : List Site) : Error → Prop
  | unnamedObject (field : String) (h : Offends visited (.unnamedObject (some field))) :
    ParameterFault package visited (.unnamedObject (some field))
  | missingItems (field : String) (h : Offends visited (.missingItems (some field))) :
    ParameterFault package visited (.missingItems (some field))
  /-- The name of a model is taken. -/
  | duplicateType (id : String) (h : id ∈ Site.modelIds visited) :
    ParameterFault package visited (.duplicateType (QualifiedName.topLevel package id).dotted)

/-- What can be wrong with a description. -/
inductive Description.Fault (d : Description) (n : Naming) : Error → Prop
  /-- Something is wrong with a named schema, which the error names. -/
  | schema (e : String × Schema) (he : e ∈ d.schemas) (cause : Error)
    (h : NamedFault n.modelPackage (e.2.visits n.modelPackage .root) cause) :
    Fault d n (.schema e.1 cause)
  /-- Something is wrong with a parameter of the API or of a method. -/
  | parameter (cause : Error) (h : ParameterFault n.modelPackage (d.visits n) cause) :
    Fault d n cause
  /-- A method lists a parameter as required and does not declare it. -/
  | undeclaredParameter (site : MethodSite) (hsite : site ∈ d.tree.methodSites n.client)
    (parameter : String) (hlisted : parameter ∈ site.method.parameterOrder)
    (hundeclared : parameter ∉ site.method.parameters.keys) :
    Fault d n (.undeclaredParameter (site.method.id.getD site.key) parameter)

theorem ParameterFault.mono {package : List String} {visited more : List Site} {e : Error}
    (hsub : visited ⊆ more) (h : ParameterFault package visited e) :
    ParameterFault package more e := by
  have hoffends : ∀ {e}, Offends visited e → Offends more e :=
    fun ⟨site, hsite, h⟩ => ⟨site, hsub hsite, h⟩
  cases h with
  | unnamedObject field h => exact .unnamedObject field (hoffends h)
  | missingItems field h => exact .missingItems field (hoffends h)
  | duplicateType id h =>
    obtain ⟨site, hsite, hid⟩ := List.mem_filterMap.1 h
    exact .duplicateType id (List.mem_filterMap.2 ⟨site, hsub hsite, hid⟩)

/-! ## One schema -/

variable {n : Naming} {r : Registry} {e : Error}

/-- Entering a model fails only if its name is taken. -/
theorem Registry.error_of_enter {c : Class} (h : (r.enter c).result = .error e) :
    e = .duplicateType c.name.dotted := by
  unfold enter at h
  cases hc : r.register c with
  | ok entered =>
    rw [hc] at h
    cases h
  | error e' =>
    rw [hc] at h
    unfold register at hc
    split at hc
    · cases hc
    · cases hc
      cases h
      rfl

namespace Generation

/-- Settling fails if the schema cannot be resolved, or at a model of a schema below it. -/
theorem error_of_settle {scope : Scope} {s : Schema} (h : (settle n r scope s).result = .error e) :
    (Resolution.resolve n.modelPackage scope s).result = .error e ∨
      ∃ id ∈ Site.modelIds (s.visits n.modelPackage scope),
        e = .duplicateType (QualifiedName.topLevel n.modelPackage id).dotted := by
  rcases Traced.bind_result_eq_error.1 h with h | ⟨resolved, hresolved, h⟩
  · exact .inl h
  · obtain ⟨c, hc, r', hr'⟩ := Traced.exists_of_foldlM_error (Traced.bind_pure_result_eq_error h)
    have haccounted := Resolution.accounted_of_resolve s hresolved
    have hname : c.name ∈ (Site.modelIds (s.visits n.modelPackage scope)).map
        (.topLevel n.modelPackage) := haccounted.mem_iff.1 (List.mem_map_of_mem hc)
    obtain ⟨id, hid, hname⟩ := List.mem_map.1 hname
    refine .inr ⟨id, hid, ?_⟩
    rw [Registry.error_of_enter hr', hname]

/-- A named schema. -/
theorem namedFault_of_settle {s : Schema} (h : (settle n r .root s).result = .error e) :
    NamedFault n.modelPackage (s.visits n.modelPackage .root) e := by
  rcases error_of_settle h with h | ⟨id, hid, rfl⟩
  · obtain ⟨site, hsite, hoffence, ⟨field, rfl | rfl⟩ | rfl⟩ := Resolution.error_of_resolve_root h
    · exact .unnamedObject field ⟨site, hsite, hoffence⟩
    · exact .missingItems field ⟨site, hsite, hoffence⟩
    · exact .unnamedEnum ⟨site, hsite, hoffence⟩
  · exact .duplicateType id hid

/-- A field or parameter of a type. -/
theorem parameterFault_of_settle {hint : Identifier} {owner : QualifiedName} {s : Schema}
    (h : (settle n r (.field hint owner) s).result = .error e) :
    ParameterFault n.modelPackage (s.visits n.modelPackage (.field hint owner)) e := by
  rcases error_of_settle h with h | ⟨id, hid, rfl⟩
  · obtain ⟨site, hsite, hoffence, field, rfl | rfl⟩ := Resolution.error_of_resolve_field h
    · exact .unnamedObject field ⟨site, hsite, hoffence⟩
    · exact .missingItems field ⟨site, hsite, hoffence⟩
  · exact .duplicateType id hid

/-! ## Parameters -/

/-- The schemas below the first of several parameters, and those below the others. -/
theorem visits_cons (owner : QualifiedName) (entry : String × Schema) (rest : Keyed Schema) :
    Keyed.visits n.modelPackage owner (entry :: rest) =
      entry.2.visits n.modelPackage (.field ⟨entry.1⟩ owner) ++ rest.visits n.modelPackage owner :=
  List.flatMap_cons

theorem parameterFault_of_optionals {owner : QualifiedName} {parameters : Keyed Schema}
    (h : (optionals n owner r parameters).result = .error e) :
    ParameterFault n.modelPackage (parameters.visits n.modelPackage owner) e := by
  induction parameters generalizing r with
  | nil => exact absurd h (Traced.pure_result_ne_error _ _)
  | cons entry rest ih =>
    obtain ⟨name, schema⟩ := entry
    rw [visits_cons]
    rcases Traced.bind_result_eq_error.1 h with h | ⟨settled, -, h⟩
    · exact (parameterFault_of_settle h).mono (List.subset_append_left _ _)
    · exact (ih (Traced.bind_pure_result_eq_error h)).mono (List.subset_append_right _ _)

theorem fault_of_requireds {owner : QualifiedName} {method : String} {parameters : Keyed Schema}
    {names : List String} (h : (requireds n owner method parameters r names).result = .error e) :
    ParameterFault n.modelPackage ((parameters.select names).visits n.modelPackage owner) e ∨
      ∃ name ∈ names, name ∉ parameters.keys ∧ e = .undeclaredParameter method name := by
  induction names generalizing r with
  | nil => exact absurd h (Traced.pure_result_ne_error _ _)
  | cons name rest ih =>
    rw [requireds] at h
    cases hfind : parameters.find? name with
    | none =>
      rw [hfind] at h
      cases h
      exact .inr ⟨name, List.mem_cons_self, Keyed.find?_eq_none.1 hfind, rfl⟩
    | some schema =>
      have hselect : parameters.select (name :: rest) =
          (name, schema) :: parameters.select rest := by
        rw [Keyed.select, List.filterMap_cons, hfind]
        rfl
      rw [hfind] at h
      rw [hselect, visits_cons]
      rcases Traced.bind_result_eq_error.1 h with h | ⟨settled, -, h⟩
      · exact .inl ((parameterFault_of_settle h).mono (List.subset_append_left _ _))
      · rcases ih (Traced.bind_pure_result_eq_error h) with h | ⟨missing, hmissing, h⟩
        · exact .inl (h.mono (List.subset_append_right _ _))
        · exact .inr ⟨missing, List.mem_cons_of_mem _ hmissing, h⟩

end Generation

/-! ## Methods -/

/-- What can be wrong with a method. -/
def MethodSite.Fault (n : Naming) (site : MethodSite) (e : Error) : Prop :=
  ParameterFault n.modelPackage (site.method.callParameters.visits n.modelPackage site.type) e ∨
    ∃ name ∈ site.method.parameterOrder, name ∉ site.method.parameters.keys ∧
      e = .undeclaredParameter (site.method.id.getD site.key) name

/-- A required parameter that is not declared is listed: those that say themselves that they are
required are declared. -/
theorem mem_parameterOrder {m : Method} {name : String} (h : name ∈ m.requiredNames)
    (hundeclared : name ∉ m.parameters.keys) : name ∈ m.parameterOrder := by
  rcases List.mem_append.1 h with h | h
  · exact h
  · obtain ⟨entry, hentry, rfl⟩ := List.mem_map.1 h
    exact absurd (List.mem_map_of_mem (List.mem_filter.1 hentry).1) hundeclared

namespace Generation

theorem fault_of_methodTrace {depth : Nat} {site : MethodSite}
    (h : (methodTrace n depth r site).result = .error e) : site.Fault n e := by
  rw [MethodSite.Fault, Method.callParameters_eq, Keyed.visits_append]
  rcases Traced.bind_result_eq_error.1 h with h | ⟨q, -, h⟩
  · rcases fault_of_requireds h with h | ⟨name, hname, hundeclared, rfl⟩
    · exact .inl (h.mono (List.subset_append_left _ _))
    · exact .inr ⟨name, mem_parameterOrder hname hundeclared, hundeclared, rfl⟩
  · rw [Traced.between] at h
    have hoptionals := parameterFault_of_optionals (Traced.bind_pure_result_eq_error h)
    exact .inl (hoptionals.mono (List.subset_append_right _ _))

theorem fault_of_methodsTrace {owner : QualifiedName} {depth : Nat} {methods : Keyed Method}
    (h : (methodsTrace n owner depth r methods).result = .error e) :
    ∃ m ∈ methods, MethodSite.Fault n ⟨owner.member m.1, m.1, m.2⟩ e := by
  obtain ⟨m, hm, r', hr'⟩ := Traced.exists_of_foldlM_error h
  exact ⟨m, hm, fault_of_methodTrace hr'⟩

/-- If the components of a node cannot be added, something is wrong with a method below it. -/
theorem fault_of_componentsTrace (node : Resource) :
    ∀ {owner : QualifiedName} {depth : Nat} {r : Registry},
      (componentsTrace n owner depth r node).result = .error e →
        ∃ site ∈ node.methodSites owner, site.Fault n e := by
  induction node using Resource.induction with
  | node methods resources ih =>
    have hbelow : ∀ {owner : QualifiedName} {depth : Nat} {r : Registry},
        (resourcesTrace n owner depth r resources).result = .error e →
          ∃ child ∈ resources, ∃ site ∈ child.2.methodSites (owner.member child.1),
            site.Fault n e := by
      induction resources with
      | nil =>
        intro owner depth r h
        exact absurd h (Traced.pure_result_ne_error _ _)
      | cons child rest ihrest =>
        intro owner depth r h
        rcases Traced.bind_result_eq_error.1 h with h | ⟨r', -, h⟩
        · obtain ⟨site, hsite, hfault⟩ := ih child List.mem_cons_self h
          exact ⟨child, List.mem_cons_self, site, hsite, hfault⟩
        · obtain ⟨other, hother, hsites⟩ :=
            ihrest (fun c hc => ih c (List.mem_cons_of_mem _ hc)) h
          exact ⟨other, List.mem_cons_of_mem _ hother, hsites⟩
    intro owner depth r h
    rcases Traced.bind_result_eq_error.1 h with h | ⟨r', -, h⟩
    · obtain ⟨m, hm, hfault⟩ := fault_of_methodsTrace h
      exact ⟨_, Resource.mem_methodSites.2 (.inl ⟨m, hm, rfl⟩), hfault⟩
    · obtain ⟨child, hchild, site, hsite, hfault⟩ := hbelow h
      exact ⟨site, Resource.mem_methodSites.2 (.inr ⟨child, hchild, hsite⟩), hfault⟩

end Generation

/-! ## The whole API -/

variable {d : Description}

/-- The models cannot be made if something is wrong with one of the named schemas. -/
theorem fault_of_models (h : (Generation.models n d.schemas).result = .error e) : d.Fault n e := by
  obtain ⟨entry, hentry, r', h⟩ := Traced.exists_of_foldlM_error h
  rw [Traced.report_bind_result] at h
  obtain ⟨cause, hcause, rfl⟩ :=
    Traced.mapError_result_eq_error.1 (Traced.bind_pure_result_eq_error h)
  exact .schema entry hentry cause (Generation.namedFault_of_settle hcause)

/-- What is wrong with a method is wrong with the description. -/
theorem MethodSite.Fault.description {site : MethodSite}
    (hsite : site ∈ d.tree.methodSites n.client) (h : site.Fault n e) : d.Fault n e := by
  rcases h with h | ⟨name, hlisted, hundeclared, rfl⟩
  · refine .parameter e (h.mono fun visited hvisited => ?_)
    exact List.mem_append_right _ (List.mem_flatMap.2 ⟨site, hsite, hvisited⟩)
  · exact .undeclaredParameter site hsite name hlisted hundeclared

theorem fault_of_build (h : (d.build n).result = .error e) : d.Fault n e := by
  rcases Traced.bind_result_eq_error.1 h with h | ⟨r, -, h⟩
  · exact fault_of_models h
  rcases Traced.bind_result_eq_error.1 h with h | ⟨o, -, h⟩
  · refine .parameter e ((Generation.parameterFault_of_optionals h).mono fun visited hvisited => ?_)
    exact List.mem_append_left _ (List.mem_append_right _ hvisited)
  rcases Traced.bind_result_eq_error.1 h with h | ⟨c, -, h⟩
  · rw [Generation.clientClass_eq] at h
    obtain ⟨site, hsite, hfault⟩ :=
      Generation.fault_of_componentsTrace d.tree (Traced.bind_pure_result_eq_error h)
    exact hfault.description hsite
  · cases h

/-- **Generation fails for a reason.** Whenever no API is generated, the error says in which API
that is, once, and what is wrong with its description. -/
theorem fault_of_generate {settings : Settings} (h : (d.generate settings).result = .error e) :
    ∃ cause, e = .api (d.name ++ ":" ++ d.version) cause ∧
      d.Fault (d.naming settings) cause := by
  obtain ⟨cause, hcause, rfl⟩ := Traced.mapError_result_eq_error.1 h
  have hfault := fault_of_build hcause
  refine ⟨cause, ?_, hfault⟩
  rcases hfault with - | ⟨-, - | - | -⟩ | - <;> rfl

/-- The books API with a parameter that is a list, and does not say of what. -/
def Description.tags : Description :=
  { Description.shelves with parameters := [("tags", { type := some "array" })] }

theorem fault_of_generate_tags :
    (Description.tags.generate {}).result =
        .error (.api "books:v1" (.missingItems (some "tags"))) ∧
      ∃ cause, Error.api "books:v1" (.missingItems (some "tags")) =
          .api (Description.tags.name ++ ":" ++ Description.tags.version) cause ∧
        Description.tags.Fault (Description.tags.naming {}) cause := by
  have h : (Description.tags.generate {}).result =
      .error (.api "books:v1" (.missingItems (some "tags"))) := rfl
  exact ⟨h, fault_of_generate h⟩

end ClientGen
