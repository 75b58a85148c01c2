import ClientGen.Proofs.Api.Models
import ClientGen.Proofs.Registry.AnyOrder
import ClientGen.Proofs.Resolution.Emissions
import ClientGen.Proofs.Resolution.Warnings

/-!
# Models in the log

Every model is reported when it is registered, with the number of declarations nested in it, and a
summary gives the number of models in the end. Models come from schemas that are resolved all over
the description, while the registry keeps them in the order of their names, and generation can fail
between any two of them.

`Traced.Registers` says of a computation which classes it registers from a registry on, and that
even if it fails, it never comes by a name twice. It holds of every stage of generation, of
`registers_enter` to begin with, and of one stage after another, `Registers.bind`. The order is that
of the visits: `below_first` says that what is below a schema is resolved before it.
`log_accounts_for_models` is the log as a whole.
-/

namespace ClientGen

/-! ## Reading a log -/

/-- What is reported of a model: its name, and the number of declarations directly in it. -/
def Class.registration (c : Class) : QualifiedName × Nat :=
  (c.name, c.nested.length)

namespace Event

/-- The model that is registered, and the number of declarations directly in it. -/
def registration? : Event → Option (QualifiedName × Nat)
  | registered type nested => some (type, nested)
  | _ => none

/-- The models that are registered, in order. -/
def registrations (events : List Event) : List (QualifiedName × Nat) :=
  events.filterMap registration?

/-- The event is neither a summary nor news of a model. -/
def IsMinor (e : Event) : Prop :=
  e.level ≠ .info ∧ e.registration? = none

variable {events more : List Event}

theorem registrations_append :
    registrations (events ++ more) = registrations events ++ registrations more :=
  List.filterMap_append

theorem registrations_minor (h : ∀ e ∈ events, e.IsMinor) : registrations events = [] :=
  List.filterMap_eq_nil_iff.2 fun e he => (h e he).2

/-- Warnings are about schemas. -/
theorem isMinor_of_warn {e : Event} (h : e.level = .warn) : e.IsMinor := by
  refine ⟨by simp [h], ?_⟩
  cases e <;> first | rfl | cases h

end Event

open Event

/-! ## Computations that register models -/

namespace Traced

variable {α β : Type}

/-- From the registry on, the computation gives no summary, and the models that it registers have
names that are free, and different ones. If it succeeds, they are the given classes, in order. -/
structure Registers (x : Traced α) (r : Registry) (cs : List Class) : Prop where
  minor : ∀ e ∈ x.events, e.level ≠ .info
  distinct : (r.classes.map (·.simpleName) ++
    (registrations x.events).map (·.1.simpleName)).Nodup
  registrations_eq : ∀ a, x.result = .ok a → registrations x.events = cs.map Class.registration

variable {x : Traced α} {r : Registry} {cs more : List Class}

theorem registers_minor (h : ∀ e ∈ x.events, e.IsMinor) (r : Registry) : x.Registers r [] where
  minor e he := (h e he).1
  distinct := by
    rw [registrations_minor h, List.map_nil, List.append_nil]
    exact r.nodup_names
  registrations_eq _ _ := registrations_minor h

theorem registers_pure (a : α) (r : Registry) : (pure a : Traced α).Registers r [] :=
  registers_minor (List.forall_mem_nil _) r

theorem registers_report {e : Event} (h : e.IsMinor) (r : Registry) :
    (report e).Registers r [] :=
  registers_minor (List.forall_mem_singleton.2 h) r

/-- What fails at once does not register anything. -/
theorem registers_fail (e : Error) (r : Registry) (cs : List Class) :
    (fail e : Traced α).Registers r cs where
  minor := List.forall_mem_nil _
  distinct := (List.append_nil (r.classes.map (·.simpleName))).symm ▸ r.nodup_names
  registrations_eq a h := absurd h (fail_result_ne_ok e a)

theorem Registers.mapError (h : x.Registers r cs) (f : Error → Error) :
    (x.mapError f).Registers r cs where
  minor := h.minor
  distinct := h.distinct
  registrations_eq a ha := h.registrations_eq a (mapError_result_eq_ok.1 ha)

/-- **One after the other**: the second computation goes on from a registry that has taken in the
classes of the first. -/
theorem Registers.bind {f : α → Traced β} (hx : x.Registers r cs)
    (hf : ∀ a, x.result = .ok a → ∃ r', r.Extends cs r' ∧ (f a).Registers r' more) :
    (x >>= f).Registers r (cs ++ more) := by
  rcases x with ⟨events, e | a⟩
  · exact ⟨hx.minor, hx.distinct, nofun⟩
  · obtain ⟨r', hextends, hminor, hdistinct, hregistrations⟩ := hf a rfl
    have hfirst : registrations events = cs.map Class.registration := hx.registrations_eq a rfl
    have hnames : (registrations events).map (·.1.simpleName) = cs.map (·.simpleName) := by
      rw [hfirst, List.map_map]
      rfl
    constructor
    case minor => exact List.forall_mem_append.2 ⟨hx.minor, hminor⟩
    case distinct =>
      have hclasses := hextends.map (·.simpleName)
      rw [List.map_append, ← hnames] at hclasses
      rw [bind_ok, registrations_append, List.map_append, ← List.append_assoc]
      exact (hclasses.append_right _).nodup_iff.1 hdistinct
    case registrations_eq =>
      intro b hb
      rw [bind_ok, registrations_append, hfirst, hregistrations b hb, List.map_append]

/-- What comes behind something that registers nothing. -/
theorem Registers.after {f : α → Traced β} (hx : x.Registers r [])
    (hf : ∀ a, x.result = .ok a → (f a).Registers r cs) : (x >>= f).Registers r cs :=
  hx.bind fun a ha => ⟨r, Registry.Extends.refl r, hf a ha⟩

/-- What only goes on with a value registers the same. -/
theorem Registers.bind_pure (hx : x.Registers r cs) (f : α → β) :
    (x >>= fun a => pure (f a)).Registers r cs := by
  rcases x with ⟨events, e | a⟩
  · exact ⟨hx.minor, hx.distinct, nofun⟩
  · rw [bind_ok, pure_eq, List.append_nil]
    exact ⟨hx.minor, hx.distinct, fun _ _ => hx.registrations_eq a rfl⟩

/-- Events around a computation that are not about models. -/
theorem Registers.between {first last : Event} (hfirst : first.IsMinor) (hlast : last.IsMinor)
    (hx : x.Registers r cs) : (x.between first last).Registers r cs := by
  have hregistrations : registrations (first :: x.events ++ [last]) = registrations x.events := by
    rw [registrations_append, registrations, List.filterMap_cons_none hfirst.2, ← registrations,
      registrations_minor (List.forall_mem_singleton.2 hlast), List.append_nil]
  constructor
  case minor =>
    refine List.forall_mem_append.2 ⟨List.forall_mem_cons.2 ⟨hfirst.1, hx.minor⟩, ?_⟩
    exact List.forall_mem_singleton.2 hlast.1
  case distinct => exact hregistrations ▸ hx.distinct
  case registrations_eq =>
    intro a ha
    exact hregistrations.trans (hx.registrations_eq a ha)

end Traced

open Traced

/-! ## Entering models -/

namespace Registry

variable {r : Registry} {c : Class}

/-- A model is reported if its name is free, and otherwise nothing is. -/
theorem registers_enter (r : Registry) (c : Class) : (r.enter c).Registers r [c] := by
  unfold enter
  cases h : r.register c with
  | error e => exact registers_fail e r [c]
  | ok entered =>
    obtain ⟨hfree, -⟩ := register_eq_ok.1 h
    constructor
    case minor => exact List.forall_mem_singleton.2 nofun
    case distinct =>
      refine List.nodup_append.2 ⟨r.nodup_names, List.nodup_singleton _, ?_⟩
      intro name hname other hother
      obtain ⟨d, hd, rfl⟩ := List.mem_map.1 hname
      cases List.mem_singleton.1 hother
      exact hfree d hd
    case registrations_eq => exact fun _ _ => rfl

theorem registers_foldlM_enter (cs : List Class) (r : Registry) :
    (cs.foldlM enter r).Registers r cs := by
  induction cs generalizing r with
  | nil => exact registers_pure r r
  | cons c rest ih =>
    rw [List.foldlM_cons]
    exact (registers_enter r c).bind fun entered h => ⟨entered, extends_of_enter h, ih entered⟩

end Registry

/-! ## Stage by stage -/

namespace Generation

variable {n : Naming} {owner : QualifiedName}

/-- Resolving a schema does not register anything. -/
theorem isMinor_of_mem_resolve {package : List String} {scope : Scope} {s : Schema} {e : Event}
    (he : e ∈ (Resolution.resolve package scope s).events) : e.IsMinor := by
  rw [(Resolution.follows_resolve s scope).events_eq, heard, List.mem_filterMap] at he
  obtain ⟨site, -, hwarning⟩ := he
  exact isMinor_of_warn (Site.warning?_eq_some hwarning).1

theorem registers_settle (r : Registry) (scope : Scope) (schema : Schema) :
    (settle n r scope schema).Registers r
      (Resolution.resolved n.modelPackage scope schema).topLevel := by
  refine (registers_minor (fun _ => isMinor_of_mem_resolve) r).after fun resolved h => ?_
  rw [Resolution.resolved_eq h]
  exact (Registry.registers_foldlM_enter resolved.topLevel r).bind_pure _

theorem registers_optionals (parameters : Keyed Schema) (r : Registry) :
    (optionals n owner r parameters).Registers r
      (Typing.topLevel (parameters.typed n.modelPackage owner)) := by
  induction parameters generalizing r with
  | nil => exact registers_pure _ r
  | cons e rest ih =>
    refine (registers_settle r _ e.2).bind fun settled h => ?_
    obtain ⟨-, hextends, -, -⟩ := settle_ok h
    exact ⟨settled.registry, hextends, (ih settled.registry).bind_pure _⟩

theorem registers_requireds (method : String) (parameters : Keyed Schema) (names : List String)
    (r : Registry) :
    (requireds n owner method parameters r names).Registers r
      (Typing.topLevel ((parameters.select names).typed n.modelPackage owner)) := by
  induction names generalizing r with
  | nil => exact registers_pure _ r
  | cons name rest ih =>
    rw [requireds, Keyed.select, List.filterMap_cons]
    cases parameters.find? name with
    | none => exact registers_fail _ r _
    | some schema =>
      refine (registers_settle r _ schema).bind fun settled h => ?_
      obtain ⟨-, hextends, -, -⟩ := settle_ok h
      exact ⟨settled.registry, hextends, (ih settled.registry).bind_pure _⟩

theorem isMinor_opening (c : QualifiedName) (depth : Nat) : (Event.opening c depth).IsMinor :=
  ⟨nofun, rfl⟩

theorem isMinor_closing (c : QualifiedName) : (Event.closing c).IsMinor :=
  ⟨nofun, rfl⟩

theorem registers_methodTrace (depth : Nat) (r : Registry) (site : MethodSite) :
    (methodTrace n depth r site).Registers r (Typing.topLevel (site.typings n)) := by
  rw [MethodSite.typings, Typing.topLevel_append]
  refine (registers_requireds _ _ _ r).bind fun q h => ?_
  obtain ⟨-, -, hextends, -, -⟩ := requireds_ok h
  refine ⟨q.registry, hextends, ?_⟩
  refine Registers.between (isMinor_opening _ _) (isMinor_closing _) ?_
  exact (registers_optionals _ _).bind_pure _

/-- The models of the methods at the given places. -/
def modelsOf (n : Naming) (sites : List MethodSite) : List Class :=
  Typing.topLevel (sites.flatMap (·.typings n))

theorem modelsOf_cons (site : MethodSite) (rest : List MethodSite) :
    modelsOf n (site :: rest) = Typing.topLevel (site.typings n) ++ modelsOf n rest := by
  rw [modelsOf, List.flatMap_cons, Typing.topLevel_append]
  rfl

theorem modelsOf_append (sites more : List MethodSite) :
    modelsOf n (sites ++ more) = modelsOf n sites ++ modelsOf n more := by
  rw [modelsOf, List.flatMap_append, Typing.topLevel_append]
  rfl

theorem registers_methodsTrace (methods : Keyed Method) (depth : Nat) (r : Registry) :
    (methodsTrace n owner depth r methods).Registers r
      (modelsOf n (methods.map fun (key, m) => ⟨owner.member key, key, m⟩)) := by
  induction methods generalizing r with
  | nil => exact registers_pure r r
  | cons e rest ih =>
    rw [List.map_cons, modelsOf_cons, methodsTrace, List.foldlM_cons]
    refine (registers_methodTrace depth r _).bind fun r' h => ?_
    exact ⟨r', (methodTrace_ok h).2, ih r'⟩

/-- Adding the components of a node registers the models of the methods below it. -/
theorem registers_componentsTrace (node : Resource) :
    ∀ (owner : QualifiedName) (depth : Nat) (r : Registry),
      (componentsTrace n owner depth r node).Registers r (modelsOf n (node.methodSites owner)) := by
  induction node using Resource.induction with
  | node methods resources ih =>
    have hbelow : ∀ (owner : QualifiedName) (depth : Nat) (r : Registry),
        (resourcesTrace n owner depth r resources).Registers r
          (modelsOf n (Resource.methodSitesBelow owner resources)) := by
      induction resources with
      | nil =>
        intro owner depth r
        exact registers_pure r r
      | cons e rest ihrest =>
        intro owner depth r
        rw [Resource.methodSitesBelow, modelsOf_append]
        have hfirst := ih e List.mem_cons_self (owner.member e.1) (depth + 1) r
        refine (hfirst.between (isMinor_opening _ _) (isMinor_closing _)).bind fun r' h => ?_
        refine ⟨r', (componentsTrace_ok e.2 h).2, ?_⟩
        exact ihrest (fun e he => ih e (List.mem_cons_of_mem _ he)) owner depth r'
    intro owner depth r
    rw [Resource.methodSites, modelsOf_append]
    refine (registers_methodsTrace methods depth r).bind fun r' h => ?_
    exact ⟨r', (methodsTrace_ok h).2, hbelow owner depth r'⟩

theorem registers_models (schemas : Keyed Schema) :
    (models n schemas).Registers .empty
      (schemas.flatMap fun e => (Resolution.resolved n.modelPackage .root e.2).topLevel) := by
  unfold models
  generalize Registry.empty = r
  induction schemas generalizing r with
  | nil => exact registers_pure r r
  | cons e rest ih =>
    have hreport : (Event.resolvingSchema e.1).IsMinor := ⟨nofun, rfl⟩
    rw [List.flatMap_cons, List.foldlM_cons]
    refine Registers.bind ((registers_report hreport r).after fun _ _ => ?_) fun r' h => ?_
    · exact ((registers_settle r .root e.2).mapError _).bind_pure _
    · rw [Traced.report_bind_result] at h
      obtain ⟨settled, hsettled, h⟩ := Traced.bind_result_eq_ok.1 h
      obtain ⟨-, hextends, -, -⟩ := settle_ok (Traced.mapError_result_eq_ok.1 hsettled)
      exact ⟨r', Traced.pure_result_eq_ok.1 h ▸ hextends, ih r'⟩

end Generation

namespace Description

open Generation

/-- Generation but for the summary. -/
def assemble (d : Description) (n : Naming) : Traced Api := do
  let r ← Generation.models n d.schemas
  let o ← optionals n n.request r d.parameters
  let (r, client) ← clientClass n o.registry d
  return {
    selector := d.selector
    package := n.package
    modelPackage := n.modelPackage
    models := r.classes
    request := requestClass n o
    client }

/-- The summary comes last. -/
theorem build_eq (d : Description) (n : Naming) :
    d.build n = do
      let api ← d.assemble n
      Traced.report (.generated api.selector api.models.length)
      return api := by
  simp only [build, assemble, bind_assoc, pure_bind]
  rfl

theorem registers_assemble (d : Description) (n : Naming) :
    (d.assemble n).Registers .empty (d.models n) := by
  rw [models, List.append_assoc]
  refine (registers_models d.schemas).bind fun r h => ⟨r, (models_ok h).2, ?_⟩
  refine (registers_optionals d.parameters r).bind fun o h => ⟨o.registry, (optionals_ok h).2.1, ?_⟩
  rw [clientClass_eq, bind_assoc]
  exact (registers_componentsTrace d.tree n.client 1 o.registry).bind_pure _

end Description

/-! ## The order of models -/

/-- The schemas that a visit comes by, each after those below it. -/
def Site.finished (package : List String) (start : Site) : List Site :=
  (start.tour .postorder package).map Prod.snd

/-- **What is below comes first.** -/
theorem Site.below_first {package : List String} {start outer inner : Site} {route : Visit.Route}
    (h : outer ∈ start.schema.visits package start.scope)
    (hbelow : outer.Reaches package route inner) (hroute : route ≠ []) :
    [inner, outer].Sublist (start.finished package) := by
  rw [← Site.map_snd_tour_preorder] at h
  obtain ⟨p, hp, rfl⟩ := List.mem_map.1 h
  exact (Site.sublist_tour (Site.mem_tour.1 hp) hbelow hroute).map Prod.snd

/-- The models that a schema resolves to come in the order in which the visit is done with them. -/
theorem Resolution.map_name_topLevel {package : List String} {start : Site} {r : Resolved}
    (h : (resolve package start.scope start.schema).result = .ok r) :
    r.topLevel.map (·.name) =
      (Site.modelIds (start.finished package)).map (.topLevel package) := by
  have halong := (emits_of_resolve start.schema h).topLevel
  have hids : Site.modelIds (start.finished package) =
      ((start.tour .postorder package).filter fun p => p.2.modelId.isSome).filterMap
        fun p => p.2.modelId := by
    rw [Site.modelIds, Site.finished, List.filterMap_map, List.filterMap_filter]
    refine List.filterMap_congr fun p _ => ?_
    cases hid : p.2.modelId <;> simp [hid]
  rw [hids]
  generalize (start.tour .postorder package).filter _ = tour at halong
  generalize r.topLevel = models at halong
  induction halong with
  | nil => rfl
  | cons hmodel _ ih =>
    cases hmodel with
    | model hk hid hc => simp [Site.modelId, hk, hid, hc.name_eq, ih]

namespace Description

variable {d : Description} {n : Naming} {api : Api}

/-- The schemas that generation begins to resolve, in their places: the named schemas, and the
parameters of the API and of all methods. -/
def starts (d : Description) (n : Naming) : List Site :=
  (d.schemas.map fun e => ⟨.root, e.2⟩) ++
    d.parameters.map (fun e => ⟨.field ⟨e.1⟩ n.request, e.2⟩) ++
    (d.tree.methodSites n.client).flatMap fun site =>
      site.method.callParameters.map fun e => ⟨.field ⟨e.1⟩ site.type, e.2⟩

theorem visits_eq_flatMap (d : Description) (n : Naming) :
    d.visits n = (d.starts n).flatMap fun start =>
      start.schema.visits n.modelPackage start.scope := by
  simp only [visits, starts, Keyed.visits, List.flatMap_append, List.flatMap_map,
    List.flatMap_assoc]

theorem models_eq_flatMap (d : Description) (n : Naming) :
    d.models n = (d.starts n).flatMap fun start =>
      (Resolution.resolved n.modelPackage start.scope start.schema).topLevel := by
  simp only [models, starts, Method.callParameters_eq, Typing.topLevel, Keyed.typed,
    MethodSite.typings, List.flatMap_append, List.flatMap_map, List.flatMap_assoc]
  rfl

/-- Whatever generation begins with can be resolved. -/
theorem Generates.resolves (h : d.Generates n api) :
    ∀ start ∈ d.starts n, Resolution.Resolves n.modelPackage start.scope start.schema := by
  have hfields {owner : QualifiedName} {parameters : Keyed Schema}
      (hresolve : parameters.Resolve n.modelPackage owner) :
      ∀ e ∈ parameters, Resolution.Resolves n.modelPackage (.field ⟨e.1⟩ owner) e.2 :=
    fun _ he => hresolve _ (List.mem_map_of_mem he)
  simp only [starts, Method.callParameters_eq, List.forall_mem_append, List.forall_mem_map,
    List.forall_mem_flatMap]
  refine ⟨⟨h.schemas, hfields h.parameters⟩, fun site hsite => ?_⟩
  exact ⟨hfields (h.methods site hsite).required, hfields (h.methods site hsite).optional⟩

/-- The models come in the order in which visits are done with schemas. -/
theorem Generates.map_name_models (h : d.Generates n api) :
    (d.models n).map (·.name) =
      (Site.modelIds ((d.starts n).flatMap (·.finished n.modelPackage))).map
        (.topLevel n.modelPackage) := by
  rw [models_eq_flatMap, List.map_flatMap, Site.modelIds, List.filterMap_flatMap, List.map_flatMap]
  exact List.flatMap_congr fun start hstart =>
    Resolution.map_name_topLevel (h.resolves start hstart)

/-- **A model from inside another one comes before it.** -/
theorem Generates.below_first (h : d.Generates n api) {outer inner : Site} {route : Visit.Route}
    {id innerId : String} (houter : outer ∈ d.visits n)
    (hreaches : outer.Reaches n.modelPackage route inner) (hroute : route ≠ [])
    (hid : outer.modelId = some id) (hinner : inner.modelId = some innerId) :
    [QualifiedName.topLevel n.modelPackage innerId, .topLevel n.modelPackage id].Sublist
      ((d.models n).map (·.name)) := by
  rw [visits_eq_flatMap] at houter
  obtain ⟨start, hstart, houter⟩ := List.mem_flatMap.1 houter
  have hpair : Site.modelIds [inner, outer] = [innerId, id] := by simp [Site.modelIds, hid, hinner]
  have hbelow := Site.below_first houter hreaches hroute
  have hwhole := (List.singleton_sublist.2 hstart).flatMap (·.finished n.modelPackage)
  rw [List.flatMap_singleton] at hwhole
  have hids := ((hbelow.trans hwhole).filterMap Site.modelId).map
    (QualifiedName.topLevel n.modelPackage)
  rw [← Site.modelIds, hpair] at hids
  rw [h.map_name_models]
  exact hids

end Description

/-! ## The whole log -/

open Generation

/-- The log of a generation that succeeded accounts for the models of the API. -/
structure Description.Accounts (d : Description) (n : Naming) (events : List Event) (api : Api) :
    Prop where
  /-- It ends with a summary, the only one, that gives the number of models. -/
  summary : ∃ before, events = before ++ [.generated api.selector api.models.length] ∧
    ∀ e ∈ before, e.level ≠ .info
  /-- Every model has been reported, with the number of declarations directly in it. -/
  perm : (registrations events).Perm (api.models.map Class.registration)
  /-- None has been reported twice. -/
  nodup : ((registrations events).map Prod.fst).Nodup
  /-- A model from inside another one has been reported before it. -/
  below_first : ∀ outer ∈ d.visits n, ∀ route inner, outer.Reaches n.modelPackage route inner →
    route ≠ [] → ∀ id innerId, outer.modelId = some id → inner.modelId = some innerId →
      [QualifiedName.topLevel n.modelPackage innerId, .topLevel n.modelPackage id].Sublist
        ((registrations events).map Prod.fst)

/-- The log of a generation that failed has no summary, and no model is reported in it twice. -/
structure Event.Unfinished (events : List Event) : Prop where
  minor : ∀ e ∈ events, e.level ≠ .info
  nodup : ((registrations events).map Prod.fst).Nodup

section

variable {d : Description} {n : Naming} {api : Api} {e : Error}

theorem Traced.Registers.nodup_names {α : Type} {x : Traced α} {r : Registry} {cs : List Class}
    (h : x.Registers r cs) : ((registrations x.events).map Prod.fst).Nodup := by
  have hnames : (((registrations x.events).map Prod.fst).map (·.simpleName)).Nodup := by
    rw [List.map_map]
    exact (List.nodup_append.1 h.distinct).2.1
  exact hnames.of_map _

/-- If generation succeeds, the summary comes after everything else. -/
theorem events_build_of_ok (h : (d.build n).result = .ok api) :
    (d.assemble n).result = .ok api ∧
      (d.build n).events =
        (d.assemble n).events ++ [.generated api.selector api.models.length] := by
  rw [Description.build_eq] at h ⊢
  generalize d.assemble n = x at h ⊢
  obtain ⟨events, e | api'⟩ := x
  · cases h
  · cases h
    exact ⟨rfl, rfl⟩

/-- If generation fails, there is no summary. -/
theorem events_build_of_error (h : (d.build n).result = .error e) :
    (d.build n).events = (d.assemble n).events := by
  rw [Description.build_eq] at h ⊢
  generalize d.assemble n = x at h ⊢
  obtain ⟨events, e' | api⟩ := x
  · rfl
  · cases h

theorem accounts_of_build (h : (d.build n).result = .ok api) :
    d.Accounts n (d.build n).events api := by
  have hregisters := d.registers_assemble n
  have hgenerates := generates_of_build h
  obtain ⟨hassemble, hevents⟩ := events_build_of_ok h
  have hregistrations : registrations (d.build n).events = registrations (d.assemble n).events := by
    rw [hevents, registrations_append]
    exact List.append_nil _
  have hmodels := hregistrations.trans (hregisters.registrations_eq api hassemble)
  constructor
  case summary => exact ⟨_, hevents, hregisters.minor⟩
  case perm =>
    rw [hmodels]
    exact (hgenerates.models.map _).symm
  case nodup =>
    rw [hregistrations]
    exact hregisters.nodup_names
  case below_first =>
    intro outer houter route inner hreaches hroute id innerId hid hinner
    rw [hmodels, List.map_map]
    exact hgenerates.below_first houter hreaches hroute hid hinner

theorem unfinished_of_build (h : (d.build n).result = .error e) :
    Event.Unfinished (d.build n).events := by
  have hregisters := d.registers_assemble n
  rw [events_build_of_error h]
  exact ⟨hregisters.minor, hregisters.nodup_names⟩

end

/-- **The log accounts for the models.** If generation succeeds, the log ends with a summary of the
number of models and has reported each of them once, with the number of declarations directly in it
and after the models from inside it. If generation fails, there is no summary, and still no model
has been reported twice. -/
theorem log_accounts_for_models (d : Description) (settings : Settings) :
    (∀ api, (d.generate settings).result = .ok api →
      d.Accounts (d.naming settings) (d.generate settings).events api) ∧
    ∀ e, (d.generate settings).result = .error e →
      Event.Unfinished (d.generate settings).events := by
  constructor
  · intro api h
    exact accounts_of_build (Traced.mapError_result_eq_ok.1 h)
  · intro e h
    obtain ⟨cause, h, -⟩ := Traced.mapError_result_eq_error.1 h
    exact unfinished_of_build h

/-- An API for books, each with a model of its author inside. -/
def Description.authors : Description where
  name := "authors"
  version := "v1"
  schemas := [("Book", { id := some "Book", type := some "object", properties := some [
    ("author", { type := some "array", items := some {
      id := some "Author", type := some "object", properties := some [] } }),
    ("size", { type := some "object", properties := some [] })] })]

/-- The author comes before the book, which has its size in it. Another author, as a parameter, is
refused. -/
theorem log_accounts_for_models_authors :
    (∃ api, (Description.authors.generate {}).result = .ok api ∧
      (registrations (Description.authors.generate {}).events).map
        (fun (type, nested) => (type.simpleName, nested)) = [("Author", 0), ("Book", 1)] ∧
      Description.authors.Accounts (Description.authors.naming {})
        (Description.authors.generate {}).events api) ∧
    ∃ e, (Description.generate { Description.authors with
        parameters := [("author", { id := some "Author", type := some "object" })] } {}).result =
          .error e ∧
      Event.Unfinished (Description.generate { Description.authors with
        parameters := [("author", { id := some "Author", type := some "object" })] } {}).events := by
  constructor
  · have hgenerates : ∃ api, (Description.authors.generate {}).result = .ok api :=
      isOk_iff.1 (by decide +kernel)
    obtain ⟨api, h⟩ := hgenerates
    exact ⟨api, h, by decide +kernel, (log_accounts_for_models .authors {}).1 api h⟩
  · have hrepeated : ∃ e, (Description.generate { Description.authors with
        parameters := [("author", { id := some "Author", type := some "object" })] } {}).result =
          .error e := ⟨_, rfl⟩
    obtain ⟨e, h⟩ := hrepeated
    exact ⟨e, h, (log_accounts_for_models _ {}).2 e h⟩

end ClientGen
