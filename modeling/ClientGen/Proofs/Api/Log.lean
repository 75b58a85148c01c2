import ClientGen.Proofs.Api.Generated
import ClientGen.Proofs.Declaration.Tree
import ClientGen.Proofs.Failure

/-!
# Components in the log

Every component is reported when it is opened and when it is closed, and in between there is other
news: models that are registered, schemas that are not understood. Generation can fail anywhere,
before a component is opened, on its fields or far below it, and each component that is open by then
is still closed, innermost first.

`Event.openAfter?` reads events as brackets: it follows which components are open, and gives up at
the first event that does not fit. `Traced.Quiet` says of a computation that it has no news of
components, as resolving, `quiet_resolve`, and everything about models; `Traced.Scoped` says that
whatever it opens it closes, and which components these are if it succeeds. `scoped_componentsTrace`
goes down the tree of the description, and `log_balanced` is the log as a whole.
-/

namespace ClientGen

/-! ## Reading a log -/

namespace Event

/-- The components that are open after one more event, innermost first. An opening has to give the
number of components that are open with it, and a closing has to name the innermost one. -/
def openAfter? (opened : List QualifiedName) : Event → Option (List QualifiedName)
  | opening c depth => if depth = opened.length + 1 then some (c :: opened) else none
  | closing c =>
    match opened with
    | [] => none
    | inner :: outer => if c = inner then some outer else none
  | _ => some opened

/-- The components that are open after all the events, if each of them fits. -/
def allOpenAfter? (opened : List QualifiedName) (events : List Event) :
    Option (List QualifiedName) :=
  events.foldlM openAfter? opened

/-- The component that is opened. -/
def opened? : Event → Option QualifiedName
  | opening c _ => some c
  | _ => none

/-- The components that are opened, in order. -/
def openings (events : List Event) : List QualifiedName :=
  events.filterMap opened?

/-- The event is no news of a component. -/
def isAside : Event → Bool
  | opening .. | closing .. => false
  | _ => true

theorem openAfter?_of_isAside {e : Event} (h : e.isAside = true) (opened : List QualifiedName) :
    openAfter? opened e = some opened := by
  cases e <;> first | rfl | cases h

theorem opened?_of_isAside {e : Event} (h : e.isAside = true) : e.opened? = none := by
  cases e <;> first | rfl | cases h

variable {opened between : List QualifiedName} {events more : List Event}

theorem allOpenAfter?_append (h : allOpenAfter? opened events = some between) :
    allOpenAfter? opened (events ++ more) = allOpenAfter? between more := by
  have hbind : allOpenAfter? opened (events ++ more) =
      allOpenAfter? opened events >>= fun opened => allOpenAfter? opened more :=
    List.foldlM_append
  rw [hbind, h]
  rfl

theorem openings_append : openings (events ++ more) = openings events ++ openings more :=
  List.filterMap_append

/-- Asides change nothing. -/
theorem allOpenAfter?_asides (h : ∀ e ∈ events, e.isAside = true) :
    allOpenAfter? opened events = some opened := by
  induction events with
  | nil => rfl
  | cons e rest ih =>
    obtain ⟨he, hrest⟩ := List.forall_mem_cons.1 h
    rw [allOpenAfter?, List.foldlM_cons, openAfter?_of_isAside he]
    exact ih hrest

theorem openings_asides (h : ∀ e ∈ events, e.isAside = true) : openings events = [] :=
  List.filterMap_eq_nil_iff.2 fun e he => opened?_of_isAside (h e he)

end Event

/-! ## Computations without news of components -/

namespace Traced

variable {α β : Type}

/-- The computation reports nothing of components, whether or not it fails. -/
def Quiet (x : Traced α) : Prop :=
  ∀ e ∈ x.events, e.isAside = true

theorem quiet_pure (a : α) : (pure a : Traced α).Quiet := by
  intro e he
  cases he

theorem quiet_fail (e : Error) : (fail e : Traced α).Quiet := by
  intro e he
  cases he

theorem quiet_report {e : Event} (h : e.isAside = true) : (report e).Quiet := by
  intro e' he'
  cases List.mem_singleton.1 he'
  exact h

theorem Quiet.bind {x : Traced α} {f : α → Traced β} (hx : x.Quiet) (hf : ∀ a, (f a).Quiet) :
    (x >>= f).Quiet := by
  rcases x with ⟨events, e | a⟩
  · exact hx
  · intro e he
    rcases List.mem_append.1 he with he | he
    · exact hx e he
    · exact hf a e he

theorem Quiet.mapError {x : Traced α} (hx : x.Quiet) (f : Error → Error) :
    (x.mapError f).Quiet :=
  hx

theorem quiet_foldlM {f : β → α → Traced β} {l : List α} (hf : ∀ b, ∀ a ∈ l, (f b a).Quiet)
    (b : β) : (l.foldlM f b).Quiet := by
  induction l generalizing b with
  | nil => exact quiet_pure b
  | cons a rest ih =>
    rw [List.foldlM_cons]
    refine (hf b a List.mem_cons_self).bind ?_
    exact ih fun b a ha => hf b a (List.mem_cons_of_mem _ ha)

/-! ## Computations that close what they open -/

/-- Wherever one component less is open than the depth says, the computation leaves just these open,
and if it succeeds, it has opened the named components in this order. -/
structure Scoped (x : Traced α) (depth : Nat) (names : List QualifiedName) : Prop where
  balanced : ∀ opened, opened.length + 1 = depth →
    Event.allOpenAfter? opened x.events = some opened
  openings_eq : ∀ a, x.result = .ok a → Event.openings x.events = names

variable {x : Traced α} {depth : Nat} {names more : List QualifiedName}

theorem Quiet.scoped (hx : x.Quiet) : x.Scoped depth [] where
  balanced _ _ := Event.allOpenAfter?_asides hx
  openings_eq _ _ := Event.openings_asides hx

theorem Scoped.bind {f : α → Traced β} (hx : x.Scoped depth names)
    (hf : ∀ a, (f a).Scoped depth more) : (x >>= f).Scoped depth (names ++ more) := by
  obtain ⟨hbalanced, hopenings⟩ := hx
  rcases x with ⟨events, e | a⟩
  · exact ⟨hbalanced, fun b hb => (by cases hb)⟩
  · constructor
    case balanced =>
      intro opened hdepth
      rw [bind_ok, Event.allOpenAfter?_append (hbalanced opened hdepth)]
      exact (hf a).balanced opened hdepth
    case openings_eq =>
      intro b hb
      rw [bind_ok, Event.openings_append, hopenings a rfl, (hf a).openings_eq b hb]

/-- What is quiet at the end adds no names. -/
theorem Scoped.bind_quiet {f : α → Traced β} (hx : x.Scoped depth names)
    (hf : ∀ a, (f a).Quiet) : (x >>= f).Scoped depth names := by
  have h := hx.bind fun a => (hf a).scoped
  rwa [List.append_nil] at h

/-- A component around what closes all that it opens. -/
theorem Scoped.between (hx : x.Scoped (depth + 1) names) (c : QualifiedName) :
    (x.between (.opening c depth) (.closing c)).Scoped depth (c :: names) := by
  constructor
  case balanced =>
    intro opened hdepth
    have hfirst : Event.allOpenAfter? opened [.opening c depth] = some (c :: opened) := by
      simp [Event.allOpenAfter?, Event.openAfter?, hdepth]
    have hinside := hx.balanced (c :: opened) (by rw [List.length_cons, hdepth])
    have hlast : Event.allOpenAfter? (c :: opened) [.closing c] = some opened := by
      simp [Event.allOpenAfter?, Event.openAfter?]
    show Event.allOpenAfter? opened ([.opening c depth] ++ (x.events ++ [.closing c])) = _
    rw [Event.allOpenAfter?_append hfirst, Event.allOpenAfter?_append hinside, hlast]
  case openings_eq =>
    intro a ha
    have hlast : Event.openings [.closing c] = [] := rfl
    show Event.openings ([.opening c depth] ++ (x.events ++ [.closing c])) = _
    rw [Event.openings_append, Event.openings_append, hx.openings_eq a ha, hlast, List.append_nil]
    rfl

end Traced

open Traced

/-! ## Resolving is quiet -/

namespace Resolution

variable {package : List String} {scope : Scope} {s : Schema}

/-- Wherever the schema is used, resolving it is quiet. -/
def ResolvesQuietly (package : List String) (s : Schema) : Prop :=
  ∀ scope, (resolve package scope s).Quiet

theorem quiet_resolveText : (resolveText s scope).Quiet := by
  unfold resolveText
  split
  · exact quiet_pure _
  · split
    · unfold nestedEnum
      split
      · exact quiet_fail _
      · exact quiet_fail _
      · exact quiet_pure _
    · exact quiet_pure _

theorem quiet_resolveNumber : (resolveNumber s scope).Quiet := by
  unfold resolveNumber
  split
  · exact quiet_pure _
  · exact quiet_pure _
  · exact (quiet_report rfl).bind fun _ => quiet_pure _
  · exact quiet_pure _

theorem quiet_resolveProperties {owner : QualifiedName} {entries : List (String × Schema)}
    (h : ∀ e ∈ entries, ResolvesQuietly package e.2) :
    (resolveProperties package owner entries).Quiet := by
  induction entries with
  | nil => exact quiet_pure _
  | cons e rest ih =>
    obtain ⟨key, property⟩ := e
    obtain ⟨hproperty, hrest⟩ := List.forall_mem_cons.1 h
    refine (hproperty (.field ⟨key⟩ owner)).bind fun resolved => ?_
    exact (ih hrest).bind fun others => quiet_pure _

theorem quiet_members {owner : QualifiedName}
    (h : ∀ entries, s.properties = some entries → ∀ e ∈ entries, ResolvesQuietly package e.2) :
    (members package owner s).Quiet := by
  unfold members
  cases hp : s.properties with
  | none => exact quiet_pure _
  | some entries => exact quiet_resolveProperties (h entries hp)

theorem quiet_resolveArray (h : ∀ items, s.items = some items → ResolvesQuietly package items) :
    (resolveArray package scope s).Quiet := by
  unfold resolveArray
  cases hi : s.items with
  | none => exact quiet_fail _
  | some items => exact (h items hi scope).bind fun item => quiet_pure _

theorem quiet_resolveObject
    (hproperties : ∀ entries, s.properties = some entries →
      ∀ e ∈ entries, ResolvesQuietly package e.2)
    (hadditional : ∀ value, s.additionalProperties = some value → ResolvesQuietly package value) :
    (resolveObject package scope s).Quiet := by
  unfold resolveObject
  split
  · exact (quiet_members hproperties).bind fun p => quiet_pure _
  · unfold resolveNested
    cases scope.enclosing with
    | none => exact quiet_fail _
    | some enclosing => exact (quiet_members hproperties).bind fun p => quiet_pure _
  · unfold resolveMap
    cases ha : s.additionalProperties with
    | none => exact quiet_fail _
    | some value => exact (hadditional value ha scope).bind fun resolved => quiet_pure _

theorem quiet_resolve (s : Schema) : ResolvesQuietly package s := by
  induction s using Schema.induction with
  | node s hproperties hadditional hitems =>
    intro scope
    rw [resolve_eq]
    cases s.kind with
    | array => exact quiet_resolveArray hitems
    | object => exact quiet_resolveObject hproperties hadditional
    | string => exact quiet_resolveText
    | number => exact quiet_resolveNumber
    | unknown tag => exact (quiet_report rfl).bind fun _ => quiet_pure _
    | reference | integer | boolean | null | any => exact quiet_pure _

end Resolution

/-! ## So is everything about models -/

namespace Generation

variable {n : Naming} {owner : QualifiedName}

theorem quiet_enter (r : Registry) (c : Class) : (r.enter c).Quiet := by
  unfold Registry.enter
  split
  · exact quiet_fail _
  · exact (quiet_report rfl).bind fun _ => quiet_pure _

theorem quiet_settle (r : Registry) (scope : Scope) (schema : Schema) :
    (settle n r scope schema).Quiet := by
  refine (Resolution.quiet_resolve schema scope).bind fun resolved => ?_
  refine Quiet.bind (quiet_foldlM (fun r c _ => quiet_enter r c) r) fun registry => ?_
  exact quiet_pure _

theorem quiet_models (schemas : Keyed Schema) : (models n schemas).Quiet := by
  refine quiet_foldlM (fun r e _ => ?_) _
  refine (quiet_report rfl).bind fun _ => ?_
  exact ((quiet_settle r .root e.2).mapError _).bind fun settled => quiet_pure _

theorem quiet_optionals (r : Registry) (parameters : Keyed Schema) :
    (optionals n owner r parameters).Quiet := by
  induction parameters generalizing r with
  | nil => exact quiet_pure _
  | cons e rest ih =>
    refine (quiet_settle r _ e.2).bind fun settled => ?_
    exact (ih settled.registry).bind fun others => quiet_pure _

theorem quiet_requireds (method : String) (parameters : Keyed Schema) (r : Registry)
    (names : List String) : (requireds n owner method parameters r names).Quiet := by
  induction names generalizing r with
  | nil => exact quiet_pure _
  | cons name rest ih =>
    unfold requireds
    split
    · exact quiet_fail _
    · rename_i schema _
      refine (quiet_settle r _ schema).bind fun settled => ?_
      exact (ih settled.registry).bind fun others => quiet_pure _

end Generation

/-! ## Components among declarations -/

namespace DeclarationOf

/-- The name of a component. -/
def componentName? : Declaration → Option QualifiedName
  | .ofClass c => if c.kind = .component then some c.name else none
  | .ofEnum _ => none

/-- The names of the components in a declaration, each before those nested in it. -/
def componentNames (d : Declaration) : List QualifiedName :=
  d.all.filterMap componentName?

theorem componentNames_eq (d : Declaration) :
    d.componentNames = d.componentName?.toList ++ d.nested.flatMap componentNames := by
  have hnested : (d.nested.flatMap all).filterMap componentName? =
      d.nested.flatMap componentNames := List.filterMap_flatMap
  rw [componentNames, all_eq, List.filterMap_cons]
  cases d.componentName? with
  | none => exact hnested
  | some name => exact congrArg (name :: ·) hnested

end DeclarationOf

open DeclarationOf

/-- Nothing that a schema resolves to is a component or contains one. -/
theorem Resolution.componentNames_of_mem_nested {package : List String} (s : Schema) :
    ∀ {scope : Scope} {r : Resolved}, (resolve package scope s).result = .ok r →
      ∀ d ∈ r.nested, d.componentNames = [] := by
  induction s using Schema.induction with
  | node s hproperties hadditional hitems =>
    intro scope r h d hd
    rw [Resolved.mem_nested] at hd
    cases outcome_of_resolve h with
    | reference | primitive | void => cases hd
    | enum =>
      cases List.mem_singleton.1 hd
      rfl
    | list items item _ hi hitem => exact hitems items hi hitem d (Resolved.mem_nested.2 hd)
    | map values value _ _ _ ha hvalue =>
      exact hadditional values ha hvalue d (Resolved.mem_nested.2 hd)
    | model =>
      rcases List.mem_append.1 hd with hd | hd
      · obtain ⟨c, _, hc⟩ := List.mem_map.1 hd
        cases hc
      · cases List.mem_singleton.1 hd
    | nestedClass hint enclosing ts _ _ _ _ hts hentries =>
      rcases List.mem_append.1 hd with hd | hd
      · obtain ⟨c, _, hc⟩ := List.mem_map.1 hd
        cases hc
      · cases List.mem_singleton.1 hd
        rw [componentNames_eq]
        refine List.flatMap_eq_nil_iff.2 fun x hx => ?_
        obtain ⟨t, ht, hx⟩ := Typing.mem_nested.1 hx
        have hentry : t.entry ∈ ts.map Typing.entry := List.mem_map_of_mem ht
        exact hproperties _ hentries _ hentry (hts t ht) x hx

theorem Keyed.componentNames_of_mem_typed {package : List String} {owner : QualifiedName}
    {entries : Keyed Schema} {d : Declaration}
    (hd : d ∈ Typing.nested (entries.typed package owner)) : d.componentNames = [] := by
  obtain ⟨t, ht, hd⟩ := Typing.mem_nested.1 hd
  obtain ⟨e, -, rfl⟩ := List.mem_map.1 ht
  have hresolved : d ∈ (Resolution.resolved package (.field ⟨e.1⟩ owner) e.2).nested := hd
  cases h : (Resolution.resolve package (.field ⟨e.1⟩ owner) e.2).result with
  | ok r =>
    rw [Resolution.resolved_eq h] at hresolved
    exact Resolution.componentNames_of_mem_nested e.2 h d hresolved
  | error cause =>
    rw [Resolution.resolved, h] at hresolved
    cases hresolved

/-! ## Down the tree -/

namespace Generation

open Component

variable {n : Naming}

/-- The names of the components that a component brings with it when it is finished, its own first.
-/
def draftNames (d : Draft) : List QualifiedName :=
  componentNames (.ofClass d.finish)

/-- The components in a class after finished components were nested in it. -/
theorem componentNames_nestAll (parts : List Draft) (c : Class) :
    componentNames (.ofClass (Draft.nestAll parts c)) =
      componentNames (.ofClass c) ++ parts.flatMap draftNames := by
  have hnested : nested (.ofClass (Draft.nestAll parts c)) =
      c.nested ++ parts.map fun d => .ofClass d.finish := rfl
  rw [componentNames_eq, hnested, List.flatMap_append, List.flatMap_map, ← List.append_assoc,
    componentNames_eq (.ofClass c)]
  rfl

theorem draftNames_methodDraft (site : MethodSite) :
    draftNames (methodDraft n site) = [site.type] := by
  have hnested : (nested (.ofClass (methodDraft n site).finish)).flatMap componentNames = [] := by
    refine List.flatMap_eq_nil_iff.2 fun d hd => ?_
    rcases List.mem_append.1 hd with hd | hd
    · exact Keyed.componentNames_of_mem_typed hd
    · exact Keyed.componentNames_of_mem_typed hd
  rw [draftNames, componentNames_eq, hnested]
  rfl

theorem draftNames_resourceDraft (type : QualifiedName) (key : String) (parts : List Draft) :
    draftNames (resourceDraft type key parts) = type :: parts.flatMap draftNames := by
  rw [draftNames, finish_resourceDraft, componentNames_nestAll]
  rfl

theorem scoped_methodTrace (depth : Nat) (r : Registry) (site : MethodSite) :
    (methodTrace n depth r site).Scoped depth (draftNames (methodDraft n site)) := by
  rw [draftNames_methodDraft]
  refine Scoped.bind (quiet_requireds _ _ _ _).scoped fun q => ?_
  refine Scoped.between (Quiet.scoped ?_) site.type
  exact (quiet_optionals _ _).bind fun o => quiet_pure _

theorem scoped_methodsTrace (owner : QualifiedName) (depth : Nat) (r : Registry)
    (methods : Keyed Method) :
    (methodsTrace n owner depth r methods).Scoped depth
      ((methodDrafts n owner methods).flatMap draftNames) := by
  induction methods generalizing r with
  | nil => exact (quiet_pure r).scoped
  | cons e rest ih => exact (scoped_methodTrace depth r _).bind ih

/-- **Down the tree.** Adding the components of a node closes all that it opens. -/
theorem scoped_componentsTrace (node : Resource) :
    ∀ (owner : QualifiedName) (depth : Nat) (r : Registry),
      (componentsTrace n owner depth r node).Scoped depth
        ((components n owner node).flatMap draftNames) := by
  induction node using Resource.induction with
  | node methods resources ih =>
    have hbelow : ∀ (owner : QualifiedName) (depth : Nat) (r : Registry),
        (resourcesTrace n owner depth r resources).Scoped depth
          ((resourceDrafts n owner resources).flatMap draftNames) := by
      induction resources with
      | nil =>
        intro owner depth r
        exact (quiet_pure r).scoped
      | cons e rest ihrest =>
        intro owner depth r
        have hfirst := (ih e List.mem_cons_self (owner.member e.1) (depth + 1) r).between
          (owner.member e.1)
        rw [← draftNames_resourceDraft _ e.1] at hfirst
        exact hfirst.bind (ihrest (fun e he => ih e (List.mem_cons_of_mem _ he)) owner depth)
    intro owner depth r
    rw [components, List.flatMap_append]
    exact (scoped_methodsTrace owner depth r methods).bind (hbelow owner depth)

end Generation

/-! ## The whole log -/

open Generation

/-- Building an API closes all components that it opens: those of its client, methods before the
resources beside them. -/
theorem scoped_build (d : Description) (n : Naming) :
    (d.build n).Scoped 1 ((components n n.client d.tree).flatMap draftNames) := by
  have hclient : ∀ r, (clientClass n r d).Scoped 1
      ((components n n.client d.tree).flatMap draftNames) := by
    intro r
    rw [clientClass_eq]
    exact (scoped_componentsTrace d.tree n.client 1 r).bind_quiet fun _ => quiet_pure _
  refine Scoped.bind (quiet_models d.schemas).scoped fun r => ?_
  refine Scoped.bind (quiet_optionals r d.parameters).scoped fun o => ?_
  refine (hclient o.registry).bind_quiet fun done => ?_
  exact (quiet_report rfl).bind fun _ => quiet_pure _

/-- **The log is balanced.** Whether or not generation succeeds, every component in the log is
opened as one more than those that are open, the innermost one is closed first, and none is open at
the end. If generation succeeds, the components that were opened are those of the client, each
before those nested in it. -/
theorem log_balanced (d : Description) (settings : Settings) :
    Event.allOpenAfter? [] (d.generate settings).events = some [] ∧
      ∀ api, (d.generate settings).result = .ok api →
        Event.openings (d.generate settings).events = componentNames (.ofClass api.client) := by
  have hbuild := scoped_build d (d.naming settings)
  refine ⟨hbuild.balanced [] rfl, fun api h => ?_⟩
  have hnames : componentNames (.ofClass (clientRoot (d.naming settings) d)) = [] := rfl
  rw [(generates_of_generate h).client, componentNames_nestAll, hnames]
  exact hbuild.openings_eq api (Traced.mapError_result_eq_ok.1 h)

theorem log_balanced_shelves :
    (Event.openings (Description.shelves.generate {}).events).map (·.names) =
        [["Books", "Shelves"], ["Books", "Shelves", "Get"]] ∧
      ∃ api, (Description.shelves.generate {}).result = .ok api ∧
        Event.openings (Description.shelves.generate {}).events =
          componentNames (.ofClass api.client) := by
  obtain ⟨api, h⟩ := shelves_generate
  exact ⟨by decide +kernel, api, h, (log_balanced .shelves {}).2 api h⟩

/-- A method that fails on one of its fields is closed, and so is the resource around it. -/
example :
    let d : Description := { Description.shelves with
      resources := [("shelves", { methods := [("list", {
        parameters := [("tags", { type := some "array" })] })] })] }
    let shelves := (d.naming {}).client.nested "Shelves"
    (d.generate {}).result = .error (.api "books:v1" (.missingItems (some "tags"))) ∧
      (d.generate {}).events.filter (!·.isAside) =
        [.opening shelves 1, .opening (shelves.nested "List") 2,
          .closing (shelves.nested "List"), .closing shelves] :=
  ⟨rfl, by decide +kernel⟩

end ClientGen
