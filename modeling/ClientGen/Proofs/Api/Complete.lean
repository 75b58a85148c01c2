import ClientGen.Proofs.Api.Closed
import ClientGen.Proofs.Api.Sites

/-!
# Everything that becomes a class is declared

`origin_of_mem_declarations` says where the declarations of an API come from. This is the other
direction. Every object that generation comes by and that becomes a class has its class in the API,
however deep it is nested, `hasClassFor_of_mem_visits`; and so has every method,
`method_mem_declarations`. What is emitted for a schema is followed from the properties outwards,
with models on one way and nested classes on the other.
-/

namespace ClientGen

open Generation Component

variable {package : List String} {scope : Scope} {s : Schema} {r : Resolved}

/-! ## Inside a declaration -/

theorem DeclarationOf.self_mem_all (d : Declaration) : d ∈ d.all := by
  rw [all_eq]
  exact List.mem_cons_self

theorem DeclarationOf.mem_all_of_mem_nested {d x e : Declaration} (hx : x ∈ d.nested)
    (he : e ∈ x.all) : e ∈ d.all := by
  rw [all_eq]
  exact List.mem_cons_of_mem _ (List.mem_flatMap.2 ⟨x, hx, he⟩)

/-- What is in a declaration inside another one, is in the other one. -/
theorem DeclarationOf.mem_all_trans {d : Declaration} :
    ∀ {e x : Declaration}, e ∈ d.all → x ∈ e.all → x ∈ d.all := by
  induction d using DeclarationOf.induction with
  | node d ih =>
    intro e x he hx
    rw [all_eq] at he
    rcases List.mem_cons.1 he with rfl | he
    · exact hx
    · obtain ⟨y, hy, he⟩ := List.mem_flatMap.1 he
      exact mem_all_of_mem_nested hy (ih y hy he hx)

/-! ## What a schema resolves to -/

/-- A class is made of the schema in its place: it is an object that has an id, or whose properties
a field holds. -/
def Site.isClass (site : Site) : Bool :=
  site.schema.kind = .object &&
    (site.schema.id.isSome || site.scope.hint.isSome && site.schema.properties.isSome)

/-- Inside what is emitted, there is a class with the properties of the schema for its fields. -/
def HasClass (emitted : List Emission) (s : Schema) : Prop :=
  ∃ x ∈ emitted, ∃ c, .ofClass c ∈ x.declaration.all ∧ c.IsModelOf c.name s

/-- What the schema resolves to, has classes for all objects that its visit comes by. -/
def Resolution.HasClasses (package : List String) (s : Schema) : Prop :=
  ∀ scope r, (resolve package scope s).result = .ok r →
    ∀ site ∈ s.visits package scope, site.isClass → HasClass r.emitted site.schema

namespace Resolution

theorem isClass_eq_false_of_kind (ho : s.kind ≠ .object) : Site.isClass ⟨scope, s⟩ = false := by
  simp [Site.isClass, ho]

theorem isClass_eq_false_of_map (hid : s.id = none)
    (hnone : scope.hint = none ∨ s.properties = none) : Site.isClass ⟨scope, s⟩ = false := by
  rcases hnone with hh | hp
  · simp [Site.isClass, hid, hh]
  · simp [Site.isClass, hid, hp]

/-- What the properties of a class need comes out beside it or is nested in it. -/
theorem hasClass_of_property {c : Class} {e : Emission} {ts : List Typing}
    (he : e.declaration = .ofClass c) (hnested : c.nested = Typing.nested ts) {t : Typing}
    (ht : t ∈ ts) {inner : Schema} (h : HasClass t.resolved.emitted inner) :
    HasClass ((Typing.topLevel ts).map .topLevel ++ [e]) inner := by
  obtain ⟨x, hx, found, hfound, hmodel⟩ := h
  cases x with
  | topLevel m =>
    refine ⟨.topLevel m, List.mem_append_left _ (List.mem_map_of_mem ?_), found, hfound, hmodel⟩
    exact Typing.mem_topLevel.2 ⟨t, ht, Resolved.mem_topLevel.2 hx⟩
  | nested d =>
    refine ⟨e, List.mem_append_right _ (List.mem_singleton_self e), found, ?_, hmodel⟩
    rw [he]
    refine DeclarationOf.mem_all_of_mem_nested ?_ hfound
    have hmem : d ∈ c.nested := by
      rw [hnested]
      exact Typing.mem_nested.2 ⟨t, ht, Resolved.mem_nested.2 hx⟩
    exact hmem

/-- A class that is made of an object, with what its properties need. -/
theorem hasClass_of_object {owner : QualifiedName} {c : Class} {e : Emission} {ts : List Typing}
    (he : e.declaration = .ofClass c) (hnested : c.nested = Typing.nested ts)
    (hmodel : c.IsModelOf c.name s) (hvalid : ∀ t ∈ ts, t.Valid package owner)
    (hts : ∀ t ∈ ts, HasClasses package t.schema) :
    ∀ site ∈ (⟨scope, s⟩ : Site) :: Keyed.visits package owner (ts.map Typing.entry),
      site.isClass → HasClass ((Typing.topLevel ts).map .topLevel ++ [e]) site.schema := by
  intro site hsite hclass
  rcases List.mem_cons.1 hsite with rfl | hsite
  · refine ⟨e, List.mem_append_right _ (List.mem_singleton_self e), c, ?_, hmodel⟩
    rw [he]
    exact DeclarationOf.self_mem_all _
  · obtain ⟨entry, hentry, hsite⟩ := List.mem_flatMap.1 hsite
    obtain ⟨t, ht, rfl⟩ := List.mem_map.1 hentry
    exact hasClass_of_property he hnested ht (hts t ht _ _ (hvalid t ht) site hsite hclass)

/-- **Every object that becomes a class** has it in what its schema resolves to. -/
theorem hasClasses_of_resolve (s : Schema) : HasClasses package s := by
  induction s using Schema.induction with
  | node s hproperties hadditional hitems =>
    intro scope r h
    have hbelow {ts : List Typing} (hentries : ts.map Typing.entry = s.properties.getD []) :
        ∀ t ∈ ts, HasClasses package t.schema := by
      intro t ht
      obtain ⟨entries, hp, he⟩ := Typing.mem_properties hentries t ht
      exact hproperties entries hp t.entry he
    -- where the schema itself becomes no class, only those below it are left
    have hskip {emitted : List Emission} {below : List Site}
        (hself : Site.isClass ⟨scope, s⟩ = false)
        (hrest : ∀ site ∈ below, site.isClass → HasClass emitted site.schema) :
        ∀ site ∈ (⟨scope, s⟩ : Site) :: below, site.isClass → HasClass emitted site.schema := by
      intro site hsite hclass
      rcases List.mem_cons.1 hsite with rfl | hsite
      · rw [hself] at hclass
        cases hclass
      · exact hrest site hsite hclass
    have hscalar (ha : s.kind ≠ .array) (ho : s.kind ≠ .object) :
        ∀ site ∈ s.visits package scope, site.isClass → HasClass r.emitted site.schema := by
      rw [Schema.visits_of_scalar ha ho]
      exact hskip (isClass_eq_false_of_kind ho) fun _ hx => nomatch hx
    cases outcome_of_resolve h with
    | reference target hr hk => exact hscalar (by simp [hk]) (by simp [hk])
    | primitive type ha ho => exact hscalar ha ho
    | void ha ho => exact hscalar ha ho
    | enum hint enclosing constants hk => exact hscalar (by simp [hk]) (by simp [hk])
    | list items item hk hi hitem =>
      rw [Schema.visits_array hk hi]
      exact hskip (isClass_eq_false_of_kind (by simp [hk])) (hitems items hi scope item hitem)
    | map values value hk hid hnone ha hvalue =>
      rw [Schema.visits_map hk hid hnone ha]
      exact hskip (isClass_eq_false_of_map hid hnone) (hadditional values ha scope value hvalue)
    | model id documentation ts hk hid hts hentries =>
      rw [Schema.visits_model hk hid, ← hentries]
      exact hasClass_of_object rfl rfl (isModelOf_of_typings hentries rfl rfl) hts
        (hbelow hentries)
    | nestedClass hint enclosing ts hk hid hh he hts hentries =>
      have hproperty : ts.map Typing.entry = s.properties.getD [] := by rw [hentries]; rfl
      rw [Schema.visits_nestedClass hk hid hh he hentries]
      exact hasClass_of_object rfl rfl (isModelOf_of_typings hproperty rfl rfl) hts
        (hbelow hproperty)

end Resolution

/-! ## The whole API -/

variable {n : Naming} {d : Description} {api : Api}

/-- Everything in a class at the top is declared. -/
theorem mem_declarations {c : Class} (hc : c ∈ api.topLevel) {e : Declaration}
    (he : e ∈ DeclarationOf.all (.ofClass c)) : e ∈ api.declarations :=
  List.mem_flatMap.2 ⟨c, hc, he⟩

theorem model_mem_topLevel (h : d.Generates n api) {c : Class} (hc : c ∈ d.models n) :
    c ∈ api.topLevel :=
  List.mem_append_left _ (h.models.mem_iff.2 hc)

theorem request_mem_topLevel : api.request ∈ api.topLevel :=
  List.mem_append_right _ List.mem_cons_self

theorem client_mem_topLevel : api.client ∈ api.topLevel :=
  List.mem_append_right _ (List.mem_cons_of_mem _ List.mem_cons_self)

/-- In a class with the components of a node, there are the classes of all methods below it. -/
theorem method_mem_nestAll (node : Resource) :
    ∀ (owner : QualifiedName) (c : Class), ∀ site ∈ node.methodSites owner,
      .ofClass (methodDraft n site).finish ∈
        DeclarationOf.all (.ofClass (Draft.nestAll (components n owner node) c)) := by
  induction node using Resource.induction with
  | node methods resources ih =>
    intro owner c site hsite
    have hnested {parts : List Draft} : ∀ part ∈ parts, .ofClass part.finish ∈
        DeclarationOf.nested (.ofClass (Draft.nestAll parts c)) :=
      fun part hpart => List.mem_append_right _ (List.mem_map_of_mem hpart)
    rcases Resource.mem_methodSites.1 hsite with ⟨e, he, rfl⟩ | ⟨e, he, hsite⟩
    · refine DeclarationOf.mem_all_of_mem_nested (hnested _ ?_) (DeclarationOf.self_mem_all _)
      exact mem_components.2 (.inl ⟨e, he, rfl⟩)
    · refine DeclarationOf.mem_all_of_mem_nested
        (hnested _ (mem_components.2 (.inr ⟨e, he, rfl⟩))) ?_
      rw [finish_resourceDraft]
      exact ih e he (owner.member e.1) (resourceRoot _) site hsite

/-- **The class of every method** is declared. -/
theorem method_mem_declarations (h : d.Generates n api) {site : MethodSite}
    (hsite : site ∈ d.tree.methodSites n.client) :
    .ofClass (methodDraft n site).finish ∈ api.declarations := by
  refine mem_declarations client_mem_topLevel ?_
  rw [h.client]
  exact method_mem_nestAll d.tree n.client (clientRoot n d) site hsite

theorem mem_declarations_of_nested {e x y : Declaration} (he : e ∈ api.declarations)
    (hx : x ∈ e.nested) (hy : y ∈ x.all) : y ∈ api.declarations := by
  obtain ⟨c, hc, he⟩ := List.mem_flatMap.1 he
  have hinside := DeclarationOf.mem_all_of_mem_nested hx hy
  exact mem_declarations hc (DeclarationOf.mem_all_trans he hinside)

/-- The object has its class in the API. -/
def Api.HasClassFor (api : Api) (s : Schema) : Prop :=
  ∃ c, .ofClass c ∈ api.declarations ∧ c.IsModelOf c.name s

/-- What is emitted for a schema is declared, if models are at the top and the rest is nested
somewhere. -/
theorem hasClassFor_of_emitted {r : Resolved} {s : Schema} (h : HasClass r.emitted s)
    (htop : ∀ m ∈ r.topLevel, m ∈ api.topLevel)
    (hnested : ∀ x ∈ r.nested, ∀ y ∈ x.all, y ∈ api.declarations) : api.HasClassFor s := by
  obtain ⟨x, hx, c, hc, hmodel⟩ := h
  refine ⟨c, ?_, hmodel⟩
  cases x with
  | topLevel m => exact mem_declarations (htop m (Resolved.mem_topLevel.2 hx)) hc
  | nested d => exact hnested d (Resolved.mem_nested.2 hx) _ hc

/-- The parameters of a class: what they need is a model of the API or nested in the class. -/
theorem hasClassFor_of_parameters {owner : QualifiedName} {parameters : Keyed Schema}
    {e : Declaration} (he : e ∈ api.declarations)
    (hresolve : parameters.Resolve n.modelPackage owner)
    (htop : ∀ m ∈ Typing.topLevel (parameters.typed n.modelPackage owner), m ∈ api.topLevel)
    (hnested : ∀ x ∈ Typing.nested (parameters.typed n.modelPackage owner), x ∈ e.nested)
    {site : Site} (hsite : site ∈ parameters.visits n.modelPackage owner) (h : site.isClass) :
    api.HasClassFor site.schema := by
  obtain ⟨entry, hentry, hsite⟩ := List.mem_flatMap.1 hsite
  have ht := List.mem_map_of_mem (f := Typing.ofEntry n.modelPackage owner) hentry
  have hclass := Resolution.hasClasses_of_resolve entry.2 _ _ (hresolve _ ht) site hsite h
  refine hasClassFor_of_emitted hclass (fun m hm => ?_) fun x hx y hy => ?_
  · exact htop m (Typing.mem_topLevel.2 ⟨_, ht, hm⟩)
  · exact mem_declarations_of_nested he (hnested x (Typing.mem_nested.2 ⟨_, ht, hx⟩)) hy

/-- **Every object that becomes a class** has its class in the API. -/
theorem hasClassFor_of_mem_visits (h : d.Generates n api) {site : Site} (hsite : site ∈ d.visits n)
    (hclass : site.isClass) : api.HasClassFor site.schema := by
  rcases Description.mem_visits.1 hsite with ⟨s, hs, hsite⟩ | hsite | ⟨m, hm, hsite⟩
  · have hresolve := h.schemas s hs
    refine hasClassFor_of_emitted
      (Resolution.hasClasses_of_resolve s.2 _ _ hresolve site hsite hclass) (fun c hc => ?_) ?_
    · refine model_mem_topLevel h (List.mem_append_left _ (List.mem_append_left _ ?_))
      exact List.mem_flatMap.2 ⟨s, hs, hc⟩
    · rw [Resolution.nested_eq_nil hresolve rfl]
      exact fun _ hx => nomatch hx
  · refine hasClassFor_of_parameters
      (mem_declarations request_mem_topLevel (DeclarationOf.self_mem_all _)) h.parameters
      (fun c hc => ?_) (fun x hx => ?_) hsite hclass
    · exact model_mem_topLevel h (List.mem_append_left _ (List.mem_append_right _ hc))
    · rw [h.request]
      exact hx
  · have htyped := h.methods m hm
    have hdeclared := method_mem_declarations h hm
    have hmodels (t : Typing) (ht : t ∈ m.typings n) {c : Class} (hc : c ∈ t.resolved.topLevel) :
        c ∈ api.topLevel :=
      model_mem_topLevel h (mem_models_of_site hm (Typing.mem_topLevel.2 ⟨t, ht, hc⟩))
    rcases hsite with hsite | hsite
    · refine hasClassFor_of_parameters hdeclared htyped.required (fun c hc => ?_) (fun x hx => ?_)
        hsite hclass
      · obtain ⟨t, ht, hc⟩ := Typing.mem_topLevel.1 hc
        exact hmodels t (List.mem_append_left _ ht) hc
      · exact List.mem_append_left _ hx
    · refine hasClassFor_of_parameters hdeclared htyped.optional (fun c hc => ?_) (fun x hx => ?_)
        hsite hclass
      · obtain ⟨t, ht, hc⟩ := Typing.mem_topLevel.1 hc
        exact hmodels t (List.mem_append_right _ ht) hc
      · exact List.mem_append_right _ hx

end ClientGen
