import ClientGen.Proofs.Resolution.Outcome
import ClientGen.Proofs.Schema.Nodes

/-!
# The models that resolving gives

An object with an id becomes a model wherever it stands, and its class is passed on through all that
is around it: lists, maps, nested classes, other models. `accounted_of_resolve` says that none is
lost or repeated on the way: the models that a schema resolves to are named after the ids of the
objects that the visit comes by, one model for each time.
-/

namespace ClientGen

/-! ## Ids of models -/

namespace Site

/-- The id of the model that the schema becomes, if it does become one. -/
def modelId (site : Site) : Option String :=
  if site.schema.kind = .object then site.schema.id else none

/-- The ids of the models that visited schemas become. -/
def modelIds (sites : List Site) : List String :=
  sites.filterMap modelId

theorem modelIds_append (sites more : List Site) :
    modelIds (sites ++ more) = modelIds sites ++ modelIds more :=
  List.filterMap_append

/-- What becomes no model adds no id. -/
theorem modelIds_cons_of_kind {site : Site} (h : site.schema.kind ≠ .object) (rest : List Site) :
    modelIds (site :: rest) = modelIds rest := by
  have hnone : site.modelId = none := if_neg h
  rw [modelIds, List.filterMap_cons_none hnone]
  rfl

theorem modelIds_cons_of_id {site : Site} (h : site.schema.id = none) (rest : List Site) :
    modelIds (site :: rest) = modelIds rest := by
  have hnone : site.modelId = none := by
    rw [modelId, h]
    exact ite_self none
  rw [modelIds, List.filterMap_cons_none hnone]
  rfl

theorem modelIds_cons_model {site : Site} {id : String} (hk : site.schema.kind = .object)
    (hid : site.schema.id = some id) (rest : List Site) :
    modelIds (site :: rest) = id :: modelIds rest := by
  have hsome : site.modelId = some id := by
    rw [modelId, if_pos hk, hid]
  rw [modelIds, List.filterMap_cons_some hsome]
  rfl

end Site

/-! ## Nothing is lost -/

/-- The models are named after the ids of the objects that were visited, one for each. -/
def Accounted (package : List String) (models : List Class) (visited : List Site) : Prop :=
  (models.map (·.name)).Perm ((Site.modelIds visited).map (.topLevel package))

section

variable {package : List String}

theorem Accounted.append {models more : List Class} {visited others : List Site}
    (h : Accounted package models visited) (hmore : Accounted package more others) :
    Accounted package (models ++ more) (visited ++ others) := by
  rw [Accounted, List.map_append, Site.modelIds_append, List.map_append]
  exact List.Perm.append h hmore

theorem Accounted.flatMap {α : Type} {l : List α} {f : α → List Class} {g : α → List Site}
    (h : ∀ a ∈ l, Accounted package (f a) (g a)) :
    Accounted package (l.flatMap f) (l.flatMap g) := by
  induction l with
  | nil => exact List.Perm.refl _
  | cons a rest ih =>
    rw [List.flatMap_cons, List.flatMap_cons]
    exact (h a List.mem_cons_self).append (ih fun b hb => h b (List.mem_cons_of_mem _ hb))

/-- The fields of a type, if each of them is accounted for. -/
theorem Accounted.typings {owner : QualifiedName} {ts : List Typing}
    (h : ∀ t ∈ ts, Accounted package t.resolved.topLevel
      (t.schema.visits package (.field ⟨t.name⟩ owner))) :
    Accounted package (Typing.topLevel ts)
      ((ts.map Typing.entry).flatMap fun e => e.2.visits package (.field ⟨e.1⟩ owner)) := by
  rw [List.flatMap_map]
  exact Accounted.flatMap h

end

namespace Resolution

variable {package : List String} {scope : Scope} {s : Schema} {r : Resolved}

/-- The models among what is emitted for a class: those passed on, and the class if it is one. -/
theorem topLevel_passedOn (type : TypeRef) (models : List Class) (e : Emission) :
    (Resolved.mk type (models.map .topLevel ++ [e])).topLevel =
      models ++ (Resolved.mk type [e]).topLevel := by
  have hmodels : (Resolved.mk type (models.map .topLevel)).topLevel = models := by
    rw [Resolved.topLevel, List.filterMap_map]
    exact List.filterMap_some
  rw [Resolved.topLevel, List.filterMap_append]
  exact congrArg (· ++ (Resolved.mk type [e]).topLevel) hmodels

/-- A schema that emits nothing and has nothing below it. -/
theorem accounted_scalar {type : TypeRef} (ha : s.kind ≠ .array) (ho : s.kind ≠ .object) :
    Accounted package (Resolved.mk type []).topLevel (s.visits package scope) := by
  rw [Schema.visits_of_scalar ha ho, Accounted, Site.modelIds_cons_of_kind ho]
  exact List.Perm.refl _

/-- The models that a schema resolves to are those of the objects that the visit comes by. -/
theorem accounted_of_resolve (s : Schema) :
    ∀ {scope : Scope} {r : Resolved}, (resolve package scope s).result = .ok r →
      Accounted package r.topLevel (s.visits package scope) := by
  induction s using Schema.induction with
  | node s hproperties hadditional hitems =>
    intro scope r h
    have hfields : ∀ {owner : QualifiedName} {ts : List Typing},
        (∀ t ∈ ts, t.Valid package owner) → ts.map Typing.entry = s.properties.getD [] →
          Accounted package (Typing.topLevel ts)
            ((s.properties.getD []).flatMap fun e => e.2.visits package (.field ⟨e.1⟩ owner)) := by
      intro owner ts hvalid hentries
      rw [← hentries]
      refine Accounted.typings fun t ht => ?_
      obtain ⟨entries, hp, he⟩ := Typing.mem_properties hentries t ht
      exact hproperties entries hp t.entry he (hvalid t ht)
    cases outcome_of_resolve h with
    | reference target hr hk => exact accounted_scalar (by simp [hk]) (by simp [hk])
    | primitive type ha ho => exact accounted_scalar ha ho
    | void ha ho => exact accounted_scalar ha ho
    | enum hint enclosing constants hk =>
      rw [Schema.visits_of_scalar (by simp [hk]) (by simp [hk]), Accounted,
        Site.modelIds_cons_of_kind (by simp [hk])]
      exact List.Perm.refl _
    | list items item hk hi hitem =>
      have hinside : Accounted package item.topLevel (items.visits package scope) :=
        hitems items hi hitem
      rw [Schema.visits_array hk hi, Accounted, Site.modelIds_cons_of_kind (by simp [hk])]
      exact hinside
    | map values value hk hid hnone ha hvalue =>
      have hinside : Accounted package value.topLevel (values.visits package scope) :=
        hadditional values ha hvalue
      rw [Schema.visits_map hk hid hnone ha, Accounted, Site.modelIds_cons_of_id hid]
      exact hinside
    | model id documentation ts hk hid hts hentries =>
      -- the class comes after the models inside it, its visit before theirs
      rw [topLevel_passedOn, Schema.visits_model hk hid, Accounted,
        Site.modelIds_cons_model hk hid, List.map_append, List.map_cons]
      exact (List.perm_append_singleton _ _).trans ((hfields hts hentries).cons _)
    | nestedClass hint enclosing ts hk hid hh he hts hentries =>
      have hproperty : ts.map Typing.entry = s.properties.getD [] := by rw [hentries]; rfl
      have hinside := hfields hts hproperty
      rw [hentries, Option.getD_some] at hinside
      rw [topLevel_passedOn, Schema.visits_nestedClass hk hid hh he hentries, Accounted,
        Site.modelIds_cons_of_id hid]
      exact (List.append_nil (Typing.topLevel ts)).symm ▸ hinside

end Resolution

end ClientGen
