import ClientGen.Proofs.Resolution.Closed
import ClientGen.Proofs.Resolution.Models
import ClientGen.Proofs.Resolution.Visited
import ClientGen.Proofs.Schema.Tour
import Mathlib.Data.List.Forall2

/-!
# What resolving emits

Declarations are made from below, and each goes one of two ways. A model comes out of everything
that is around it. A nested type comes out of lists and maps, up to the class that has the property
on the way to it, and goes into that class. So what comes out of a visit is made of the schemas of
which `Visit.comesOut` is true, and what is nested in a class is made of those in `Site.inner`.

`emits_of_resolve` says that this is what resolving emits, in depth-first post-order; `Site.Emits`
is what is declared for a schema in its place. `shape_of_resolve` says which of the emissions are
nested and what the last one is. `emits_in_order` has it all.
-/

namespace ClientGen

open Visit

/-! ## What is declared for a schema -/

namespace Site

/-- A type nested in the one around it is made of the schema: of an object without an id whose
properties a field holds, and of a text whose values are listed. -/
def nests (site : Site) : Bool :=
  match site.schema.kind with
  | .object => site.schema.id.isNone && site.scope.hint.isSome && site.schema.properties.isSome
  | .string => site.schema.bearsEnum
  | _ => false

/-- The schemas whose types are nested in the class made of this one: those that a property enters
through lists and maps only. -/
def inner (package : List String) (site : Site) : List (Route × Site) :=
  (site.next package).flatMap fun n =>
    (n.2.tour .postorder package).filter fun p => p.1.staysOut && p.2.nests

end Site

/-- The class has a field for each property of the schema. -/
structure Class.IsModelOf (c : Class) (name : QualifiedName) (s : Schema) : Prop where
  name_eq : c.name = name
  kind_eq : c.kind = .model
  fields_eq : c.fields.map (·.identifier.wireName) = (s.properties.getD []).map Prod.fst

/-- What is emitted for a schema in its place, but for what is emitted for those below it. -/
inductive Site.Emits (package : List String) : Site → Emission → Prop
  /-- The class of an object with an id. -/
  | model {site : Site} {id : String} {c : Class} (hk : site.schema.kind = .object)
    (hid : site.schema.id = some id) (hc : c.IsModelOf (.topLevel package id) site.schema)
    (hnested : List.Forall₂ (fun p d => Emits package p.2 (.nested d)) (site.inner package)
      c.nested) :
    Emits package site (.topLevel c)
  /-- The class of an object without one. -/
  | nestedClass {site : Site} {hint : Identifier} {enclosing : QualifiedName} {c : Class}
    (hk : site.schema.kind = .object) (hid : site.schema.id = none)
    (hp : site.schema.properties.isSome) (hh : site.scope.hint = some hint)
    (he : site.scope.enclosing = some enclosing)
    (hc : c.IsModelOf (enclosing.nested hint.typeName) site.schema)
    (hnested : List.Forall₂ (fun p d => Emits package p.2 (.nested d)) (site.inner package)
      c.nested) :
    Emits package site (.nested (.ofClass c))
  /-- The enum of a text. -/
  | nestedEnum {site : Site} {hint : Identifier} {enclosing : QualifiedName}
    {constants : List EnumConstant} (hk : site.schema.kind = .string)
    (hh : site.scope.hint = some hint) (he : site.scope.enclosing = some enclosing)
    (hc : Resolution.enumConstants? site.schema = some constants) :
    Emits package site (.nested (.ofEnum ⟨enclosing.nested hint.typeName, none, constants⟩))

/-! ## What comes out -/

/-- What is declared for a schema that has been visited comes out of the visit: a model from
anywhere, a nested type unless a property has been entered on the way. -/
def Visit.comesOut (p : Route × Site) : Bool :=
  p.2.modelId.isSome || p.1.staysOut && p.2.nests

namespace Visit

variable {p : Route × Site} {site : Site}

theorem comesOut_items : comesOut (Step.items.before p) = comesOut p := rfl

theorem comesOut_values : comesOut (Step.values.before p) = comesOut p := rfl

/-- Only models come out of properties. -/
theorem comesOut_property {key : String} :
    comesOut ((Step.property key).before p) = p.2.modelId.isSome :=
  Bool.or_false _

theorem comesOut_here : comesOut ([], site) = (site.modelId.isSome || site.nests) := rfl

end Visit

namespace Site

/-- The schemas whose declarations come out of a visit, each after those below it. -/
def emitting (package : List String) (site : Site) : List (Route × Site) :=
  (site.tour .postorder package).filter comesOut

variable {package : List String} {site : Site}

theorem emitting_eq : site.emitting package =
    ((site.next package).flatMap fun n =>
      ((n.2.tour .postorder package).filter (comesOut ∘ n.1.before)).map n.1.before) ++
      if comesOut ([], site) then [([], site)] else [] := by
  rw [emitting, tour_eq, Order.place, List.filter_append, List.filter_flatMap]
  simp only [List.filter_map, List.filter_cons, List.filter_nil]

/-- Nothing but an object with an id becomes a model. -/
theorem modelId_eq_none (h : site.schema.kind = .object → site.schema.id = none) :
    site.modelId = none := by
  unfold modelId
  split
  · exact h ‹_›
  · rfl

end Site

namespace Site.Emits

variable {package : List String} {site : Site}

theorem modelId_isSome {c : Class} (h : site.Emits package (.topLevel c)) :
    site.modelId.isSome = true := by
  cases h with
  | model hk hid => rw [modelId, if_pos hk, hid]; rfl

theorem modelId_eq_none {d : Declaration} (h : site.Emits package (.nested d)) :
    site.modelId = none := by
  cases h with
  | nestedClass hk hid => exact Site.modelId_eq_none fun _ => hid
  | nestedEnum hk => exact Site.modelId_eq_none fun ho => by simp [hk] at ho

/-- What becomes a model is not nested. -/
theorem nests_eq_false {c : Class} (h : site.Emits package (.topLevel c)) : site.nests = false := by
  cases h with
  | model hk hid => simp [nests, hk, hid]

end Site.Emits

/-! ## One list for another -/

section

variable {α β γ : Type} {R : α → β → Prop} {P : α → γ → Prop}

theorem forall₂_flatMap {ι : Type} {l : List ι} {f : ι → List α} {g : ι → List β}
    (h : ∀ i ∈ l, List.Forall₂ R (f i) (g i)) : List.Forall₂ R (l.flatMap f) (l.flatMap g) := by
  induction l with
  | nil => exact .nil
  | cons i rest ih =>
    rw [List.flatMap_cons, List.flatMap_cons]
    exact List.rel_append (h i List.mem_cons_self) (ih fun j hj => h j (List.mem_cons_of_mem _ hj))

/-- From lists that correspond, those elements are taken that another relation is about. -/
theorem forall₂_filter {keep pick : α → Bool} {f : β → Option γ}
    (hpick : ∀ a, pick a = true → keep a = true)
    (h : ∀ a b, keep a = true → R a b → Option.Rel P (Option.guard pick a) (f b))
    {l : List α} {l' : List β} (hl : List.Forall₂ R (l.filter keep) l') :
    List.Forall₂ P (l.filter pick) (l'.filterMap f) := by
  have hkept : List.Forall₂ (fun a b => keep a = true ∧ R a b) (l.filter keep) l' :=
    (List.forall₂_and_left _ _).2 ⟨fun a ha => (List.mem_filter.1 ha).2, hl⟩
  have htwice : (l.filter keep).filter pick = l.filter pick := by
    rw [List.filter_filter]
    refine List.filter_congr fun a _ => ?_
    cases ha : pick a with
    | false => rfl
    | true => exact hpick a ha
  rw [← htwice, ← List.filterMap_eq_filter]
  exact List.rel_filterMap (fun a b hab => h a b hab.1 hab.2) hkept

end

namespace Resolution

variable {package : List String} {site : Site} {r : Resolved}

/-! ## What comes out of schemas below others -/

/-- What resolving emits is declared for what comes out of the visit, one for the other. -/
def EmitsAlong (package : List String) (site : Site) (r : Resolved) : Prop :=
  List.Forall₂ (fun p e => p.2.Emits package e) (site.emitting package) r.emitted

/-- The models are declared for what becomes one anywhere. -/
theorem EmitsAlong.topLevel (h : EmitsAlong package site r) :
    List.Forall₂ (fun p c => p.2.Emits package (.topLevel c))
      ((site.tour .postorder package).filter fun p => p.2.modelId.isSome) r.topLevel := by
  refine forall₂_filter (fun p hp => by simp [comesOut, hp]) (fun p e _ he => ?_) h
  cases e with
  | topLevel c =>
    simp only [Option.guard, he.modelId_isSome, if_true]
    exact .some he
  | nested d =>
    simp only [Option.guard, he.modelId_eq_none]
    exact .none

/-- The nested declarations are declared for what becomes one without entering a property. -/
theorem EmitsAlong.nested (h : EmitsAlong package site r) :
    List.Forall₂ (fun p d => p.2.Emits package (.nested d))
      ((site.tour .postorder package).filter fun p => p.1.staysOut && p.2.nests) r.nested := by
  refine forall₂_filter (fun p hp => by simp only [comesOut, hp, Bool.or_true])
    (fun p e hout he => ?_) h
  cases e with
  | topLevel c =>
    simp only [Option.guard, he.nests_eq_false, Bool.and_false]
    exact .none
  | nested d =>
    rw [comesOut, he.modelId_eq_none, Option.isSome_none, Bool.false_or] at hout
    rw [Option.guard, if_pos hout]
    exact .some he

section

variable {owner : QualifiedName} {ts : List Typing}
  (hnext : site.next package =
    ts.map fun t => (.property t.name, ⟨.field ⟨t.name⟩ owner, t.schema⟩))
  (hts : ∀ t ∈ ts, EmitsAlong package ⟨.field ⟨t.name⟩ owner, t.schema⟩ t.resolved)
include hnext hts

/-- Nested in the class is what comes out of its properties and is to be nested. -/
theorem forall₂_inner :
    List.Forall₂ (fun p d => p.2.Emits package (.nested d)) (site.inner package)
      (Typing.nested ts) := by
  rw [Site.inner, hnext, List.flatMap_map]
  exact forall₂_flatMap fun t ht => (hts t ht).nested

/-- Beside the class are the models that come out of its properties. -/
theorem emitsAlong_class {type : TypeRef} {e : Emission} (hself : comesOut ([], site) = true)
    (he : site.Emits package e) :
    EmitsAlong package site ⟨type, (Typing.topLevel ts).map .topLevel ++ [e]⟩ := by
  have hmodels : List.Forall₂ (fun p e => p.2.Emits package e)
      (ts.flatMap fun t => ((Site.tour .postorder package
        ⟨.field ⟨t.name⟩ owner, t.schema⟩).filter fun p => p.2.modelId.isSome).map
          (Step.property t.name).before)
      ((Typing.topLevel ts).map .topLevel) := by
    rw [Typing.topLevel, List.map_flatMap]
    refine forall₂_flatMap fun t ht => ?_
    rw [List.forall₂_map_left_iff, List.forall₂_map_right_iff]
    exact (hts t ht).topLevel
  have hout (key : String) : comesOut ∘ (Step.property key).before = fun p => p.2.modelId.isSome :=
    funext fun p => comesOut_property
  rw [EmitsAlong, Site.emitting_eq, hself, hnext, List.flatMap_map]
  simp only [hout]
  exact List.rel_append hmodels (.cons he .nil)

end

/-! ## What comes out of each kind of schema -/

variable {scope : Scope} {s : Schema}

/-- The class of an object has a field for each property. -/
theorem isModelOf_of_typings {c : Class} {ts : List Typing}
    (hentries : ts.map Typing.entry = s.properties.getD []) (hkind : c.kind = .model)
    (hfields : c.fields = ts.map fun t => propertyField t.name t.schema t.type) :
    c.IsModelOf c.name s where
  name_eq := rfl
  kind_eq := hkind
  fields_eq := by
    rw [hfields, ← hentries, List.map_map, List.map_map]
    rfl

/-- A list or map emits what its items or values do. -/
theorem emitsAlong_step {step : Step} {below : Site} {type : TypeRef}
    (hnext : site.next package = [(step, below)])
    (hstep : comesOut ∘ step.before = comesOut) (hself : comesOut ([], site) = false)
    (h : EmitsAlong package below r) : EmitsAlong package site ⟨type, r.emitted⟩ := by
  rw [EmitsAlong, Site.emitting_eq, hself, hnext, List.flatMap_cons, List.flatMap_nil, hstep]
  simp only [Bool.false_eq_true, if_false, List.append_nil]
  exact List.forall₂_map_left_iff.2 h

/-- A schema with nothing below it. -/
theorem emitting_of_scalar (ha : s.kind ≠ .array) (ho : s.kind ≠ .object) :
    Site.emitting package ⟨scope, s⟩ =
      if Site.nests ⟨scope, s⟩ then [([], ⟨scope, s⟩)] else [] := by
  have hmodel : Site.modelId ⟨scope, s⟩ = none := Site.modelId_eq_none fun hk => absurd hk ho
  rw [Site.emitting_eq, Site.next_of_scalar ha ho, comesOut_here, hmodel]
  rfl

/-- A text becomes a nested type exactly if one is emitted. -/
theorem bearsEnum_eq_of_resolveText (h : (resolveText s scope).result = .ok r) :
    s.bearsEnum = !r.emitted.isEmpty := by
  rw [Schema.bearsEnum]
  unfold resolveText at h
  split at h
  · rename_i hformat
    rw [hformat]
    cases h
    rfl
  · rename_i hformat
    rw [hformat]
    split at h
    · rename_i hconstants
      rw [hconstants]
      unfold nestedEnum at h
      split at h <;> cases h
      rfl
    · rename_i hconstants
      rw [hconstants]
      cases h
      rfl

/-- A schema with nothing below it that is resolved nests a type exactly if it is a text that emits
one. -/
theorem nests_eq_of_scalar (h : (resolve package scope s).result = .ok r)
    (ho : s.kind ≠ .object) :
    Site.nests ⟨scope, s⟩ = (s.kind = .string && !r.emitted.isEmpty) := by
  cases hk : s.kind with
  | string =>
    rw [resolve_eq, hk] at h
    simp [Site.nests, hk, bearsEnum_eq_of_resolveText h]
  | object => exact absurd hk ho
  | _ => simp [Site.nests, hk]

/-- **Resolving emits what comes out of the visit**, each after what is below it. -/
theorem emits_of_resolve (s : Schema) :
    ∀ {scope : Scope} {r : Resolved}, (resolve package scope s).result = .ok r →
      EmitsAlong package ⟨scope, s⟩ r := by
  induction s using Schema.induction with
  | node s hproperties hadditional hitems =>
    intro scope r h
    have hnothing (ha : s.kind ≠ .array) (ho : s.kind ≠ .object) (he : r.emitted = []) :
        EmitsAlong package ⟨scope, s⟩ r := by
      rw [EmitsAlong, emitting_of_scalar ha ho, nests_eq_of_scalar h ho, he]
      simp
    have hfields {owner : QualifiedName} {ts : List Typing}
        (hvalid : ∀ t ∈ ts, t.Valid package owner)
        (hentries : ts.map Typing.entry = s.properties.getD []) :
        ∀ t ∈ ts, EmitsAlong package ⟨.field ⟨t.name⟩ owner, t.schema⟩ t.resolved := by
      intro t ht
      obtain ⟨entries, hp, he⟩ := Typing.mem_properties hentries t ht
      exact hproperties entries hp t.entry he (hvalid t ht)
    cases outcome_of_resolve h with
    | reference target _ hk => exact hnothing (by simp [hk]) (by simp [hk]) rfl
    | primitive type ha ho => exact hnothing ha ho rfl
    | void ha ho => exact hnothing ha ho rfl
    | enum hint enclosing constants hk hh he hc =>
      have hnests : Site.nests ⟨scope, s⟩ = true := by
        simp [nests_eq_of_scalar h (by simp [hk]), hk]
      rw [EmitsAlong, emitting_of_scalar (by simp [hk]) (by simp [hk]), hnests, if_pos rfl]
      exact .cons (.nestedEnum hk hh he hc) .nil
    | list items item hk hi hitem =>
      refine emitsAlong_step (Site.next_array hk hi) (funext fun _ => comesOut_items) ?_
        (hitems items hi hitem)
      simp [comesOut, Site.modelId, Site.nests, hk]
    | map values value hk hid hnone ha hvalue =>
      refine emitsAlong_step (Site.next_map hk hid hnone ha) (funext fun _ => comesOut_values) ?_
        (hadditional values ha hvalue)
      rcases hnone with hh | hp
      · simp [comesOut, Site.modelId, Site.nests, hk, hid, hh]
      · simp [comesOut, Site.modelId, Site.nests, hk, hid, hp]
    | model id documentation ts hk hid hts hentries =>
      have hnext : Site.next package ⟨scope, s⟩ = _ := Site.next_model hk hid
      rw [← hentries, List.map_map] at hnext
      have hbelow := hfields hts hentries
      refine emitsAlong_class hnext hbelow (by simp [comesOut, Site.modelId, hk, hid]) ?_
      exact .model hk hid (isModelOf_of_typings hentries rfl rfl) (forall₂_inner hnext hbelow)
    | nestedClass hint enclosing ts hk hid hh he hts hentries =>
      have hproperties : s.properties.isSome := by rw [hentries]; rfl
      have hentries : ts.map Typing.entry = s.properties.getD [] := by rw [hentries]; rfl
      have hnext : Site.next package ⟨scope, s⟩ = _ :=
        Site.next_nestedClass hk hid hh he hproperties
      rw [← hentries, List.map_map] at hnext
      have hbelow := hfields hts hentries
      refine emitsAlong_class hnext hbelow ?_ ?_
      · simp [comesOut_here, Site.nests, hk, hid, hh, hproperties]
      · exact .nestedClass hk hid hproperties hh he (isModelOf_of_typings hentries rfl rfl)
          (forall₂_inner hnext hbelow)

/-! ## The last emission -/

/-- The nested type is emitted last, after nothing but models. It is named after the scope, and the
type is made of it. -/
structure NestsLast (scope : Scope) (r : Resolved) (d : Declaration) : Prop where
  emitted_eq : ∃ models : List Class, r.emitted = models.map .topLevel ++ [.nested d]
  name_eq : ∃ hint enclosing, scope.hint = some hint ∧ scope.enclosing = some enclosing ∧
    d.name = enclosing.nested hint.typeName
  leaf_eq : r.type.leaf = .named d.name

/-- What there is among the emissions. -/
inductive Shape (scope : Scope) (r : Resolved) : Prop
  | empty (h : r.emitted = [])
  /-- Models, and the type is made of the last one. -/
  | model (models : List Class) (c : Class) (h : r.emitted = models.map .topLevel ++ [.topLevel c])
    (hleaf : r.type.leaf = .named c.name)
  | nested (d : Declaration) (h : NestsLast scope r d)

/-- Lists and maps change neither the emissions nor what the type is made of. -/
theorem Shape.wrap {type : TypeRef} (h : Shape scope r) (htype : type.leaf = r.type.leaf) :
    Shape scope ⟨type, r.emitted⟩ := by
  cases h with
  | empty he => exact .empty he
  | model models c he hleaf => exact .model models c he (htype.trans hleaf)
  | nested d h => exact .nested d ⟨h.emitted_eq, h.name_eq, htype.trans h.leaf_eq⟩

theorem shape_of_resolve (s : Schema) :
    ∀ {scope : Scope} {r : Resolved}, (resolve package scope s).result = .ok r → Shape scope r := by
  induction s using Schema.induction with
  | node s hproperties hadditional hitems =>
    intro scope r h
    cases outcome_of_resolve h with
    | reference | primitive | void => exact .empty rfl
    | enum hint enclosing constants _ hh he =>
      exact .nested _ ⟨⟨[], rfl⟩, ⟨hint, enclosing, hh, he, rfl⟩, rfl⟩
    | list items item _ hi hitem => exact (hitems items hi hitem).wrap rfl
    | map values value _ _ _ ha hvalue => exact (hadditional values ha hvalue).wrap rfl
    | model id documentation ts => exact .model (Typing.topLevel ts) _ rfl rfl
    | nestedClass hint enclosing ts _ _ hh he =>
      exact .nested _ ⟨⟨Typing.topLevel ts, rfl⟩, ⟨hint, enclosing, hh, he, rfl⟩, rfl⟩

/-- Nothing is nested but the last emission. -/
theorem Shape.nestsLast {d : Declaration} (h : Shape scope r) (hd : .nested d ∈ r.emitted) :
    NestsLast scope r d := by
  have hlast {models : List Class} {e : Emission} (he : r.emitted = models.map .topLevel ++ [e]) :
      e = .nested d := by
    rw [he, List.mem_append, List.mem_singleton] at hd
    rcases hd with hd | rfl
    · obtain ⟨c, -, hc⟩ := List.mem_map.1 hd
      cases hc
    · rfl
  cases h with
  | empty he =>
    rw [he] at hd
    cases hd
  | model models c he => cases hlast he
  | nested d' h =>
    obtain ⟨models, he⟩ := h.emitted_eq
    cases hlast he
    exact h

theorem Shape.last_declares {e : Emission} (h : Shape scope r) (he : r.emitted.getLast? = some e) :
    r.type.leaf = .named e.declaration.name := by
  cases h with
  | empty hr =>
    rw [hr] at he
    cases he
  | model models c hr hleaf =>
    rw [hr, List.getLast?_concat] at he
    cases he
    exact hleaf
  | nested d h =>
    obtain ⟨models, hr⟩ := h.emitted_eq
    rw [hr, List.getLast?_concat] at he
    cases he
    exact h.leaf_eq

/-! ## All of it -/

/-- What is emitted when a schema in its place is resolved. -/
structure EmitsInOrder (package : List String) (start : Site) (r : Resolved) : Prop where
  /-- The tour is the depth-first visit, each schema after those below it. -/
  toured : start.Toured .postorder package (start.tour .postorder package)
  /-- In the order of the tour, a model is emitted for each object with an id, and a nested type for
  each schema that one is made of without a property having been entered. The others are nested in
  the classes that have the properties. -/
  emits : List.Forall₂ (fun p e => p.2.Emits package e)
    ((start.tour .postorder package).filter fun p =>
      p.2.modelId.isSome || p.1.staysOut && p.2.nests) r.emitted
  /-- There is no more than one nested type, and it comes last. -/
  nestsLast : ∀ d, .nested d ∈ r.emitted → NestsLast start.scope r d
  /-- The last emission declares what the type is made of. -/
  last_declares : ∀ e, r.emitted.getLast? = some e → r.type.leaf = .named e.declaration.name
  /-- Without a type around the schema nothing is nested. -/
  unnested : start.scope.enclosing = none → r.nested = []

theorem emits_in_order {start : Site}
    (h : (resolve package start.scope start.schema).result = .ok r) :
    EmitsInOrder package start r where
  toured := start.toured .postorder package
  emits := emits_of_resolve start.schema h
  nestsLast _ := (shape_of_resolve start.schema h).nestsLast
  last_declares _ := (shape_of_resolve start.schema h).last_declares
  unnested := nested_eq_nil h

/-- The volumes of a work, each with an author and a binding. -/
def volumes : Site where
  scope := .field ⟨"volumes"⟩ (.topLevel ["library"] "Work")
  schema := {
    type := "array"
    items := some {
      type := "object"
      properties := some [
        ("author", {
          id := "Author"
          type := "object"
          properties := some [("home", { type := "object", properties := some [] })] }),
        ("binding", { type := "string", enumValues := some ["hard", "soft"] })] } }

/-- A class for the volumes comes after a model of the authors, and nothing comes beside them. -/
theorem emits_in_order_volumes :
    ∃ r, (resolve ["library"] volumes.scope volumes.schema).result = .ok r ∧
      r.emitted.map (·.declaration.name.dotted) = ["library.Author", "library.Work.Volumes"] ∧
      EmitsInOrder ["library"] volumes r := by
  have hnames : (resolve ["library"] volumes.scope volumes.schema).result.toOption.any
      (fun r => r.emitted.map (·.declaration.name.dotted) =
        ["library.Author", "library.Work.Volumes"]) = true := by
    decide +kernel
  obtain ⟨r, hr, hnames⟩ := Traced.exists_of_any hnames
  exact ⟨r, hr, of_decide_eq_true hnames, emits_in_order hr⟩

end Resolution

end ClientGen
