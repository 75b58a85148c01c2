import ClientGen.Proofs.Description.Ordered
import ClientGen.Proofs.Schema.Nodes
import Mathlib.Data.List.Basic
import Mathlib.Data.List.Flatten

/-!
# Visits and their routes

A visit goes from a schema down to schemas directly below it, `Site.next`, by steps: to the items of
an array, to the values of a map, to a property. The steps since the visit began are the route to
where it is, and `Site.Reaches` says which schemas can be reached by which route.

`Site.tour` lists all of them with their routes, each before or after those below it. `toured` says
that the list is as it should be: every schema that can be reached is in it and no other, it is in
depth-first order with properties in the order of their names, and the hint of each schema is the
innermost one on its route. Without the routes, the tour in preorder is the visit,
`map_snd_tour_preorder`.
-/

namespace ClientGen

/-! ## Routes -/

namespace Visit

/-- A step from a schema to one directly below it. -/
inductive Step
  | items
  /-- To the schema of the values of a map. -/
  | values
  | property (key : String)
deriving DecidableEq, Repr

/-- The field that holds the schema after the step. Items and values are held by the field that
holds the list or map. -/
def Step.hint (around : Option Identifier) : Step → Option Identifier
  | .property key => some ⟨key⟩
  | .items | .values => around

/-- Of two steps from one schema, the first is taken first. -/
inductive Step.Before : Step → Step → Prop
  | properties {key other : String} (h : key < other) : Before (.property key) (.property other)

/-- The steps from where a visit began. -/
abbrev Route := List Step

/-- The innermost hint at the end of the route: that of the last property on it or, if it has none,
the one that the visit began with. -/
def Route.hint (around : Option Identifier) (route : Route) : Option Identifier :=
  route.foldl Step.hint around

/-- The route goes through lists and maps only, and enters no property. -/
def Route.staysOut (route : Route) : Bool :=
  route.all fun
    | .property _ => false
    | .items | .values => true

/-- When a schema has its turn. -/
inductive Order
  /-- Before the schemas below it. -/
  | preorder
  /-- After the schemas below it. -/
  | postorder
deriving DecidableEq, Repr

namespace Order

variable {α : Type}

/-- A schema, put in order with those below it. -/
def place (o : Order) (a : α) (below : List α) : List α :=
  match o with
  | .preorder => a :: below
  | .postorder => below ++ [a]

/-- The end of the first route has its turn before that of the second. -/
inductive Precedes (o : Order) : Route → Route → Prop
  | entered (step : Step) (rest : Route) (h : o = .preorder) : Precedes o [] (step :: rest)
  | left (step : Step) (rest : Route) (h : o = .postorder) : Precedes o (step :: rest) []
  | aside {step other : Step} (rest more : Route) (h : step.Before other) :
    Precedes o (step :: rest) (other :: more)
  | along (step : Step) {rest more : Route} (h : Precedes o rest more) :
    Precedes o (step :: rest) (step :: more)

variable {o : Order} {a : α} {below : List α}

theorem mem_place {x : α} : x ∈ o.place a below ↔ x = a ∨ x ∈ below := by
  cases o with
  | preorder => exact List.mem_cons
  | postorder =>
    rw [place, List.mem_append, List.mem_singleton]
    exact or_comm

theorem map_place {β : Type} (f : α → β) :
    (o.place a below).map f = o.place (f a) (below.map f) := by
  cases o with
  | preorder => rfl
  | postorder => exact List.map_append

end Order

end Visit

open Visit

/-! ## Where a visit goes -/

namespace Site

/-- The schemas directly below, with the steps to them, in the order in which they are visited. -/
def next (package : List String) (site : Site) : List (Step × Site) :=
  match site.schema.descent package site.scope with
  | .nowhere => []
  | .items => site.schema.items.toList.map fun s => (.items, ⟨site.scope, s⟩)
  | .properties owner =>
    (site.schema.properties.getD []).map fun e => (.property e.1, ⟨⟨some ⟨e.1⟩, owner⟩, e.2⟩)
  | .additional => site.schema.additionalProperties.toList.map fun s => (.values, ⟨site.scope, s⟩)

/-- A visit that begins with the first schema comes by the second one, on the route. -/
inductive Reaches (package : List String) : Site → Route → Site → Prop
  | here (site : Site) : Reaches package site [] site
  | there {start between site : Site} {step : Step} {rest : Route}
    (h : (step, between) ∈ start.next package) (hrest : Reaches package between rest site) :
    Reaches package start (step :: rest) site

variable {package : List String}

/-- What holds of a schema in its place when it holds of all those directly below it, holds of all.
-/
@[elab_as_elim]
theorem induction (package : List String) {P : Site → Prop}
    (node : ∀ site : Site, (∀ n ∈ site.next package, P n.2) → P site) (site : Site) : P site := by
  obtain ⟨scope, s⟩ := site
  induction s using Schema.induction generalizing scope with
  | node s hproperties hadditional hitems =>
    refine node ⟨scope, s⟩ fun n hn => ?_
    unfold next at hn
    split at hn
    · cases hn
    · obtain ⟨items, hi, rfl⟩ := List.mem_map.1 hn
      exact hitems items (Option.mem_toList.1 hi) _
    · obtain ⟨e, he, rfl⟩ := List.mem_map.1 hn
      cases hp : s.properties with
      | none => rw [hp] at he; cases he
      | some entries =>
        rw [hp] at he
        exact hproperties entries hp e he _
    · obtain ⟨value, ha, rfl⟩ := List.mem_map.1 hn
      exact hadditional value (Option.mem_toList.1 ha) _

section

variable {scope : Scope} {s : Schema}

theorem next_array {items : Schema} (hk : s.kind = .array) (hi : s.items = some items) :
    next package ⟨scope, s⟩ = [(.items, ⟨scope, items⟩)] := by
  rw [next, Schema.descent_array package scope hk, hi]
  rfl

theorem next_model {id : String} (hk : s.kind = .object) (hid : s.id = some id) :
    next package ⟨scope, s⟩ = (s.properties.getD []).map fun e =>
      (.property e.1, ⟨.field ⟨e.1⟩ (.topLevel package id), e.2⟩) := by
  rw [next, Schema.descent_model package scope hk hid]
  rfl

theorem next_nestedClass {hint : Identifier} {enclosing : QualifiedName}
    (hk : s.kind = .object) (hid : s.id = none) (hh : scope.hint = some hint)
    (he : scope.enclosing = some enclosing) (hp : s.properties.isSome) :
    next package ⟨scope, s⟩ = (s.properties.getD []).map fun e =>
      (.property e.1, ⟨.field ⟨e.1⟩ (enclosing.nested hint.typeName), e.2⟩) := by
  rw [next, Schema.descent_nestedClass package scope hk hid hh he hp]
  rfl

theorem next_map {value : Schema} (hk : s.kind = .object) (hid : s.id = none)
    (hnone : scope.hint = none ∨ s.properties = none) (ha : s.additionalProperties = some value) :
    next package ⟨scope, s⟩ = [(.values, ⟨scope, value⟩)] := by
  rw [next, Schema.descent_map package scope hk hid hnone, ha]
  rfl

theorem next_of_scalar (ha : s.kind ≠ .array) (ho : s.kind ≠ .object) :
    next package ⟨scope, s⟩ = [] := by
  rw [next, Schema.descent_of_scalar package scope ha ho]

end

/-- A step changes the hint only if it enters a property. -/
theorem hint_of_mem_next {site : Site} {n : Step × Site} (h : n ∈ site.next package) :
    n.2.scope.hint = n.1.hint site.scope.hint := by
  unfold next at h
  split at h
  · cases h
  all_goals
    obtain ⟨_, -, rfl⟩ := List.mem_map.1 h
    rfl

theorem Reaches.hint_eq {start site : Site} {route : Route} (h : start.Reaches package route site) :
    site.scope.hint = route.hint start.scope.hint := by
  induction h with
  | here => rfl
  | there h _ ih =>
    rw [ih, hint_of_mem_next h]
    rfl

theorem ordered_of_mem_next {site : Site} (hs : site.schema.Ordered) {n : Step × Site}
    (h : n ∈ site.next package) : n.2.schema.Ordered := by
  obtain ⟨scope, s⟩ := site
  obtain ⟨_, _, below, additional, items⟩ := hs
  unfold next at h
  split at h
  · cases h
  · obtain ⟨inner, hi, rfl⟩ := List.mem_map.1 h
    exact items inner (Option.mem_toList.1 hi)
  · obtain ⟨e, he, rfl⟩ := List.mem_map.1 h
    cases hp : s.properties with
    | none => rw [hp] at he; cases he
    | some entries =>
      rw [hp] at he
      exact below entries hp e he
  · obtain ⟨value, ha, rfl⟩ := List.mem_map.1 h
    exact additional value (Option.mem_toList.1 ha)

/-- Steps from one schema are in order: there is one of them, or they are to its properties. -/
theorem pairwise_next {site : Site} (hs : site.schema.Ordered) :
    (site.next package).Pairwise fun n m => n.1.Before m.1 := by
  have hone {α : Type} {R : α → α → Prop} (inner : Option Schema) (f : Schema → α) :
      (inner.toList.map f).Pairwise R := by
    cases inner with
    | none => exact List.Pairwise.nil
    | some s => exact List.pairwise_singleton _ _
  obtain ⟨_, properties, _, _, _⟩ := hs
  unfold next
  split
  · exact List.Pairwise.nil
  · exact hone _ _
  · refine List.pairwise_map.2 ?_
    cases hp : site.schema.properties with
    | none => exact List.Pairwise.nil
    | some entries => exact (properties entries hp).imp .properties
  · exact hone _ _

end Site

/-! ## Tours -/

/-- What is reached by a route from below the step is reached by the step and that route. -/
def Visit.Step.before (step : Step) (p : Route × Site) : Route × Site :=
  (step :: p.1, p.2)

namespace Schema

mutual

/-- The schemas that resolving comes by, with the routes to them. -/
def tour (o : Order) (package : List String) (scope : Scope) : Schema → List (Route × Site)
  | s@⟨_, _, _, _, _, properties, additional, items, _, _, _⟩ =>
    o.place ([], ⟨scope, s⟩) <|
      match s.descent package scope with
      | .nowhere => []
      | .items => tourInside o package scope .items items
      | .properties owner => tourOfProperties o package owner properties
      | .additional => tourInside o package scope .values additional

/-- The tour of the properties of a type. -/
def tourOfProperties (o : Order) (package : List String) (owner : Option QualifiedName) :
    Option (List (String × Schema)) → List (Route × Site)
  | none => []
  | some entries => tourOfEntries o package owner entries

/-- The tour of a schema behind a step, if there is one. -/
def tourInside (o : Order) (package : List String) (scope : Scope) (step : Step) :
    Option Schema → List (Route × Site)
  | none => []
  | some s => (tour o package scope s).map step.before

/-- The tour of a map of properties. -/
def tourOfEntries (o : Order) (package : List String) (owner : Option QualifiedName) :
    List (String × Schema) → List (Route × Site)
  | [] => []
  | (key, property) :: rest =>
    (tour o package ⟨some ⟨key⟩, owner⟩ property).map (Step.property key).before ++
      tourOfEntries o package owner rest

end

theorem tour_eq (o : Order) (package : List String) (scope : Scope) (s : Schema) :
    s.tour o package scope = o.place ([], ⟨scope, s⟩)
      (match s.descent package scope with
      | .nowhere => []
      | .items => tourInside o package scope .items s.items
      | .properties owner => tourOfProperties o package owner s.properties
      | .additional => tourInside o package scope .values s.additionalProperties) := by
  obtain ⟨id, reference, tag, text, format, properties, additional, items, required, values,
    texts⟩ := s
  rw [tour]

theorem tourOfEntries_eq_flatMap (o : Order) (package : List String) (owner : Option QualifiedName)
    (entries : List (String × Schema)) :
    tourOfEntries o package owner entries = entries.flatMap fun e =>
      (e.2.tour o package ⟨some ⟨e.1⟩, owner⟩).map (Step.property e.1).before := by
  induction entries with
  | nil => rfl
  | cons e rest ih => rw [List.flatMap_cons, tourOfEntries, ih]

theorem tourOfProperties_eq_flatMap (o : Order) (package : List String)
    (owner : Option QualifiedName) (properties : Option (List (String × Schema))) :
    tourOfProperties o package owner properties = (properties.getD []).flatMap fun e =>
      (e.2.tour o package ⟨some ⟨e.1⟩, owner⟩).map (Step.property e.1).before := by
  cases properties with
  | none => rfl
  | some entries => exact tourOfEntries_eq_flatMap o package owner entries

theorem tourInside_eq_flatMap (o : Order) (package : List String) (scope : Scope) (step : Step)
    (inner : Option Schema) :
    tourInside o package scope step inner =
      inner.toList.flatMap fun s => (s.tour o package scope).map step.before := by
  cases inner with
  | none => rfl
  | some s => exact (List.append_nil _).symm

end Schema

namespace Site

/-- The schemas that a visit comes by, with the routes to them. -/
def tour (o : Order) (package : List String) (site : Site) : List (Route × Site) :=
  site.schema.tour o package site.scope

variable {package : List String}

/-- The schema itself, put in order with the tours of those directly below it. -/
theorem tour_eq (o : Order) (package : List String) (site : Site) :
    site.tour o package = o.place ([], site)
      ((site.next package).flatMap fun n => (n.2.tour o package).map n.1.before) := by
  obtain ⟨scope, s⟩ := site
  rw [tour, Schema.tour_eq]
  unfold next
  dsimp only
  congr 1
  cases s.descent package scope with
  | nowhere => rfl
  | items =>
    simp only [Schema.tourInside_eq_flatMap, List.flatMap_map]
    rfl
  | properties owner =>
    simp only [Schema.tourOfProperties_eq_flatMap, List.flatMap_map]
    rfl
  | additional =>
    simp only [Schema.tourInside_eq_flatMap, List.flatMap_map]
    rfl

/-- The visit in the same terms. -/
theorem visits_eq (package : List String) (site : Site) :
    site.schema.visits package site.scope =
      site :: (site.next package).flatMap fun n => n.2.schema.visits package n.2.scope := by
  obtain ⟨scope, s⟩ := site
  rw [Schema.visits_eq]
  unfold next
  dsimp only
  congr 1
  cases s.descent package scope with
  | nowhere => rfl
  | items => simp only [Schema.visitsInside_eq_flatMap, List.flatMap_map]
  | properties owner => simp only [Schema.visitsOfProperties_eq_flatMap, List.flatMap_map]
  | additional => simp only [Schema.visitsInside_eq_flatMap, List.flatMap_map]

/-- Without the routes, the tour in preorder is the visit. -/
theorem map_snd_tour_preorder (package : List String) (site : Site) :
    (site.tour .preorder package).map Prod.snd = site.schema.visits package site.scope := by
  induction site using Site.induction package with
  | node site ih =>
    rw [tour_eq, visits_eq, Order.map_place, List.map_flatMap]
    refine congrArg (site :: ·) (List.flatMap_congr fun n hn => ?_)
    rw [List.map_map, ← ih n hn]
    rfl

/-! ## What a tour has -/

/-- The tour has what can be reached, and nothing else. -/
theorem mem_tour {o : Order} {start site : Site} {route : Route} :
    (route, site) ∈ start.tour o package ↔ start.Reaches package route site := by
  constructor
  · induction start using Site.induction package generalizing route with
    | node start ih =>
      intro h
      rw [tour_eq, Order.mem_place] at h
      rcases h with h | h
      · cases h
        exact .here site
      · obtain ⟨⟨step, between⟩, hn, h⟩ := List.mem_flatMap.1 h
        obtain ⟨⟨rest, site'⟩, hp, h⟩ := List.mem_map.1 h
        cases h
        exact .there hn (ih _ hn hp)
  · intro h
    induction h with
    | here site =>
      rw [tour_eq, Order.mem_place]
      exact .inl rfl
    | there h _ ih =>
      rw [tour_eq, Order.mem_place]
      exact .inr (List.mem_flatMap.2 ⟨_, h, List.mem_map.2 ⟨_, ih, rfl⟩⟩)

/-- In postorder, what is below a schema comes before it. -/
theorem sublist_tour {start site below : Site} {route more : Route}
    (h : start.Reaches package route site) (hbelow : site.Reaches package more below)
    (hmore : more ≠ []) :
    [(route ++ more, below), (route, site)].Sublist (start.tour .postorder package) := by
  induction h with
  | here site =>
    rw [tour_eq, Order.place]
    refine List.Sublist.append (List.singleton_sublist.2 ?_) (List.Sublist.refl [([], site)])
    cases hbelow with
    | here => exact absurd rfl hmore
    | there hn hrest =>
      exact List.mem_flatMap.2 ⟨_, hn, List.mem_map.2 ⟨_, mem_tour.2 hrest, rfl⟩⟩
  | there hn _ ih =>
    have hstep := (List.singleton_sublist.2 hn).flatMap fun n =>
      (n.2.tour .postorder package).map n.1.before
    rw [List.flatMap_singleton] at hstep
    rw [tour_eq, Order.place]
    exact List.sublist_append_of_sublist_left (((ih hbelow).map _).trans hstep)

/-- The schemas below one, all behind steps, put in order with it. -/
theorem pairwise_place {o : Order} {site : Site} {below : List (Route × Site)}
    (hsteps : ∀ p ∈ below, p.1 ≠ []) (h : below.Pairwise fun p q => o.Precedes p.1 q.1) :
    (o.place ([], site) below).Pairwise fun p q => o.Precedes p.1 q.1 := by
  have hstep : ∀ p ∈ below, ∃ step rest, p.1 = step :: rest := fun p hp =>
    List.exists_cons_of_ne_nil (hsteps p hp)
  cases o with
  | preorder =>
    refine List.pairwise_cons.2 ⟨fun p hp => ?_, h⟩
    obtain ⟨step, rest, hp⟩ := hstep p hp
    rw [hp]
    exact .entered step rest rfl
  | postorder =>
    refine List.pairwise_append.2 ⟨h, List.pairwise_singleton _ _, fun p hp q hq => ?_⟩
    cases List.mem_singleton.1 hq
    obtain ⟨step, rest, hp⟩ := hstep p hp
    rw [hp]
    exact .left step rest rfl

/-- The tour goes through properties in the order of their names. -/
theorem pairwise_tour (o : Order) {site : Site} (hs : site.schema.Ordered) :
    (site.tour o package).Pairwise fun p q => o.Precedes p.1 q.1 := by
  induction site using Site.induction package with
  | node site ih =>
    rw [tour_eq]
    refine pairwise_place ?steps ?_
    case steps =>
      intro p hp
      obtain ⟨n, -, hp⟩ := List.mem_flatMap.1 hp
      obtain ⟨q, -, rfl⟩ := List.mem_map.1 hp
      exact List.cons_ne_nil _ _
    rw [List.pairwise_flatMap]
    constructor
    · intro n hn
      rw [List.pairwise_map]
      exact (ih n hn (ordered_of_mem_next hs hn)).imp (.along n.1)
    · refine (pairwise_next hs).imp fun hbefore p hp q hq => ?_
      obtain ⟨p, -, rfl⟩ := List.mem_map.1 hp
      obtain ⟨q, -, rfl⟩ := List.mem_map.1 hq
      exact .aside _ _ hbefore

/-- The list is what a visit comes by, in order. -/
structure Toured (o : Order) (package : List String) (start : Site) (tour : List (Route × Site)) :
    Prop where
  /-- Each schema that can be reached is there, with the route to it, and no other is. -/
  mem_iff : ∀ route site, (route, site) ∈ tour ↔ start.Reaches package route site
  /-- They are in depth-first order, and properties in the order of their names. -/
  pairwise : start.schema.Ordered → tour.Pairwise fun p q => o.Precedes p.1 q.1
  /-- Each has the innermost hint on its route. -/
  hint_eq : ∀ p ∈ tour, p.2.scope.hint = p.1.hint start.scope.hint

theorem toured (o : Order) (package : List String) (start : Site) :
    start.Toured o package (start.tour o package) where
  mem_iff _ _ := mem_tour
  pairwise := pairwise_tour o
  hint_eq _ hp := (mem_tour.1 hp).hint_eq

end Site

end ClientGen
