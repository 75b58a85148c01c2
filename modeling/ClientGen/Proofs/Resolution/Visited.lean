import ClientGen.Proofs.Failure
import ClientGen.Proofs.Resolution.Outcome
import ClientGen.Proofs.Schema.Nodes

/-!
# What a visit meets

Whether a schema can be resolved, and what is reported on the way, is decided at the schemas that
the visit comes by, each for itself: `Site.offence?` is what is wrong with one of them in its place,
and `Site.warning?` what it is reported for. A computation `Follows` schemas that are visited if it
fails with the first offence among them, if there is one, and reports the warnings before it.
Computations that follow can be put together, `Follows.bind`, and so resolving follows the visit,
`follows_resolve`: an induction over the schema with a lemma for each way to resolve one that has
schemas below it.
-/

namespace ClientGen

/-! ## Offences -/

/-- The values of the text are listed, so that it is to become an enum. -/
def Schema.bearsEnum (s : Schema) : Bool :=
  (s.format.bind Resolution.formatType?).isNone && (Resolution.enumConstants? s).isSome

namespace Site

/-- What keeps an enum from being named after the field and nested in the type around it. -/
def enumOffence? (scope : Scope) : Option Error :=
  match scope.hint, scope.enclosing with
  | none, _ => some .unnamedEnum
  | some hint, none => some (.missingContext .enumType hint.wireName)
  | some _, some _ => none

/-- What keeps an object without an id from becoming a class, if a field holds it and it has
properties, or else a map. -/
def objectOffence? (scope : Scope) (s : Schema) : Option Error :=
  match scope.hint, s.properties with
  | some hint, some _ =>
    if scope.enclosing.isNone then some (.missingContext .classType hint.wireName) else none
  | _, _ => if s.additionalProperties.isNone then some (.unnamedObject scope.hintName) else none

/-- What is wrong with a schema in its place, whatever is below it. -/
def offence? (site : Site) : Option Error :=
  match site.schema.kind with
  | .array => if site.schema.items.isNone then some (.missingItems site.scope.hintName) else none
  | .object => if site.schema.id.isSome then none else objectOffence? site.scope site.schema
  | .string => if site.schema.bearsEnum then enumOffence? site.scope else none
  | _ => none

end Site

/-- The first offence among schemas that are visited. -/
def firstOffence? (visited : List Site) : Option Error :=
  visited.findSome? Site.offence?

theorem firstOffence?_append (visited more : List Site) :
    firstOffence? (visited ++ more) = (firstOffence? visited).or (firstOffence? more) :=
  List.findSome?_append

theorem firstOffence?_cons (site : Site) (rest : List Site) :
    firstOffence? (site :: rest) = site.offence?.or (firstOffence? rest) := by
  rw [firstOffence?, List.findSome?_cons]
  cases site.offence? <;> rfl

/-- Behind a schema with which nothing is wrong. -/
theorem firstOffence?_cons_of_none {site : Site} (h : site.offence? = none) (rest : List Site) :
    firstOffence? (site :: rest) = firstOffence? rest := by
  rw [firstOffence?_cons, h, Option.none_or]

/-- At a schema with which something is wrong. -/
theorem firstOffence?_cons_of_some {site : Site} {e : Error} (h : site.offence? = some e)
    (rest : List Site) : firstOffence? (site :: rest) = some e := by
  rw [firstOffence?_cons, h, Option.some_or]

/-! ## Warnings -/

/-- The type tags that are known. -/
def Schema.knownTags : List String :=
  ["object", "string", "number", "integer", "boolean", "null", "array", "any"]

/-- The schema refers to no other, and has no type tag or one that is not known. -/
def Schema.IsUntyped (s : Schema) : Prop :=
  s.reference = none ∧ ∀ tag ∈ s.type, tag ∉ knownTags

instance (s : Schema) : Decidable s.IsUntyped :=
  inferInstanceAs (Decidable (_ ∧ _))

theorem Schema.isUntyped_iff {s : Schema} : s.IsUntyped ↔ ∃ tag, s.kind = .unknown tag := by
  have htag (tag : String) : tag ∉ knownTags ↔ ∃ t, kindOfTag tag = .unknown t := by
    unfold kindOfTag
    split <;> simp_all [knownTags]
  rw [IsUntyped, kind]
  cases s.reference with
  | some target => simp
  | none =>
    cases s.type with
    | none => simp
    | some tag => simpa using htag tag

namespace Site

/-- The warning that the schema in its place gives rise to: its type tag is missing or not known, or
it is a number of a format that is not known. -/
def warning? (site : Site) : Option Event :=
  if site.schema.IsUntyped then
    some (.unknownType site.schema.type site.schema.id site.scope.hintName)
  else if site.schema.kind = .number then
    (site.schema.format.filter (· ∉ ["float", "double"])).map fun format =>
      .unknownFormat format site.schema.id site.scope.hintName
  else none

variable {site : Site}

theorem warning?_of_untyped (h : site.schema.IsUntyped) :
    site.warning? = some (.unknownType site.schema.type site.schema.id site.scope.hintName) :=
  if_pos h

theorem warning?_of_number (h : site.schema.kind = .number) :
    site.warning? = (site.schema.format.filter (· ∉ ["float", "double"])).map fun format =>
      .unknownFormat format site.schema.id site.scope.hintName := by
  have huntyped : ¬ site.schema.IsUntyped := by simp [Schema.isUntyped_iff, h]
  rw [warning?, if_neg huntyped, if_pos h]

/-- Nothing but numbers and schemas without a known type give rise to warnings. -/
theorem warning?_eq_none (hu : ∀ tag, site.schema.kind ≠ .unknown tag)
    (hn : site.schema.kind ≠ .number) : site.warning? = none := by
  have huntyped : ¬ site.schema.IsUntyped := by
    rw [Schema.isUntyped_iff]
    exact not_exists.2 hu
  rw [warning?, if_neg huntyped, if_neg hn]

end Site

/-- What is reported of schemas that are visited: the warnings up to the first offence. -/
def heard (visited : List Site) : List Event :=
  (visited.takeWhile (·.offence?.isNone)).filterMap Site.warning?

theorem heard_append (visited more : List Site) :
    heard (visited ++ more) =
      heard visited ++ if firstOffence? visited = none then heard more else [] := by
  induction visited with
  | nil => rfl
  | cons site rest ih =>
    rw [List.cons_append]
    cases ho : site.offence? with
    | some e => simp [heard, firstOffence?_cons_of_some ho, ho]
    | none =>
      rw [firstOffence?_cons_of_none ho]
      unfold heard at ih ⊢
      simp only [List.takeWhile_cons, ho, Option.isNone_none, if_true, List.filterMap_cons]
      cases site.warning? <;> simp [ih]

/-! ## Following a visit -/

/-- The computation fails with the first offence, if there is one, and reports what is heard. -/
structure Follows {α : Type} (x : Traced α) (visited : List Site) : Prop where
  error?_eq : x.error? = firstOffence? visited
  events_eq : x.events = heard visited

section

variable {α β : Type} {x : Traced α} {visited more : List Site} {site : Site}

theorem follows_pure (a : α) : Follows (pure a) [] := ⟨rfl, rfl⟩

/-- One computation after another follows the visits of both: what is wrong in the first one keeps
the second from being started. -/
theorem Follows.bind {f : α → Traced β} (hx : Follows x visited) (hf : ∀ a, Follows (f a) more) :
    Follows (x >>= f) (visited ++ more) where
  error?_eq := by
    rw [Traced.error?_bind_const fun a => (hf a).error?_eq, hx.error?_eq, firstOffence?_append]
  events_eq := by
    rw [Traced.events_bind_const fun a => (hf a).events_eq, hx.events_eq, hx.error?_eq,
      heard_append]

theorem Follows.bind_pure {f : α → β} (hx : Follows x visited) :
    Follows (x >>= fun a => pure (f a)) visited := by
  have h := hx.bind fun a => follows_pure (f a)
  rwa [List.append_nil] at h

/-- A schema with which nothing is wrong, and that gives rise to no warning, can come first. -/
theorem Follows.behind (ho : site.offence? = none) (hw : site.warning? = none)
    (hx : Follows x visited) : Follows x (site :: visited) where
  error?_eq := by rw [firstOffence?_cons_of_none ho, hx.error?_eq]
  events_eq := by
    rw [hx.events_eq]
    simp [heard, ho, hw]

/-- At a schema with which something is wrong. -/
theorem follows_fail {e : Error} (ho : site.offence? = some e) (rest : List Site) :
    Follows (.fail e : Traced α) (site :: rest) where
  error?_eq := by
    rw [firstOffence?_cons_of_some ho]
    rfl
  events_eq := by
    simp [heard, ho]
    rfl

/-- A schema that gives rise to a warning. -/
theorem follows_report {event : Event} (ho : site.offence? = none) (hw : site.warning? = some event)
    (a : α) : Follows (do Traced.report event; return a) [site] where
  error?_eq := by
    rw [firstOffence?_cons_of_none ho]
    rfl
  events_eq := by
    simp [heard, ho, hw]
    rfl

end

namespace Resolution

variable {package : List String} {scope : Scope} {s : Schema}

/-! ## Resolving follows the visit -/

/-- Wherever the schema is used, resolving it follows its visit. -/
def ResolvesAlong (package : List String) (s : Schema) : Prop :=
  ∀ scope, Follows (resolve package scope s) (s.visits package scope)

/-- The properties of a type are resolved one after the other. -/
theorem follows_resolveProperties {owner : QualifiedName} {entries : List (String × Schema)}
    (h : ∀ e ∈ entries, ResolvesAlong package e.2) :
    Follows (resolveProperties package owner entries)
      (entries.flatMap fun e => e.2.visits package (.field ⟨e.1⟩ owner)) := by
  induction entries with
  | nil => exact follows_pure _
  | cons e rest ih =>
    obtain ⟨key, property⟩ := e
    obtain ⟨hproperty, hrest⟩ := List.forall_mem_cons.1 h
    rw [resolveProperties, List.flatMap_cons]
    exact (hproperty _).bind fun _ => (ih hrest).bind_pure

theorem follows_members {owner : QualifiedName}
    (h : ∀ entries, s.properties = some entries → ∀ e ∈ entries, ResolvesAlong package e.2) :
    Follows (members package owner s)
      ((s.properties.getD []).flatMap fun e => e.2.visits package (.field ⟨e.1⟩ owner)) := by
  unfold members
  cases hp : s.properties with
  | none => exact follows_pure _
  | some entries => exact follows_resolveProperties (h entries hp)

/-- A schema with nothing below it, nothing wrong with it and nothing to report. -/
theorem follows_scalar {r : Resolved} (ho : Site.offence? ⟨scope, s⟩ = none)
    (hw : Site.warning? ⟨scope, s⟩ = none) : Follows (pure r) [⟨scope, s⟩] :=
  (follows_pure r).behind ho hw

theorem follows_nestedEnum (hoffence : Site.offence? ⟨scope, s⟩ = Site.enumOffence? scope)
    (hw : Site.warning? ⟨scope, s⟩ = none) (constants : List EnumConstant) :
    Follows (nestedEnum scope constants) [⟨scope, s⟩] := by
  obtain ⟨hint, enclosing⟩ := scope
  cases hint with
  | none => exact follows_fail hoffence []
  | some hint =>
    cases enclosing with
    | none => exact follows_fail hoffence []
    | some enclosing => exact follows_scalar hoffence hw

theorem follows_resolveText (hk : s.kind = .string) :
    Follows (resolveText s scope) [⟨scope, s⟩] := by
  have hw : Site.warning? ⟨scope, s⟩ = none := Site.warning?_eq_none (by simp [hk]) (by simp [hk])
  have hoffence : Site.offence? ⟨scope, s⟩ =
      if s.bearsEnum then Site.enumOffence? scope else none := by
    rw [Site.offence?, hk]
  rw [Schema.bearsEnum] at hoffence
  unfold resolveText
  split
  · rename_i hformat
    rw [hformat] at hoffence
    exact follows_scalar hoffence hw
  · rename_i hformat
    rw [hformat] at hoffence
    split
    · rename_i constants hconstants
      rw [hconstants] at hoffence
      exact follows_nestedEnum hoffence hw constants
    · rename_i hconstants
      rw [hconstants] at hoffence
      exact follows_scalar hoffence hw

theorem follows_resolveNumber (hk : s.kind = .number) :
    Follows (resolveNumber s scope) [⟨scope, s⟩] := by
  have ho : Site.offence? ⟨scope, s⟩ = none := by rw [Site.offence?, hk]
  have hw : Site.warning? ⟨scope, s⟩ = _ := Site.warning?_of_number hk
  unfold resolveNumber
  split
  · rename_i hf
    exact follows_scalar ho (by simp [hw, hf])
  · rename_i hf
    exact follows_scalar ho (by simp [hw, hf])
  · rename_i other hfloat hdouble hf
    have hother : other ∉ ["float", "double"] := by
      intro hmem
      rcases List.mem_cons.1 hmem with rfl | hmem
      · exact hfloat rfl
      · exact hdouble (List.mem_singleton.1 hmem)
    exact follows_report ho (by simp [hw, hf, Option.filter, hother]) _
  · rename_i hf
    exact follows_scalar ho (by simp [hw, hf])

theorem follows_resolveArray (hk : s.kind = .array)
    (h : ∀ items, s.items = some items → ResolvesAlong package items) :
    Follows (resolveArray package scope s) (s.visits package scope) := by
  have hw : Site.warning? ⟨scope, s⟩ = none := Site.warning?_eq_none (by simp [hk]) (by simp [hk])
  unfold resolveArray
  cases hi : s.items with
  | none =>
    have hoffence : Site.offence? ⟨scope, s⟩ = some (.missingItems scope.hintName) := by
      simp [Site.offence?, hk, hi]
    rw [Schema.visits_eq]
    exact follows_fail hoffence _
  | some items =>
    have hnone : Site.offence? ⟨scope, s⟩ = none := by simp [Site.offence?, hk, hi]
    rw [Schema.visits_array hk hi]
    exact (h items hi scope).bind_pure.behind hnone hw

section

variable (hk : s.kind = .object) (hw : Site.warning? ⟨scope, s⟩ = none)
include hk hw

theorem follows_resolveModel {id : String} (hid : s.id = some id)
    (h : ∀ entries, s.properties = some entries → ∀ e ∈ entries, ResolvesAlong package e.2) :
    Follows (resolveModel package scope s id) (s.visits package scope) := by
  have hnone : Site.offence? ⟨scope, s⟩ = none := by simp [Site.offence?, hk, hid]
  rw [Schema.visits_model hk hid]
  exact (follows_members h).bind_pure.behind hnone hw

theorem follows_resolveNested {hint : Identifier} {entries : List (String × Schema)}
    (hid : s.id = none) (hh : scope.hint = some hint) (hp : s.properties = some entries)
    (h : ∀ entries, s.properties = some entries → ∀ e ∈ entries, ResolvesAlong package e.2) :
    Follows (resolveNested package scope s hint) (s.visits package scope) := by
  unfold resolveNested
  cases he : scope.enclosing with
  | none =>
    have hoffence : Site.offence? ⟨scope, s⟩ =
        some (.missingContext .classType hint.wireName) := by
      simp [Site.offence?, Site.objectOffence?, hk, hid, hh, hp, he]
    rw [Schema.visits_eq]
    exact follows_fail hoffence _
  | some enclosing =>
    have hnone : Site.offence? ⟨scope, s⟩ = none := by
      simp [Site.offence?, Site.objectOffence?, hk, hid, hh, hp, he]
    have hmembers : Follows (members package (enclosing.nested hint.typeName) s) _ :=
      follows_members h
    rw [hp, Option.getD_some] at hmembers
    rw [Schema.visits_nestedClass hk hid hh he hp]
    exact hmembers.bind_pure.behind hnone hw

theorem follows_resolveMap (hid : s.id = none) (hnone : scope.hint = none ∨ s.properties = none)
    (h : ∀ value, s.additionalProperties = some value → ResolvesAlong package value) :
    Follows (resolveMap package scope s) (s.visits package scope) := by
  have hmap : Site.offence? ⟨scope, s⟩ =
      if s.additionalProperties.isNone then some (.unnamedObject scope.hintName) else none := by
    simp only [Site.offence?, hk, hid, Option.isSome_none, Bool.false_eq_true, if_false]
    unfold Site.objectOffence?
    rcases hnone with hh | hp
    · rw [hh]
    · rw [hp]
      cases scope.hint <;> rfl
  unfold resolveMap
  cases ha : s.additionalProperties with
  | none =>
    rw [ha] at hmap
    rw [Schema.visits_eq]
    exact follows_fail hmap _
  | some value =>
    rw [ha] at hmap
    rw [Schema.visits_map hk hid hnone ha]
    exact (h value ha scope).bind_pure.behind hmap hw

theorem follows_resolveObject
    (hproperties : ∀ entries, s.properties = some entries →
      ∀ e ∈ entries, ResolvesAlong package e.2)
    (hadditional : ∀ value, s.additionalProperties = some value → ResolvesAlong package value) :
    Follows (resolveObject package scope s) (s.visits package scope) := by
  unfold resolveObject
  split
  · rename_i id _ _ hid
    exact follows_resolveModel hk hw hid hproperties
  · rename_i hint entries hid hh hp
    exact follows_resolveNested hk hw hid hh hp hproperties
  · rename_i hid hnot
    refine follows_resolveMap hk hw hid ?_ hadditional
    cases hh : scope.hint with
    | none => exact .inl rfl
    | some hint =>
      cases hp : s.properties with
      | none => exact .inr rfl
      | some entries => exact absurd hp (hnot hint entries hh)

end

/-- **Resolving follows the visit.** It fails exactly if the visit of the schema comes by something
that is wrong, and then with what is wrong first; and it reports all warnings up to there. -/
theorem follows_resolve (s : Schema) : ResolvesAlong package s := by
  induction s using Schema.induction with
  | node s hproperties hadditional hitems =>
    intro scope
    rw [resolve_eq]
    cases hk : s.kind with
    | array => exact follows_resolveArray hk hitems
    | object =>
      have hw : Site.warning? ⟨scope, s⟩ = none :=
        Site.warning?_eq_none (by simp [hk]) (by simp [hk])
      exact follows_resolveObject hk hw hproperties hadditional
    | string =>
      rw [Schema.visits_of_scalar (by simp [hk]) (by simp [hk])]
      exact follows_resolveText hk
    | number =>
      rw [Schema.visits_of_scalar (by simp [hk]) (by simp [hk])]
      exact follows_resolveNumber hk
    | unknown tag =>
      rw [Schema.visits_of_scalar (by simp [hk]) (by simp [hk])]
      have ho : Site.offence? ⟨scope, s⟩ = none := by rw [Site.offence?, hk]
      exact follows_report ho (Site.warning?_of_untyped (Schema.isUntyped_iff.2 ⟨tag, hk⟩)) _
    | reference | integer | boolean | null | any =>
      rw [Schema.visits_of_scalar (by simp [hk]) (by simp [hk])]
      exact follows_scalar (by rw [Site.offence?, hk])
        (Site.warning?_eq_none (by simp [hk]) (by simp [hk]))

end Resolution

end ClientGen
