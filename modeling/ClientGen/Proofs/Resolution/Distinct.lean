import ClientGen.Proofs.Declaration.Distinct
import ClientGen.Proofs.Resolution.Declared

/-!
# When nested types have different names

A field puts at most one type into the type around it, named after the field; whether it does can be
seen from its schema, `Schema.nests` and `names_nested_of_resolve`. So two types nested in one class
have the same name exactly if the names of two such fields become one type name. `Site.Apart` says
of an object that becomes a class that this does not happen, and `allApart_of_resolve` that nowhere
in what a schema resolves to two siblings have the same name exactly if all objects that its visit
comes by are of this kind.
-/

namespace ClientGen

/-! ## Fields that nest a type -/

namespace Schema

mutual

/-- A field with this schema puts a type into the type around it: an enum or a class, which the
field holds itself or in lists and maps. -/
def nests : Schema → Bool
  | s@⟨id, _, _, _, _, properties, additional, items, _, _, _⟩ =>
    match s.kind with
    | .string => s.bearsEnum
    | .array => nestsInside items
    | .object => id.isNone && (properties.isSome || nestsInside additional)
    | _ => false

/-- The schema, if there is one, nests a type. -/
def nestsInside : Option Schema → Bool
  | none => false
  | some s => nests s

end

theorem nestsInside_eq_any (s : Option Schema) : nestsInside s = s.any nests := by
  cases s <;> rfl

theorem nests_eq (s : Schema) :
    s.nests = match s.kind with
      | .string => s.bearsEnum
      | .array => s.items.any nests
      | .object => s.id.isNone && (s.properties.isSome || s.additionalProperties.any nests)
      | _ => false := by
  obtain ⟨id, reference, tag, text, format, properties, additional, items, required, values,
    texts⟩ := s
  rw [nests, nestsInside_eq_any, nestsInside_eq_any]

end Schema

/-- The fields that put types into the type around them give these types different names. -/
def Keyed.Apart (fields : Keyed Schema) : Prop :=
  ((fields.filter (·.2.nests)).map fun e => Identifier.typeName ⟨e.1⟩).Nodup

instance (fields : Keyed Schema) : Decidable fields.Apart :=
  inferInstanceAs (Decidable (List.Nodup _))

/-- If a class is made of the object, its properties give different names to the types nested in the
class. -/
def Site.Apart (site : Site) : Prop :=
  site.schema.kind = .object → (site.schema.id.isSome ∨ site.scope.hint.isSome) →
    Keyed.Apart (site.schema.properties.getD [])

instance (site : Site) : Decidable site.Apart :=
  inferInstanceAs (Decidable (_ → _ → _))

/-! ## Emissions -/

namespace Resolved

/-- The declarations to be nested, among those that are emitted for a class. -/
theorem nested_passedOn (type : TypeRef) (models : List Class) (e : Emission) :
    (Resolved.mk type (models.map .topLevel ++ [e])).nested = (Resolved.mk type [e]).nested := by
  have hmodels : (Resolved.mk type (models.map .topLevel)).nested = [] := by
    rw [nested, List.filterMap_map, List.filterMap_eq_nil_iff]
    exact fun _ _ => rfl
  rw [nested, List.filterMap_append]
  exact congrArg (· ++ (Resolved.mk type [e]).nested) hmodels

end Resolved

namespace Resolution

variable {package : List String} {scope : Scope} {s : Schema} {r : Resolved}

/-! ## Names of nested types -/

section

variable {hint : Identifier} {enclosing : QualifiedName}

theorem names_nested_of_resolveText (hk : s.kind = .string)
    (h : (resolveText s (.field hint enclosing)).result = .ok r) :
    r.nested.map (·.name) = if s.nests then [enclosing.nested hint.typeName] else [] := by
  rw [Schema.nests_eq, hk, Schema.bearsEnum]
  unfold resolveText at h
  split at h
  · rename_i hformat
    rw [hformat]
    cases h
    rfl
  · rename_i hformat
    rw [hformat]
    split at h
    · rename_i constants hconstants
      rw [hconstants]
      cases h
      rfl
    · rename_i hconstants
      rw [hconstants]
      cases h
      rfl

/-- A field nests at most one type, which is named after it. -/
theorem names_nested_of_resolve (s : Schema) :
    ∀ {r : Resolved}, (resolve package (.field hint enclosing) s).result = .ok r →
      r.nested.map (·.name) = if s.nests then [enclosing.nested hint.typeName] else [] := by
  induction s using Schema.induction with
  | node s hproperties hadditional hitems =>
    intro r h
    by_cases hstring : s.kind = .string
    · rw [resolve_eq, hstring] at h
      exact names_nested_of_resolveText hstring h
    have hplain (ha : s.kind ≠ .array) (ho : s.kind ≠ .object) : s.nests = false := by
      rw [Schema.nests_eq]
      split <;> first | contradiction | rfl
    cases outcome_of_resolve h with
    | reference target hr hk => rw [hplain (by simp [hk]) (by simp [hk])]; rfl
    | primitive type ha ho => rw [hplain ha ho]; rfl
    | void ha ho => rw [hplain ha ho]; rfl
    | enum hint' enclosing' constants hk => exact absurd hk hstring
    | list items item hk hi hitem =>
      have hinside := hitems items hi hitem
      rw [Schema.nests_eq, hk, hi]
      exact hinside
    | model id documentation ts hk hid =>
      rw [Resolved.nested_passedOn, Schema.nests_eq, hk, hid]
      rfl
    | nestedClass hint' enclosing' ts hk hid hh he hts hentries =>
      cases hh
      cases he
      rw [Resolved.nested_passedOn, Schema.nests_eq, hk, hid, hentries]
      rfl
    | map values value hk hid hnone ha hvalue =>
      have hp : s.properties = none := hnone.resolve_left (by simp [Scope.field])
      have hinside := hadditional values ha hvalue
      rw [Schema.nests_eq, hk, hid, hp, ha]
      exact hinside

end

/-! ## Fields of a type -/

variable {owner : QualifiedName} {ts : List Typing}

/-- The types that the fields of a type nest in it are named after the fields. -/
theorem names_nested_typings (hvalid : ∀ t ∈ ts, t.Valid package owner) :
    (Typing.nested ts).map (·.name) =
      ((ts.map Typing.entry).filter (·.2.nests)).map fun e => owner.member e.1 := by
  induction ts with
  | nil => rfl
  | cons t rest ih =>
    obtain ⟨ht, hrest⟩ := List.forall_mem_cons.1 hvalid
    have hfirst : t.resolved.nested.map (·.name) =
        if t.schema.nests then [owner.member t.name] else [] := names_nested_of_resolve t.schema ht
    rw [Typing.nested, List.flatMap_cons, List.map_append, hfirst]
    rw [Typing.nested] at ih
    rw [ih hrest, List.map_cons, List.filter_cons]
    cases hnests : t.schema.nests <;> simp [Typing.entry, hnests]

theorem nodup_nested_typings (hvalid : ∀ t ∈ ts, t.Valid package owner) :
    ((Typing.nested ts).map (·.name)).Nodup ↔ Keyed.Apart (ts.map Typing.entry) := by
  have hmember (entries : Keyed Schema) : (entries.map fun e => owner.member e.1) =
      (entries.map fun e => Identifier.typeName ⟨e.1⟩).map owner.nested := by
    rw [List.map_map]
    rfl
  rw [names_nested_typings hvalid, hmember, List.nodup_map_iff owner.nested_injective]
  rfl

/-! ## All that a schema resolves to -/

/-- Nothing is asked of a schema that no class is made of. -/
theorem apart_of_bare {site : Site} (h : Visit.comesOut ([], site) = false) : site.Apart := by
  obtain ⟨scope, s⟩ := site
  intro hk hclass
  rw [Visit.comesOut_here, Bool.or_eq_false_iff] at h
  obtain ⟨hmodel, hnests⟩ := h
  have hid : s.id = none := by simpa [Site.modelId, hk] using hmodel
  have hh : scope.hint.isSome = true := by simpa [hid] using hclass
  have hp : s.properties = none := by simpa [Site.nests, hk, hid, hh] using hnests
  rw [hp]
  exact List.nodup_nil

/-- The names of siblings in a class can be seen from the properties of the object. -/
theorem seenFrom_apart : SeenFrom package DeclarationOf.SiblingsApart Site.Apart where
  bare _ := apart_of_bare
  enum hk _ _ := iff_of_true List.nodup_nil fun ho => by simp [hk] at ho
  object {scope s c ts} hk hclass hvalid hentries hnested := by
    have hnames : DeclarationOf.SiblingsApart (.ofClass c) ↔
        ((Typing.nested ts).map (·.name)).Nodup := by
      rw [← hnested]
      rfl
    rw [hnames, nodup_nested_typings hvalid, hentries]
    exact ⟨fun h _ _ => h, fun h => h hk hclass⟩

/-- **Siblings have different names** in what a schema resolves to exactly if the objects that its
visit comes by see to it. -/
theorem allApart_of_resolve {s : Schema} {scope : Scope} {r : Resolved}
    (h : (resolve package scope s).result = .ok r) :
    (∀ x ∈ r.emitted, x.declaration.AllApart) ↔ ∀ site ∈ s.visits package scope, site.Apart :=
  forall_declared_iff seenFrom_apart s scope r h

/-- What the fields of a type resolve to, taken together. -/
theorem allApart_typings (hvalid : ∀ t ∈ ts, t.Valid package owner) :
    ((∀ c ∈ Typing.topLevel ts, DeclarationOf.AllApart (.ofClass c)) ∧
        ∀ d ∈ Typing.nested ts, d.AllApart) ↔
      ∀ site ∈ Keyed.visits package owner (ts.map Typing.entry), site.Apart :=
  forall_declared_fields hvalid fun t _ => forall_declared_iff seenFrom_apart t.schema

end Resolution

end ClientGen
