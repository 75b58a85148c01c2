import ClientGen.Proofs.Resolution.FirstOffence
import Mathlib.Data.List.TakeWhile

/-!
# What resolving warns of

Two things are not understood and yet no error: a type tag that is missing or not known, and a
format of numbers that is not known. `warns_in_order` says that resolving reports them, and nothing
else, in the order of the visit and up to the schema at which it fails; and that it makes no void
and no 64-bit integer of a schema for these reasons without reporting it.
-/

namespace ClientGen

open Visit

/-! ## Schemas that are below others -/

namespace Site

variable {package : List String}

/-- What a visit comes by from further down, it comes by. -/
theorem Reaches.visits_subset {start site : Site} {route : Route}
    (h : start.Reaches package route site) :
    site.schema.visits package site.scope ⊆ start.schema.visits package start.scope := by
  induction h with
  | here => exact List.Subset.refl _
  | there hn _ ih =>
    intro p hp
    rw [visits_eq]
    exact List.mem_cons_of_mem _ (List.mem_flatMap.2 ⟨_, hn, ih hp⟩)

end Site

namespace Resolution

variable {package : List String} {start site : Site} {r : Resolved}

/-- Nothing is wrong with what the visit comes by. -/
theorem resolve_isOk_iff : (∃ r, (resolve package start.scope start.schema).result = .ok r) ↔
    ∀ p ∈ start.schema.visits package start.scope, p.offence? = none := by
  rw [← List.findSome?_eq_none_iff, ← firstOffence?, ← error?_resolve]
  unfold Traced.error?
  cases (resolve package start.scope start.schema).result <;> simp

/-- If a schema is resolved, all schemas below it are resolved in their places. -/
theorem resolve_of_reaches {route : Route} (h : start.Reaches package route site)
    (hr : (resolve package start.scope start.schema).result = .ok r) :
    ∃ r, (resolve package site.scope site.schema).result = .ok r :=
  resolve_isOk_iff.2 fun p hp => resolve_isOk_iff.1 ⟨r, hr⟩ p (h.visits_subset hp)

end Resolution

/-! ## Who warns -/

namespace Site

variable {site : Site} {event : Event}

/-- The schema in its place is reported. -/
def Warns (site : Site) : Prop :=
  site.schema.IsUntyped ∨ site.schema.kind = .number ∧
    ∃ format, site.schema.format = some format ∧ format ≠ "float" ∧ format ≠ "double"

theorem warning?_isSome_iff : site.warning?.isSome ↔ site.Warns := by
  rw [warning?, Warns]
  by_cases hu : site.schema.IsUntyped
  · simp [hu]
  · by_cases hn : site.schema.kind = .number
    · cases site.schema.format <;> simp [hu, hn]
    · simp [hu, hn]

/-- A warning names the field that holds the schema. -/
theorem warning?_eq_some (h : site.warning? = some event) :
    event.level = .warn ∧
      ("field", .text (site.scope.hintName.getD "<none>")) ∈ event.fields := by
  unfold warning? at h
  split at h
  · cases h
    exact ⟨rfl, by simp [Event.fields, Event.fieldText]⟩
  · split at h
    · obtain ⟨format, -, rfl⟩ := Option.map_eq_some_iff.1 h
      exact ⟨rfl, by simp [Event.fields, Event.fieldText]⟩
    · cases h

end Site

namespace Resolution

variable {package : List String} {scope : Scope} {s : Schema} {start : Site} {r : Resolved}

/-! ## What warnings are about -/

/-- Arrays and objects become neither void nor built-in kinds of values. -/
theorem type_of_compound (hk : s.kind = .array ∨ s.kind = .object)
    (h : (resolve package scope s).result = .ok r) :
    r.type ≠ .void ∧ ∀ type, r.type ≠ .primitive type := by
  cases outcome_of_resolve h with
  | primitive _ ha ho => exact (hk.elim ha ho).elim
  | void ha ho => exact (hk.elim ha ho).elim
  | reference | enum | list | model | nestedClass | map => exact ⟨nofun, nofun⟩

/-- A text becomes void never, and a 64-bit integer only if its format says so. -/
theorem type_of_resolveText (h : (resolveText s scope).result = .ok r) :
    r.type ≠ .void ∧ (r.type = .primitive .int64 → s.format = some "int64") := by
  unfold resolveText at h
  split at h
  · rename_i type hformat
    cases h
    obtain ⟨format, hf, htype⟩ := Option.bind_eq_some_iff.1 hformat
    refine ⟨nofun, fun hr => ?_⟩
    cases hr
    unfold formatType? at htype
    split at htype <;> first | exact hf | cases htype
  · split at h
    · unfold nestedEnum at h
      split at h <;> cases h
      exact ⟨nofun, nofun⟩
    · cases h
      refine ⟨nofun, fun hr => ?_⟩
      split at hr <;> cases hr

/-- A number becomes void never, and a 64-bit integer if it says nothing else or is reported. -/
theorem type_of_resolveNumber (hk : s.kind = .number)
    (h : (resolveNumber s scope).result = .ok r) :
    r.type ≠ .void ∧ (r.type = .primitive .int64 → s.format = none ∨ Site.Warns ⟨scope, s⟩) := by
  unfold resolveNumber at h
  split at h
  · cases h
    exact ⟨nofun, nofun⟩
  · cases h
    exact ⟨nofun, nofun⟩
  · rename_i other hfloat hdouble hf
    cases h
    exact ⟨nofun, fun _ => .inr (.inr ⟨hk, other, hf, hfloat, hdouble⟩)⟩
  · rename_i hf
    cases h
    exact ⟨nofun, fun _ => .inl hf⟩

/-- Void is what a schema says it is, or what becomes of one without a known type tag. -/
theorem kind_of_void (h : (resolve package scope s).result = .ok r) (hr : r.type = .void) :
    s.kind = .null ∨ Site.Warns ⟨scope, s⟩ := by
  cases hk : s.kind with
  | null => exact .inl rfl
  | unknown tag => exact .inr (.inl (Schema.isUntyped_iff.2 ⟨tag, hk⟩))
  | array => exact absurd hr (type_of_compound (.inl hk) h).1
  | object => exact absurd hr (type_of_compound (.inr hk) h).1
  | string =>
    rw [resolve_eq, hk] at h
    exact absurd hr (type_of_resolveText h).1
  | number =>
    rw [resolve_eq, hk] at h
    exact absurd hr (type_of_resolveNumber hk h).1
  | reference | integer | boolean | any =>
    rw [resolve_eq, hk] at h
    cases h
    cases hr

/-- A 64-bit integer is what a text or number says it is, or what becomes of a number of a format
that is not known. -/
theorem kind_of_int64 (h : (resolve package scope s).result = .ok r)
    (hr : r.type = .primitive .int64) :
    s.kind = .string ∧ s.format = some "int64" ∨ s.kind = .number ∧ s.format = none ∨
      Site.Warns ⟨scope, s⟩ := by
  cases hk : s.kind with
  | array => exact absurd hr ((type_of_compound (.inl hk) h).2 _)
  | object => exact absurd hr ((type_of_compound (.inr hk) h).2 _)
  | string =>
    rw [resolve_eq, hk] at h
    exact .inl ⟨rfl, (type_of_resolveText h).2 hr⟩
  | number =>
    rw [resolve_eq, hk] at h
    exact .inr (((type_of_resolveNumber hk h).2 hr).imp_left fun hf => ⟨rfl, hf⟩)
  | reference | integer | boolean | any | null | unknown =>
    rw [resolve_eq, hk] at h
    cases h
    cases hr

/-! ## In order -/

/-- What resolving a schema in its place reports. -/
structure WarnsInOrder (package : List String) (start : Site) : Prop where
  /-- The tour is the depth-first visit, with properties in the order of their names. -/
  toured : start.Toured .preorder package (start.tour .preorder package)
  /-- Schemas without a known type tag, and numbers of a format that is not known, are reported. -/
  warns_iff : ∀ p ∈ start.tour .preorder package, p.2.warning?.isSome ↔ p.2.Warns
  /-- Each is reported as a warning with the innermost hint on the route to it. -/
  field : ∀ p ∈ start.tour .preorder package, ∀ event, p.2.warning? = some event →
    event.level = .warn ∧ ("field",
      .text (((p.1.hint start.scope.hint).map (·.wireName)).getD "<none>")) ∈ event.fields
  /-- If the schema is resolved, these are the events, in the order of the visit. -/
  events_of_ok : ∀ r, (resolve package start.scope start.schema).result = .ok r →
    (resolve package start.scope start.schema).events =
      (start.tour .preorder package).filterMap fun p => p.2.warning?
  /-- If not, the events are those of the schemas before the one at which resolving fails. -/
  events_of_error : ∀ e, (resolve package start.scope start.schema).result = .error e →
    ∃ before p after, start.tour .preorder package = before ++ p :: after ∧ p.2.Offends e ∧
      (∀ q ∈ before, ∀ e', ¬ q.2.Offends e') ∧
      (resolve package start.scope start.schema).events = before.filterMap fun q => q.2.warning?
  /-- Where a schema below becomes void, or a 64-bit integer, it says so or there is a warning. -/
  not_silent : ∀ r, (resolve package start.scope start.schema).result = .ok r →
    ∀ p ∈ start.tour .preorder package,
      ∃ r', (resolve package p.2.scope p.2.schema).result = .ok r' ∧
      (r'.type = .void → p.2.schema.kind = .null ∨
        ∃ event ∈ (resolve package start.scope start.schema).events, p.2.warning? = some event) ∧
      (r'.type = .primitive .int64 →
        p.2.schema.kind = .string ∧ p.2.schema.format = some "int64" ∨
        p.2.schema.kind = .number ∧ p.2.schema.format = none ∨
        ∃ event ∈ (resolve package start.scope start.schema).events, p.2.warning? = some event)

/-- Of what a visit comes by before the first offence, all is heard. -/
theorem events_of_split {before after : List (Route × Site)} {p : Route × Site} {e : Error}
    (hsplit : start.tour .preorder package = before ++ p :: after) (hp : p.2.offence? = some e)
    (hbefore : ∀ q ∈ before, q.2.offence? = none) :
    (resolve package start.scope start.schema).events =
      before.filterMap fun q => q.2.warning? := by
  have hpass : ∀ site ∈ before.map Prod.snd, site.offence?.isNone := by
    intro site hsite
    obtain ⟨q, hq, rfl⟩ := List.mem_map.1 hsite
    rw [hbefore q hq]
    rfl
  rw [(follows_resolve start.schema start.scope).events_eq, ← Site.map_snd_tour_preorder, hsplit,
    List.map_append, List.map_cons, heard, List.takeWhile_append_of_pos hpass,
    List.takeWhile_cons_of_neg (by simp [hp]), List.append_nil, List.filterMap_map]
  rfl

/-- Where nothing is wrong, all is heard. -/
theorem events_of_isOk (hr : (resolve package start.scope start.schema).result = .ok r) :
    (resolve package start.scope start.schema).events =
      (start.tour .preorder package).filterMap fun p => p.2.warning? := by
  have hpass : ∀ site ∈ start.schema.visits package start.scope, site.offence?.isNone := by
    simpa using resolve_isOk_iff.1 ⟨r, hr⟩
  rw [(follows_resolve start.schema start.scope).events_eq, heard,
    List.takeWhile_eq_self_iff.2 hpass, ← Site.map_snd_tour_preorder, List.filterMap_map]
  rfl

theorem warns_in_order (package : List String) (start : Site) : WarnsInOrder package start where
  toured := start.toured .preorder package
  warns_iff _ _ := Site.warning?_isSome_iff
  field p hp event h := by
    obtain ⟨hlevel, hfield⟩ := Site.warning?_eq_some h
    rw [Scope.hintName, (start.toured .preorder package).hint_eq p hp] at hfield
    exact ⟨hlevel, hfield⟩
  events_of_ok _ := events_of_isOk
  events_of_error e h := by
    obtain ⟨before, p, after, hsplit, hp, hbefore⟩ := List.findSome?_eq_some_iff.1
      ((error?_eq_findSome? package start).symm.trans (Traced.error?_eq_some.2 h))
    refine ⟨before, p, after, hsplit, Site.offends_iff.2 hp, ?_, events_of_split hsplit hp hbefore⟩
    exact fun q hq => Site.offence?_eq_none_iff.1 (hbefore q hq)
  not_silent r hr p hp := by
    have hreaches : start.Reaches package p.1 p.2 := Site.mem_tour.1 hp
    obtain ⟨r', hr'⟩ := resolve_of_reaches hreaches hr
    have hreported (hw : p.2.Warns) :
        ∃ event ∈ (resolve package start.scope start.schema).events, p.2.warning? = some event := by
      obtain ⟨event, hevent⟩ := Option.isSome_iff_exists.1 (Site.warning?_isSome_iff.2 hw)
      refine ⟨event, ?_, hevent⟩
      rw [events_of_isOk hr]
      exact List.mem_filterMap.2 ⟨p, hp, hevent⟩
    exact ⟨r', hr', fun hvoid => (kind_of_void hr' hvoid).imp_right hreported,
      fun hint => (kind_of_int64 hr' hint).imp_right (Or.imp_right hreported)⟩

/-- Items are reported with the field that holds the list. -/
example : (resolve ["library"] (.field ⟨"pages"⟩ (.topLevel ["library"] "Book"))
    { type := "array", items := some { type := "sheet" } }).events =
      [.unknownType "sheet" none "pages"] := rfl

end Resolution

end ClientGen
