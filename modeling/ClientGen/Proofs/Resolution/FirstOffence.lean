import ClientGen.Proofs.Resolution.Failure
import ClientGen.Proofs.Schema.Tour

/-!
# The schema at which resolving fails

`Site.Offends` says in so many words what can be wrong with a schema in its place, and with which
error. `fails_at_first` says that resolving fails exactly if the visit meets such a schema, with the
error of the first one met. The order of the visit, and the field that an error names, are read off
the routes of the tour.
-/

namespace ClientGen

open Visit

/-! ## What can be wrong -/

/-- The values of the text are listed, in prose or one by one, and no format says what it is. -/
structure Schema.ListsValues (s : Schema) : Prop where
  kind_eq : s.kind = .string
  format_ne : s.format ≠ some "date" ∧ s.format ≠ some "date-time" ∧ s.format ≠ some "int64"
  listed : (∃ text, s.description = some text ∧ "Possible values are:".toList <:+: text.toList) ∨
    ∃ value values, s.enumValues = some (value :: values)

/-- The schema in its place is refused with the error, whatever is below it. -/
inductive Site.Offends : Site → Error → Prop
  /-- An array does not say what its items are. -/
  | missingItems {scope : Scope} {s : Schema} (hk : s.kind = .array) (hi : s.items = none) :
    Offends ⟨scope, s⟩ (.missingItems scope.hintName)
  /-- A class has a name, and no type around it. -/
  | classContext {scope : Scope} {s : Schema} {hint : Identifier} (hk : s.kind = .object)
    (hid : s.id = none) (hp : s.properties ≠ none) (hh : scope.hint = some hint)
    (he : scope.enclosing = none) :
    Offends ⟨scope, s⟩ (.missingContext .classType hint.wireName)
  /-- An object is not a map, and a class cannot be made of it. -/
  | unnamedObject {scope : Scope} {s : Schema} (hk : s.kind = .object) (hid : s.id = none)
    (ha : s.additionalProperties = none) (hclass : s.properties = none ∨ scope.hint = none) :
    Offends ⟨scope, s⟩ (.unnamedObject scope.hintName)
  /-- An enum has no name. -/
  | unnamedEnum {scope : Scope} {s : Schema} (hs : s.ListsValues) (hh : scope.hint = none) :
    Offends ⟨scope, s⟩ .unnamedEnum
  /-- An enum has a name, and no type around it. -/
  | enumContext {scope : Scope} {s : Schema} {hint : Identifier} (hs : s.ListsValues)
    (hh : scope.hint = some hint) (he : scope.enclosing = none) :
    Offends ⟨scope, s⟩ (.missingContext .enumType hint.wireName)

namespace Resolution

theorem formatType?_eq_none_iff {format : String} :
    formatType? format = none ↔ format ≠ "date" ∧ format ≠ "date-time" ∧ format ≠ "int64" := by
  unfold formatType?
  split <;> simp_all

theorem enumConstants?_isSome_iff {s : Schema} :
    (enumConstants? s).isSome ↔
      (∃ text, s.description = some text ∧ "Possible values are:".toList <:+: text.toList) ∨
        ∃ value values, s.enumValues = some (value :: values) := by
  have hmarker : (s.description.filter EnumProse.appliesTo).isSome ↔
      ∃ text, s.description = some text ∧ "Possible values are:".toList <:+: text.toList := by
    rw [Option.isSome_iff_exists]
    simp only [Option.filter_eq_some_iff]
    exact exists_congr fun text => and_congr_right fun _ => Text.occursIn_iff
  rw [← hmarker, enumConstants?]
  cases s.description.filter EnumProse.appliesTo with
  | some text => simp
  | none =>
    rcases s.enumValues with _ | _ | ⟨value, values⟩ <;> simp

end Resolution

theorem Schema.listsValues_iff {s : Schema} :
    s.ListsValues ↔ s.kind = .string ∧ s.bearsEnum = true := by
  have hformat : (s.format.bind Resolution.formatType?).isNone ↔
      s.format ≠ some "date" ∧ s.format ≠ some "date-time" ∧ s.format ≠ some "int64" := by
    cases s.format with
    | none => simp
    | some format => simp [Resolution.formatType?_eq_none_iff]
  rw [bearsEnum, Bool.and_eq_true, hformat, Resolution.enumConstants?_isSome_iff]
  constructor
  · rintro ⟨hk, hf, hl⟩
    exact ⟨hk, hf, hl⟩
  · rintro ⟨hk, hf, hl⟩
    exact ⟨hk, hf, hl⟩

namespace Site

variable {site : Site} {e : Error}

theorem offence?_of_offends (h : site.Offends e) : site.offence? = some e := by
  cases h with
  | missingItems hk hi => simp [offence?, hk, hi]
  | classContext hk hid hp hh he =>
    obtain ⟨entries, hp⟩ := Option.ne_none_iff_exists'.1 hp
    simp [offence?, objectOffence?, hk, hid, hp, hh, he]
  | unnamedObject hk hid ha hclass =>
    simp only [offence?, hk, hid, Option.isSome_none, Bool.false_eq_true, if_false]
    unfold objectOffence?
    split
    · rename_i hint entries hh hp
      rw [hh, hp] at hclass
      rcases hclass with hclass | hclass <;> cases hclass
    · simp [ha]
  | unnamedEnum hs hh =>
    obtain ⟨hk, hlists⟩ := Schema.listsValues_iff.1 hs
    simp [offence?, enumOffence?, hk, hlists, hh]
  | enumContext hs hh he =>
    obtain ⟨hk, hlists⟩ := Schema.listsValues_iff.1 hs
    simp [offence?, enumOffence?, hk, hlists, hh, he]

theorem offends_of_offence? (h : site.offence? = some e) : site.Offends e := by
  obtain ⟨scope, s⟩ := site
  unfold offence? at h
  split at h
  · rename_i hk
    split at h
    · rename_i hi
      cases h
      exact .missingItems hk (Option.isNone_iff_eq_none.1 hi)
    · cases h
  · rename_i hk
    split at h
    · cases h
    · rename_i hid
      have hid := Option.not_isSome_iff_eq_none.1 hid
      unfold objectOffence? at h
      split at h
      · rename_i hint entries hh hp
        split at h
        · rename_i he
          cases h
          have hp : s.properties ≠ none := hp ▸ Option.some_ne_none entries
          exact .classContext hk hid hp hh (Option.isNone_iff_eq_none.1 he)
        · cases h
      · rename_i hnot
        split at h
        · rename_i ha
          cases h
          refine .unnamedObject hk hid (Option.isNone_iff_eq_none.1 ha) ?_
          by_contra hclass
          obtain ⟨hp, hh⟩ := not_or.1 hclass
          obtain ⟨hint, hh⟩ := Option.ne_none_iff_exists'.1 hh
          obtain ⟨entries, hp⟩ := Option.ne_none_iff_exists'.1 hp
          exact hnot hint entries hh hp
        · cases h
  · rename_i hk
    split at h
    · rename_i hlists
      have hs := Schema.listsValues_iff.2 ⟨hk, hlists⟩
      unfold enumOffence? at h
      split at h
      · rename_i hh
        cases h
        exact .unnamedEnum hs hh
      · rename_i hint hh he
        cases h
        exact .enumContext hs hh he
      · cases h
    · cases h
  · cases h

theorem offends_iff : site.Offends e ↔ site.offence? = some e :=
  ⟨offence?_of_offends, offends_of_offence?⟩

/-- Nothing is wrong with the schema. -/
theorem offence?_eq_none_iff : site.offence? = none ↔ ∀ e, ¬ site.Offends e := by
  rw [Option.eq_none_iff_forall_ne_some]
  exact forall_congr' fun e => not_congr offends_iff.symm

end Site

namespace Resolution

variable {package : List String} {start : Site}

/-! ## The first one -/

/-- How resolving a schema in its place fails. -/
structure FailsAtFirst (package : List String) (start : Site) : Prop where
  /-- The tour is the depth-first visit, with properties in the order of their names. -/
  toured : start.Toured .preorder package (start.tour .preorder package)
  /-- Resolving fails exactly if the visit meets a schema at which something is wrong. -/
  fails_iff : (∃ e, (resolve package start.scope start.schema).result = .error e) ↔
    ∃ p ∈ start.tour .preorder package, ∃ e, p.2.Offends e
  /-- The error is that of the first of them. -/
  error_iff : ∀ e, (resolve package start.scope start.schema).result = .error e ↔
    ∃ before p after, start.tour .preorder package = before ++ p :: after ∧ p.2.Offends e ∧
      ∀ q ∈ before, ∀ e', ¬ q.2.Offends e'
  /-- In a field of a type every enum and every class has a name, and a type around it. -/
  named : start.scope.hint.isSome → start.scope.enclosing.isSome →
    ∀ e, (resolve package start.scope start.schema).result = .error e →
      e ≠ .unnamedEnum ∧ ∀ kind field, e ≠ .missingContext kind field

/-- The error of a schema is the first offence on its tour. -/
theorem error?_eq_findSome? (package : List String) (start : Site) :
    (resolve package start.scope start.schema).error? =
      (start.tour .preorder package).findSome? fun p => p.2.offence? := by
  rw [error?_resolve, ← Site.map_snd_tour_preorder, firstOffence?, List.findSome?_map]
  rfl

theorem fails_at_first (package : List String) (start : Site) : FailsAtFirst package start where
  toured := start.toured .preorder package
  fails_iff := by
    simp only [← Traced.error?_eq_some, error?_eq_findSome?, Site.offends_iff,
      ← Option.isSome_iff_exists]
    exact List.findSome?_isSome_iff
  error_iff e := by
    rw [← Traced.error?_eq_some, error?_eq_findSome?, List.findSome?_eq_some_iff]
    simp only [Site.offence?_eq_none_iff, Site.offends_iff]
  named hh he e h := by
    obtain ⟨⟨_ | hint, _ | enclosing⟩, s⟩ := start
    · cases hh
    · cases hh
    · cases he
    · obtain ⟨-, -, -, field, rfl | rfl⟩ := error_of_resolve_field h
      · exact ⟨nofun, nofun⟩
      · exact ⟨nofun, nofun⟩

/-- Of two fields that cannot be resolved the first one is reported. -/
example : (resolve ["library"] .root
    { id := "Book", type := "object", properties := some [("cover", { type := "object" }),
      ("pages", { type := "array" })] }).result = .error (.unnamedObject "cover") := rfl

end Resolution

end ClientGen
