import ClientGen.Proofs.EnumProse.Leftmost
import ClientGen.Proofs.Resolution.Declared
import ClientGen.Proofs.Resolution.FirstOffence

/-!
# Enums and their constants

An enum is made of a text that lists its values, one by one or in its description. A list of values
that is empty makes no enum. A description makes one as soon as it announces values, whether or not
there are any in it: `Schema.AnnouncesNothing`. Such an enum has no constants, and no text is a
value of it.

`enums_have_constants_iff` says that nothing else leaves an enum without constants: all enums that
a schema resolves to, however deep they are nested, have some exactly if no text that the visit
comes by announces values of which there are none.
-/

namespace ClientGen

open EnumProse

/-- The description of the text announces values, and no value stands anywhere in it. -/
structure Schema.AnnouncesNothing (s : Schema) : Prop where
  kind_eq : s.kind = .string
  format_ne : s.format ≠ some "date" ∧ s.format ≠ some "date-time" ∧ s.format ≠ some "int64"
  announced : ∃ text, s.description = some text ∧ "Possible values are:".toList <:+: text.toList ∧
    ∀ p : Parts, p.WellFormed → ¬ p.text <:+: text.toList

namespace Resolution

/-! ## Constants of one enum -/

theorem listedConstants_ne_nil (value : String) (values descriptions : List String) :
    listedConstants (value :: values) descriptions ≠ [] :=
  List.cons_ne_nil _ _

/-- A text lists no constants exactly if its description announces some that are not there. -/
theorem enumConstants?_eq_nil_iff {s : Schema} :
    enumConstants? s = some [] ↔
      ∃ text, s.description = some text ∧ "Possible values are:".toList <:+: text.toList ∧
        ∀ p : Parts, p.WellFormed → ¬ p.text <:+: text.toList := by
  have hannounced {text : String} : s.description.filter appliesTo = some text ↔
      s.description = some text ∧ "Possible values are:".toList <:+: text.toList := by
    rw [Option.filter_eq_some_iff]
    exact and_congr_right fun _ => Text.occursIn_iff
  simp only [← and_assoc, ← hannounced, ← mine_eq_nil_iff]
  unfold enumConstants?
  cases s.description.filter appliesTo with
  | some text => simp
  | none => rcases s.enumValues with _ | _ | ⟨value, values⟩ <;> simp [listedConstants_ne_nil]

theorem bearsEnum_of_announcesNothing {s : Schema} (h : s.AnnouncesNothing) :
    s.bearsEnum = true := by
  obtain ⟨hk, hformat, text, htext, hmarker, -⟩ := h
  exact (Schema.listsValues_iff.1 ⟨hk, hformat, .inl ⟨text, htext, hmarker⟩⟩).2

/-! ## All enums -/

/-- A declaration is no enum without constants. -/
def HasConstants : Declaration → Prop
  | .ofClass _ => True
  | .ofEnum e => e.constants ≠ []

instance : DecidablePred HasConstants
  | .ofClass _ => inferInstanceAs (Decidable True)
  | .ofEnum e => inferInstanceAs (Decidable (e.constants ≠ []))

/-- What that means for all that is declared. -/
theorem forall_hasConstants {r : Resolved} :
    (∀ x ∈ r.emitted, ∀ d ∈ x.declaration.all, HasConstants d) ↔
      ∀ x ∈ r.emitted, ∀ e, .ofEnum e ∈ x.declaration.all → e.constants ≠ [] := by
  refine forall₂_congr fun x _ => ⟨fun h e he => h _ he, fun h d hd => ?_⟩
  cases d with
  | ofClass c => exact True.intro
  | ofEnum e => exact h e hd

/-- Whether an enum has constants can be seen from the text that it is made of. -/
theorem seenFrom_hasConstants (package : List String) :
    SeenFrom package HasConstants fun site => ¬ site.schema.AnnouncesNothing where
  bare site h := by
    intro hnothing
    have hnests : site.nests = true := by
      simp [Site.nests, hnothing.kind_eq, bearsEnum_of_announcesNothing hnothing]
    simp [Visit.comesOut_here, hnests] at h
  enum {scope s name constants} hk hbears hconstants := by
    have hnil : constants = [] ↔ s.AnnouncesNothing := by
      rw [← Option.some_inj, ← hconstants, enumConstants?_eq_nil_iff]
      have hlists := Schema.listsValues_iff.2 ⟨hk, hbears⟩
      exact ⟨fun h => ⟨hk, hlists.format_ne, h⟩, fun h => h.announced⟩
    exact not_congr hnil
  object {scope s c ts} hk _ _ _ _ := by
    refine iff_of_true True.intro fun hnothing => ?_
    have hstring : s.kind = .string := hnothing.kind_eq
    simp [hk] at hstring

/-- **Enums have constants**, all that a schema resolves to and at any depth, exactly if no text
that its visit comes by announces values of which there are none. -/
theorem enums_have_constants_iff {package : List String} {scope : Scope} {s : Schema}
    {r : Resolved} (h : (resolve package scope s).result = .ok r) :
    (∀ x ∈ r.emitted, ∀ e, .ofEnum e ∈ x.declaration.all → e.constants ≠ []) ↔
      ∀ site ∈ s.visits package scope, ¬ site.schema.AnnouncesNothing := by
  rw [← forall_hasConstants]
  exact forall_declared_iff (seenFrom_hasConstants package) s scope r h

/-- The door of a library. -/
def door : Scope :=
  .field ⟨"door"⟩ (.topLevel ["library"] "Library")

/-- Its colour, one of two that are listed, and the states that it can be in, described in prose. -/
def doorSchema : Schema where
  type := "object"
  properties := some [
    ("colour", { type := "string", enumValues := some ["red", "green"] }),
    ("states", {
      type := "array"
      items := some {
        type := "string"
        description := "Possible values are: \"open\" - By day. \"shut\" - By night." } })]

theorem enums_have_constants_door :
    ∃ r, (resolve ["library"] door doorSchema).result = .ok r ∧
      (∀ x ∈ r.emitted, ∀ e, .ofEnum e ∈ x.declaration.all → e.constants ≠ []) ∧
        ∀ site ∈ doorSchema.visits ["library"] door, ¬ site.schema.AnnouncesNothing := by
  have hall : (resolve ["library"] door doorSchema).result.toOption.any
      (fun r => ∀ x ∈ r.emitted, ∀ d ∈ x.declaration.all, HasConstants d) = true := by
    decide +kernel
  obtain ⟨r, hr, hall⟩ := Traced.exists_of_any hall
  have hconstants := forall_hasConstants.1 (of_decide_eq_true hall)
  exact ⟨r, hr, hconstants, (enums_have_constants_iff hr).1 hconstants⟩

/-- **A description can announce values in vain.** Nothing is said about the word that it quotes, so
the enum has no constants. -/
theorem enum_without_constants :
    ∃ r, (resolve ["library"] door
        { type := "string", description := "Possible values are: \"open\"" }).result = .ok r ∧
      ¬ ∀ x ∈ r.emitted, ∀ e, .ofEnum e ∈ x.declaration.all → e.constants ≠ [] := by
  have hnone : (resolve ["library"] door
      { type := "string", description := "Possible values are: \"open\"" }).result.toOption.any
        (fun r => ¬ ∀ x ∈ r.emitted, ∀ d ∈ x.declaration.all, HasConstants d) = true := by
    decide +kernel
  obtain ⟨r, hr, hnone⟩ := Traced.exists_of_any hnone
  refine ⟨r, hr, fun h => ?_⟩
  exact of_decide_eq_true hnone (forall_hasConstants.2 h)

end Resolution

end ClientGen
