import ClientGen.Proofs.Api.Generated
import ClientGen.Proofs.Resolution.Models
import Mathlib.Data.List.Nodup

/-!
# The models of an API

Models come from named schemas, from the parameters of the API and from the parameters of methods at
any depth, and from anywhere inside these. `models_accounted` says that the models of a generated
API are exactly those of the objects with an id that generation comes by, in the order of the ids,
and that no API is generated if it comes by the same id twice.
-/

namespace ClientGen

variable {d : Description} {n : Naming} {api : Api}

/-! ## Every stage is accounted for -/

/-- The parameters of a class need the models of the objects below them. -/
theorem accounted_typed {package : List String} {owner : QualifiedName} {parameters : Keyed Schema}
    (h : parameters.Resolve package owner) :
    Accounted package (Typing.topLevel (parameters.typed package owner))
      (parameters.visits package owner) := by
  have hentries : (parameters.typed package owner).map Typing.entry = parameters := by
    rw [Keyed.typed, List.map_map]
    exact List.map_id parameters
  have htypings := Accounted.typings fun t ht => Resolution.accounted_of_resolve t.schema (h t ht)
  rw [hentries] at htypings
  exact htypings

theorem accounted_site {site : MethodSite} (h : site.Typed n) :
    Accounted n.modelPackage (Typing.topLevel (site.typings n))
      (site.method.callParameters.visits n.modelPackage site.type) := by
  rw [MethodSite.typings, Typing.topLevel_append, Method.callParameters_eq, Keyed.visits_append]
  exact (accounted_typed h.required).append (accounted_typed h.optional)

/-- The models of a description are those of the objects that generation comes by. -/
theorem accounted_models (h : d.Generates n api) :
    Accounted n.modelPackage (d.models n) (d.visits n) := by
  have hschemas : Accounted n.modelPackage
      (d.schemas.flatMap fun e => (Resolution.resolved n.modelPackage .root e.2).topLevel)
      (d.schemas.flatMap fun e => e.2.visits n.modelPackage .root) :=
    Accounted.flatMap fun e he => Resolution.accounted_of_resolve e.2 (h.schemas e he)
  have hmethods := Accounted.flatMap fun site hsite => accounted_site (h.methods site hsite)
  have htopLevel : Typing.topLevel ((d.tree.methodSites n.client).flatMap (·.typings n)) =
      (d.tree.methodSites n.client).flatMap fun site => Typing.topLevel (site.typings n) :=
    List.flatMap_assoc
  rw [Description.models, htopLevel]
  exact (hschemas.append (accounted_typed h.parameters)).append hmethods

/-! ## The models -/

/-- The ids of all models that generation comes by, as often as it does. -/
def Description.modelIds (d : Description) (n : Naming) : List String :=
  Site.modelIds (d.visits n)

theorem perm_modelIds (h : d.Generates n api) :
    (api.models.map (·.name)).Perm ((d.modelIds n).map (.topLevel n.modelPackage)) :=
  (h.models.map _).trans (accounted_models h)

/-- Models in the order of their names are all different, so their ids are. -/
theorem nodup_modelIds (h : d.Generates n api) : (d.modelIds n).Nodup := by
  have hdistinct : (api.models.map (·.name)).Nodup := by
    refine List.pairwise_map.2 (h.ordered.imp ?_)
    intro a b hlt hname
    rw [Class.simpleName, hname] at hlt
    exact String.lt_irrefl _ hlt
  exact List.Nodup.of_map _ ((perm_modelIds h).nodup_iff.1 hdistinct)

/-- **Models are accounted for.** A generated API has exactly one model for each object with an id
that generation comes by, named after it in the package of the models, in the order of the ids. If
generation would come by one id twice, it fails. -/
theorem models_accounted (d : Description) (settings : Settings) :
    (∀ api, (d.generate settings).result = .ok api →
      (api.models.map (·.name)).Perm
          ((d.modelIds (d.naming settings)).map (.topLevel api.modelPackage)) ∧
        api.models.Pairwise fun a b => a.simpleName < b.simpleName) ∧
      (¬(d.modelIds (d.naming settings)).Nodup →
        ∃ e, (d.generate settings).result = .error e) := by
  constructor
  · intro api h
    have hgenerates := generates_of_generate h
    rw [hgenerates.modelPackage]
    exact ⟨perm_modelIds hgenerates, hgenerates.ordered⟩
  · intro hrepeated
    cases h : (d.generate settings).result with
    | error e => exact ⟨e, rfl⟩
    | ok api => exact absurd (nodup_modelIds (generates_of_generate h)) hrepeated

/-- The one model of the books API is found; a parameter with the same id is refused. -/
theorem models_accounted_shelves :
    (∃ api, (Description.shelves.generate {}).result = .ok api ∧
      (api.models.map (·.name)).Perm [.topLevel api.modelPackage "Book"]) ∧
      ∃ e, (Description.generate { Description.shelves with
        parameters := [("book", { id := some "Book", type := some "object" })] } {}).result =
          .error e := by
  constructor
  · obtain ⟨api, h⟩ := shelves_generate
    have hids : Description.shelves.modelIds (Description.shelves.naming {}) = ["Book"] := by
      decide +kernel
    obtain ⟨hperm, -⟩ := (models_accounted .shelves {}).1 api h
    rw [hids] at hperm
    exact ⟨api, h, hperm⟩
  · exact (models_accounted _ {}).2 (by decide +kernel)

end ClientGen
