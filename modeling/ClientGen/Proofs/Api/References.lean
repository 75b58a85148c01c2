import ClientGen.Proofs.Api.Closed
import ClientGen.Proofs.Api.Models

/-!
# What references stand for

A reference becomes the type that its target would have as a model, and the target is not looked at.
In a description whose references all name a schema, and whose schemas have their names as ids, this
type is declared if the target is an object. A target of any other kind, such as a text, becomes no
type of its own, so nothing bears the name: `mentioned_of_closed` says that this is the only kind of
name that is used and not declared, `not_declared_titles` that it does occur.
-/

namespace ClientGen

variable {d : Description} {n : Naming} {api : Api}

/-- Every reference names a schema, and every schema has its name as its id. -/
structure Description.Closed (d : Description) : Prop where
  references : ∀ target ∈ d.references, target ∈ d.schemas.keys
  ids : ∀ e ∈ d.schemas, e.2.id = some e.1

/-- The name is that of a declaration of the API. -/
def Api.Declares (api : Api) (q : QualifiedName) : Prop :=
  ∃ e ∈ api.declarations, q = e.name

/-- The name stands for a named schema that is referred to and is no object. -/
def Description.RefersToPlain (d : Description) (api : Api) (q : QualifiedName) : Prop :=
  ∃ target schema, (target, schema) ∈ d.schemas ∧ target ∈ d.references ∧
    schema.kind ≠ .object ∧ q = .topLevel api.modelPackage target

/-! ## Objects are declared -/

theorem Api.declares_of_mem_topLevel {c : Class} (hc : c ∈ api.topLevel) : api.Declares c.name := by
  refine ⟨.ofClass c, List.mem_flatMap.2 ⟨c, hc, ?_⟩, rfl⟩
  rw [DeclarationOf.all_eq]
  exact List.mem_cons_self

/-- The ids of the named objects are among those of the models. -/
theorem mem_modelIds_of_schema {e : String × Schema} (he : e ∈ d.schemas)
    (hobject : e.2.kind = .object) {id : String} (hid : e.2.id = some id) : id ∈ d.modelIds n := by
  have hsite : Site.modelId ⟨.root, e.2⟩ = some id := by
    rw [Site.modelId, if_pos hobject, hid]
  have hvisit : ⟨.root, e.2⟩ ∈ e.2.visits n.modelPackage .root := by
    rw [Schema.visits_eq]
    exact List.mem_cons_self
  refine List.mem_filterMap.2 ⟨⟨.root, e.2⟩, ?_, hsite⟩
  exact List.mem_append_left _ (List.mem_append_left _ (List.mem_flatMap.2 ⟨e, he, hvisit⟩))

theorem declares_of_modelId (h : d.Generates n api) {id : String} (hid : id ∈ d.modelIds n) :
    api.Declares (.topLevel api.modelPackage id) := by
  have hname : .topLevel n.modelPackage id ∈ api.models.map (·.name) :=
    (perm_modelIds h).mem_iff.2 (List.mem_map_of_mem hid)
  obtain ⟨c, hc, hcname⟩ := List.mem_map.1 hname
  rw [h.modelPackage, ← hcname]
  exact Api.declares_of_mem_topLevel (List.mem_append_left _ hc)

/-- What a reference of a closed description stands for is declared or plain. -/
theorem declares_or_plain (h : d.Generates n api) (hclosed : d.Closed) {target : String}
    (ht : target ∈ d.references) :
    api.Declares (.topLevel api.modelPackage target) ∨
      d.RefersToPlain api (.topLevel api.modelPackage target) := by
  obtain ⟨e, he, rfl⟩ := List.mem_map.1 (hclosed.references target ht)
  by_cases hobject : e.2.kind = .object
  · have hid := mem_modelIds_of_schema (n := n) he hobject (hclosed.ids e he)
    exact .inl (declares_of_modelId h hid)
  · exact .inr ⟨e.1, e.2, he, ht, hobject, rfl⟩

/-! ## Names in use -/

/-- **References to objects are declared.** In the API of a closed description every name in use is
that of a declaration, unless it stands for a named schema that is referred to and is no object. -/
theorem mentioned_of_closed {settings : Settings} (hclosed : d.Closed)
    (h : (d.generate settings).result = .ok api) :
    ∀ c ∈ api.declarations, ∀ q ∈ c.mentioned, api.Declares q ∨ d.RefersToPlain api q := by
  have hgenerates := generates_of_generate h
  have hknown : AllKnown (fun q => api.Declares q ∨ d.RefersToPlain api q) d (d.naming settings)
      api := {
    generates := hgenerates
    references := by
      intro target ht
      rw [← hgenerates.modelPackage]
      exact declares_or_plain hgenerates hclosed ht
    declares := by
      intro c hc e he
      exact .inl ⟨e, List.mem_flatMap.2 ⟨c, hc, he⟩, rfl⟩ }
  intro c hc q hq
  obtain ⟨top, htop, hinside⟩ := List.mem_flatMap.1 hc
  exact (hknown.allSound top htop c hinside).1 q hq

/-- A closed description in which a book refers to its author, an object, and to its title, a text.
-/
def Description.titles : Description where
  name := "books"
  version := "v1"
  schemas := [
    ("Author", { id := some "Author", type := some "object" }),
    ("Book", { id := some "Book", type := some "object", properties := some [
      ("author", { reference := some "Author" }), ("title", { reference := some "Title" })] }),
    ("Title", { id := some "Title", type := some "string" })]

theorem mentioned_titles : ∃ api, (Description.titles.generate {}).result = .ok api ∧
    ∀ c ∈ api.declarations, ∀ q ∈ c.mentioned,
      api.Declares q ∨ Description.titles.RefersToPlain api q := by
  obtain ⟨api, h⟩ : ∃ api, (Description.titles.generate {}).result = .ok api :=
    isOk_iff.1 (by decide +kernel)
  have hclosed : Description.titles.Closed := ⟨by decide +kernel, by decide +kernel⟩
  exact ⟨api, h, mentioned_of_closed hclosed h⟩

/-- The name is used in the API and not declared there. -/
def Api.Lacks (api : Api) (q : QualifiedName) : Bool :=
  (api.declarations.any fun c => c.mentioned.contains q) && api.declarations.all (q ≠ ·.name)

theorem Api.not_declares_of_lacks {q : QualifiedName} (h : api.Lacks q) :
    ∃ c ∈ api.declarations, ∃ q ∈ c.mentioned, ¬api.Declares q := by
  simp only [Lacks, Bool.and_eq_true, List.any_eq_true, List.contains_iff_mem, List.all_eq_true,
    decide_eq_true_eq] at h
  obtain ⟨⟨c, hc, hq⟩, hnone⟩ := h
  refine ⟨c, hc, q, hq, ?_⟩
  rintro ⟨e, he, hname⟩
  exact hnone e he hname

/-- The type of the title is used in the book and nowhere declared. -/
theorem not_declared_titles :
    Description.titles.Closed ∧ ∃ api, (Description.titles.generate {}).result = .ok api ∧
      ∃ c ∈ api.declarations, ∃ q ∈ c.mentioned, ¬api.Declares q := by
  have hclosed : Description.titles.Closed := ⟨by decide +kernel, by decide +kernel⟩
  obtain ⟨api, h⟩ : ∃ api, (Description.titles.generate {}).result = .ok api :=
    isOk_iff.1 (by decide +kernel)
  have hlacks : (Description.titles.generate {}).result.toOption.all
      (·.Lacks (.topLevel ["generated", "books", "model"] "Title")) = true := by decide +kernel
  rw [h] at hlacks
  exact ⟨hclosed, api, h, Api.not_declares_of_lacks hlacks⟩

end ClientGen
