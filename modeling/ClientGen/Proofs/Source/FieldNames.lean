import ClientGen.Proofs.Api.Complete
import ClientGen.Proofs.Api.Distinct
import ClientGen.Proofs.Source.Constructors
import ClientGen.Proofs.Source.Mangling

/-!
# When the fields of a struct have different names

A field is named after a property or a parameter, in snake case, with a letter in front where it
needs one and a suffix behind reserved words. Variants of an enum that become equal in this way are
numbered, and so stay different; fields are not. The fields that the generator adds by itself are no
danger, since no property or parameter becomes one of them, `fieldName_ne_suffix`.

So names of fields repeat exactly where names become equal that are next to each other in the
description: `field_names_nodup_iff` says that all structs of a generated API have fields of
different names if and only if the description has its names apart, `FieldsApart`. It is about every
property of an object that becomes a class, the parameters of the API, and those of a method,
together with `content` if its requests have a body. In the API of `doublet` a struct has two
fields of one name, `field_names_not_nodup_doublet`.
-/

namespace ClientGen.Source

open Text Generation Component

/-! ## Names of fields -/

/-- A field before reserved words are told apart. -/
def plainField (name : String) : String :=
  withStart "f" (snakeCase name)

theorem getLast?_plainField (name : String) : (plainField name).toList.getLast? ≠ some '_' :=
  getLast?_withStart (by decide) name

theorem fieldName_eq (i : Identifier) : fieldName i = escapeReserved (plainField i.wireName) := by
  rw [fieldName, plainField]

/-- Names become the same field exactly if they are the same before reserved words are told apart.
-/
theorem fieldName_eq_iff {i j : Identifier} :
    fieldName i = fieldName j ↔ plainField i.wireName = plainField j.wireName := by
  rw [fieldName_eq, fieldName_eq]
  constructor
  · exact escapeReserved_inj (getLast?_plainField i.wireName) (getLast?_plainField j.wireName)
  · exact congrArg escapeReserved

/-- The generator's own names have the suffix behind words that are not reserved. No field becomes
one of them. -/
theorem fieldName_ne_suffix (word : String) (hword : isReserved word = false) (i : Identifier) :
    fieldName i ≠ word ++ collisionSuffix := by
  rw [fieldName_eq]
  exact escapeReserved_ne_suffix (getLast?_plainField i.wireName) hword

theorem fieldName_ne_clientField (i : Identifier) : fieldName i ≠ clientField :=
  fieldName_ne_suffix "client" (by decide) i

theorem fieldName_ne_baseField (i : Identifier) : fieldName i ≠ baseField :=
  fieldName_ne_suffix "base" (by decide) i

/-- The names become different fields. -/
def NamesApart (names : List String) : Prop :=
  (names.map plainField).Nodup

instance (names : List String) : Decidable (NamesApart names) :=
  inferInstanceAs (Decidable (List.Nodup _))

example : ¬NamesApart ["fooBar", "title", "foo_bar"] := by decide +kernel

theorem nodup_fieldNames {names : List String} :
    (names.map fun name => fieldName ⟨name⟩).Nodup ↔ NamesApart names := by
  rw [NamesApart, List.Nodup, List.pairwise_map, List.pairwise_map]
  exact List.Pairwise.iff fun a b => not_congr fieldName_eq_iff

/-- Things are named after what they are called on the wire. -/
theorem map_fieldName {α : Type} (identifier : α → Identifier) (things : List α) :
    (things.map fun x => fieldName (identifier x)) =
      (things.map fun x => (identifier x).wireName).map fun name => fieldName ⟨name⟩ := by
  rw [List.map_map]
  exact List.map_congr_left fun x _ => by rw [Function.comp_apply]

/-! ## The struct of a class -/

variable {rt : String} {c : Class}

/-- The names on the wire of what the class has fields for. -/
def wireNames (c : Class) : List String :=
  c.fields.map (·.identifier.wireName)

/-- In the struct of a service, the generator's own fields are different from all others. -/
theorem nodup_serviceFieldNames : (serviceFieldNames c).Nodup ↔ NamesApart (wireNames c) := by
  rw [wireNames, ← nodup_fieldNames, ← map_fieldName, serviceFieldNames, List.nodup_append]
  have hown : (ownFields c).Nodup := by
    unfold ownFields
    cases holdsClient c <;> cases c.superType.isSome <;> decide
  refine ⟨fun h => h.2.1, fun h => ⟨hown, h, ?_⟩⟩
  intro own hmem name hname
  obtain ⟨f, -, rfl⟩ := List.mem_map.1 hname
  rcases mem_ownFields hmem with rfl | rfl
  · exact (fieldName_ne_clientField f.identifier).symm
  · exact (fieldName_ne_baseField f.identifier).symm

theorem fieldNames_modelItem (rt : String) (c : Class) :
    fieldNames (modelItem rt c).blocks = c.fields.map fun f => fieldName f.identifier := by
  rw [modelItem, fieldNames_model, List.map_map]
  · refine List.map_congr_left fun f _ => ?_
    simp only [Function.comp_apply, modelField]
  · intro f hf
    obtain ⟨f, -, rfl⟩ := List.mem_map.1 hf
    simp only [modelField]
    exact isName_fieldName f.identifier

/-- The struct of a class. -/
def structItem (rt : String) (c : Class) : Item :=
  if c.kind == .model then modelItem rt c else serviceStruct rt c

theorem structItem_mem (rt : String) (c : Class) :
    structItem rt c ∈ declarationItems rt (.ofClass c) := by
  rw [structItem, declarationItems, classItems]
  split
  · exact List.mem_singleton_self _
  · rw [serviceItems_eq]
    exact List.mem_cons_self

/-- **The fields of a struct** have different names exactly if this holds of what they are named
after. -/
theorem nodup_structItem (rt : String) (c : Class) :
    (fieldNames (structItem rt c).blocks).Nodup ↔ NamesApart (wireNames c) := by
  rw [structItem]
  split
  · rw [fieldNames_modelItem, map_fieldName, nodup_fieldNames, wireNames]
  · rw [fieldNames_serviceStruct, nodup_serviceFieldNames]

/-- Only the struct of a class declares fields. -/
theorem fieldNames_of_mem_declarationItems {e : Declaration} {item : Item}
    (h : item ∈ declarationItems rt e) :
    (∃ c, e = .ofClass c ∧ item = structItem rt c) ∨ fieldNames item.blocks = [] := by
  cases e with
  | ofEnum inner =>
    rw [List.mem_singleton.1 h]
    exact .inr (fieldNames_enumeration _ _ _)
  | ofClass c =>
    rw [declarationItems, classItems] at h
    split at h
    · rename_i hkind
      refine .inl ⟨c, rfl, ?_⟩
      rw [List.mem_singleton.1 h, structItem, if_pos hkind]
    · rename_i hkind
      rw [serviceItems_eq] at h
      rcases List.mem_pair.1 h with rfl | rfl
      · exact .inl ⟨c, rfl, by rw [structItem, if_neg hkind]⟩
      · exact .inr (fieldNames_of_typeName?_eq_none rfl)

/-- The structs in the files are those of the classes that are declared. -/
theorem forall_placed_nodup {a : Api} (h : ProperlyNamed a) (rt : String) :
    (∀ f ∈ files rt a, ∀ p ∈ f.placed, (fieldNames p.item.blocks).Nodup) ↔
      ∀ c, .ofClass c ∈ a.declarations → NamesApart (wireNames c) := by
  constructor
  · intro hplaced c hc
    obtain ⟨f, hf, hp⟩ := exists_placed h hc (structItem_mem rt c)
    exact (nodup_structItem rt c).1 (hplaced f hf _ hp)
  · intro hclasses f hf p hp
    by_cases htype : p.item.typeName? = none
    · rw [fieldNames_of_typeName?_eq_none htype]
      exact List.nodup_nil
    · obtain ⟨e, he, hhome⟩ := exists_declaration h hf hp htype
      rcases fieldNames_of_mem_declarationItems (item_of_mem_itemsAt hhome) with
        ⟨c, rfl, hitem⟩ | hnone
      · rw [hitem]
        exact (nodup_structItem rt c).2 (hclasses c he)
      · rw [hnone]
        exact List.nodup_nil

/-! ## Names in a description -/

/-- What the fields of a method are named after: its parameters, as often as they are required, and
the body. -/
def fieldKeys (m : Method) : List String :=
  m.parameters.keys.filter (· ∉ m.callOrder) ++ m.callOrder ++
    if m.request.isSome then ["content"] else []

/-- Names that become fields of one struct become different ones. -/
structure FieldsApart (d : Description) (n : Naming) : Prop where
  /-- The properties of an object that becomes a class. -/
  objects : ∀ site ∈ d.visits n, site.isClass →
    NamesApart (Keyed.keys (site.schema.properties.getD []))
  /-- The parameters of the API. -/
  parameters : NamesApart d.parameters.keys
  /-- The parameters and the body of a method. -/
  methods : ∀ m ∈ d.tree.everyMethod, NamesApart (fieldKeys m)

variable {n : Naming} {d : Description} {api : Api}

theorem wireNames_request (n : Naming) (d : Description) :
    wireNames (requestClass n (d.globals n)) = d.parameters.keys := by
  rw [wireNames, fields_request, wireNames_typed]

theorem wireNames_method {site : MethodSite} (h : site.Typed n) :
    wireNames (methodDraft n site).finish = fieldKeys site.method := by
  have hbody : (site.method.bodyField n).toList.map (·.identifier.wireName) =
      if site.method.request.isSome then ["content"] else [] := by
    rw [Method.bodyField]
    cases site.method.request <;> rfl
  rw [wireNames, fields_method, List.map_append, List.map_append, hbody, wireNames_optionalFields,
    wireNames_requiredFields, h.declared, keys_optionalParameters, Method.requiredNames_eq,
    fieldKeys]

/-- What a class is emitted for is an object that becomes one. -/
theorem isClass_of_emits {package : List String} {site : Site} {x : Emission}
    (h : site.Emits package x) (hx : x.declaration = .ofClass c) : site.isClass := by
  cases h with
  | model hk hid => simp [Site.isClass, hk, hid]
  | nestedClass hk hid hp hh => simp [Site.isClass, hk, hid, hp, hh]
  | nestedEnum => cases hx

/-- What a generated service has fields for. -/
theorem namesApart_of_origin (hapart : FieldsApart d n) (h : d.Generates n api)
    (horigin : Origin n d (.ofClass c)) (hkind : c.kind ≠ .model) : NamesApart (wireNames c) := by
  cases horigin with
  | schema hschema =>
    cases hschema
    exact absurd rfl hkind
  | request =>
    rw [wireNames_request]
    exact hapart.parameters
  | client => exact List.nodup_nil
  | method site hsite =>
    rw [wireNames_method (h.methods site hsite)]
    exact forall_mem_everyMethod.1 hapart.methods site hsite
  | resource => exact List.nodup_nil

/-- The classes of an API have their names apart exactly if the description has. -/
theorem forall_classes_apart (h : d.Generates n api) :
    (∀ c, .ofClass c ∈ api.declarations → NamesApart (wireNames c)) ↔ FieldsApart d n := by
  constructor
  · intro hclasses
    constructor
    case objects =>
      intro site hsite hclass
      obtain ⟨c, hc, hmodel⟩ := hasClassFor_of_mem_visits h hsite hclass
      have hnames := hclasses c hc
      rwa [wireNames, hmodel.fields_eq] at hnames
    case parameters =>
      have hnames := hclasses api.request
        (mem_declarations request_mem_topLevel (DeclarationOf.self_mem_all _))
      rwa [h.request, wireNames_request] at hnames
    case methods =>
      refine (forall_mem_everyMethod (n := n)).2 fun site hsite => ?_
      rw [← wireNames_method (h.methods site hsite)]
      exact hclasses _ (method_mem_declarations h hsite)
  · intro hapart c hc
    rcases declaredAt_or_service h _ hc with ⟨site, hsite, x, hx, hdeclares⟩ | ⟨_, heq, hkind⟩
    · rw [wireNames, fields_of_emits hx hdeclares]
      exact hapart.objects site hsite (isClass_of_emits hx hdeclares)
    · cases heq
      exact namesApart_of_origin hapart h (origin_of_mem_declarations h _ hc) hkind

/-! ## The main result -/

/-- **Fields have different names** in each struct of a generated API, at any depth, exactly if the
names that become fields of one struct are apart. -/
theorem field_names_nodup_iff {settings : Settings} (h : (d.generate settings).result = .ok api)
    (rt : String) :
    (∀ f ∈ files rt api, ∀ p ∈ f.placed, (fieldNames p.item.blocks).Nodup) ↔
      FieldsApart d (d.naming settings) := by
  rw [forall_placed_nodup (properlyNamed_of_generate h)]
  exact forall_classes_apart (generates_of_generate h)

theorem field_names_nodup_shelves :
    ∃ api, (Description.shelves.generate {}).result = .ok api ∧
      ∀ f ∈ files "runtime" api, ∀ p ∈ f.placed, (fieldNames p.item.blocks).Nodup := by
  obtain ⟨api, h⟩ := shelves_generate
  have hapart : FieldsApart Description.shelves (Description.shelves.naming {}) :=
    ⟨by decide +kernel, by decide +kernel, by decide +kernel⟩
  exact ⟨api, h, (field_names_nodup_iff h "runtime").2 hapart⟩

/-- An API with a schema whose properties are different words for the same field. -/
def doublet : Description where
  name := "books"
  version := "v1"
  schemas := [("Book", {
    id := some "Book"
    type := some "object"
    properties := some [
      ("fooBar", { type := some "string" }),
      ("foo_bar", { type := some "string" })] })]

/-- The struct of the model declares the same field twice. -/
theorem field_names_not_nodup_doublet :
    ∃ api, (doublet.generate {}).result = .ok api ∧
      ∃ f ∈ files "runtime" api, ∃ p ∈ f.placed,
        fieldNames p.item.blocks = ["foo_bar", "foo_bar"] ∧ ¬(fieldNames p.item.blocks).Nodup := by
  have hrepeated : (doublet.generate {}).result.toOption.any (fun api =>
      (files "runtime" api).any fun f => f.placed.any fun p =>
        fieldNames p.item.blocks = ["foo_bar", "foo_bar"]) = true := by
    decide +kernel
  obtain ⟨api, h, hrepeated⟩ := Traced.exists_of_any hrepeated
  obtain ⟨f, hf, hrepeated⟩ := List.any_eq_true.1 hrepeated
  obtain ⟨p, hp, hnames⟩ := List.any_eq_true.1 hrepeated
  replace hnames := of_decide_eq_true hnames
  refine ⟨api, h, f, hf, p, hp, hnames, ?_⟩
  rw [hnames]
  decide

end ClientGen.Source
