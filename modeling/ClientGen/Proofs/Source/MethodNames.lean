import ClientGen.Proofs.Source.FieldNames

/-!
# When the methods of a service have different names

Six kinds of methods stand in the implementation of a service: its constructor, those for the value
of the super type, for each field one that gives it and perhaps one that sets it, the one that
collects parameters, and those that make components. Some have names of the generator's own, the
others are named after fields, methods and resources of the description. Only the names for the
super type are safe, since they have the suffix of reserved words, `fieldName_ne_suffix`. A
parameter called `new` or `parameters`, a parameter called `set_` and then like another one, and a
method or resource called `new` give two methods one name. There are no other ways:
`method_names_nodup_iff` says that the methods of a service have different names exactly if its
fields have, its factory methods have, and the class is `MethodsApart`. The API of `renewed` is
generated without the last, `method_names_not_nodup_renewed`.
-/

namespace ClientGen.Source

open Text Generation Component

variable {rt : String} {c : Class}

/-! ## Names of setters -/

theorem strip_eq_self {name : List Char} (h : name.head? ≠ some '_') :
    dropSuffix.strip name = name := by
  unfold dropSuffix.strip
  split
  · exact absurd rfl h
  · rfl

theorem dropSuffix_eq_self {name : List Char} (h : name.getLast? ≠ some '_') :
    dropSuffix name = name := by
  rw [dropSuffix, strip_eq_self (by rwa [List.head?_reverse]), List.reverse_reverse]

theorem dropSuffix_suffix (name : List Char) :
    dropSuffix (name ++ collisionSuffix.toList) = dropSuffix name := by
  rw [dropSuffix, List.reverse_append]
  rfl

/-- Setters are named after fields before reserved words are told apart. -/
theorem setterName_eq (i : Identifier) : setterName i = "set_" ++ plainField i.wireName := by
  have hplain : dropSuffix (plainField i.wireName).toList = (plainField i.wireName).toList :=
    dropSuffix_eq_self (getLast?_plainField i.wireName)
  have hname : dropSuffix (fieldName i).toList = (plainField i.wireName).toList := by
    rw [fieldName_eq]
    unfold escapeReserved
    split
    · rw [String.toList_append, dropSuffix_suffix, hplain]
    · exact hplain
  rw [setterName, hname, String.ofList_toList]

/-- A field has the name of a word that is not reserved only without a suffix. -/
theorem fieldName_eq_word_iff (word : String) (hword : isReserved word = false)
    (hlast : word.toList.getLast? ≠ some '_') (i : Identifier) :
    fieldName i = word ↔ plainField i.wireName = word := by
  have hescaped : escapeReserved word = word := if_neg (by simp [hword])
  rw [fieldName_eq]
  constructor
  · intro h
    exact escapeReserved_inj (getLast?_plainField i.wireName) hlast (h.trans hescaped.symm)
  · intro h
    rw [h, hescaped]

theorem isReserved_setter (name : String) : isReserved ("set_" ++ name) = false := by
  have hnone : ∀ word ∈ reservedWords, ¬"set_".toList <+: word.toList := by decide
  rw [isReserved, List.contains_eq_mem, decide_eq_false_iff_not]
  intro hmem
  refine hnone _ hmem ?_
  rw [String.toList_append]
  exact List.prefix_append _ _

/-- A field is called like a setter only if it is named after something that begins so. -/
theorem fieldName_eq_setterName_iff {i j : Identifier} :
    fieldName i = setterName j ↔ plainField i.wireName = "set_" ++ plainField j.wireName := by
  rw [setterName_eq]
  refine fieldName_eq_word_iff _ (isReserved_setter _) ?_ i
  have hne : (plainField j.wireName).toList ≠ [] := by
    rw [Ne, String.toList_eq_nil_iff]
    exact withStart_ne_empty (by decide) _
  rw [String.toList_append, List.getLast?_append_of_ne_nil _ hne]
  exact getLast?_plainField j.wireName

theorem isName_setterName (i : Identifier) : IsName (setterName i).toList := by
  have hstart : IsName "set_".toList := by decide
  have hplain : IsName (plainField i.wireName).toList := by
    refine isName_withStart (by decide) ?_
    rw [toList_snakeCase]
    exact isName_snakeChars _
  rw [setterName_eq, String.toList_append]
  exact hstart.append hplain

/-! ## The methods of a service -/

/-- The class has a method that collects parameters. -/
def collects (c : Class) : Bool :=
  c.kind == .requestBase || extendsRequest c

/-- The names of the generator's own that methods of a service have. -/
def ownNames (c : Class) : List String :=
  "new" :: ((if c.superType.isSome then [baseField, baseMutMethod] else []) ++
    if collects c then ["parameters"] else [])

/-- What the fields of a service and its factory methods are named after. -/
def madeNames (c : Class) : List String :=
  wireNames c ++ c.factories.map (·.identifier.wireName)

/-- The names of the setters of a service. -/
def setterNames (c : Class) : List String :=
  (c.fields.filter fun f => !f.required).map fun f => setterName f.identifier

/-- The class has one method that is called `new`, in the place of constructors. -/
def HasNew (c : Class) : Prop :=
  (if c.kind == .client then ["new"] else []) ++ c.constructors.map (·.name) = ["new"]

/-- The setters that a field has. -/
def setterOf (f : Field) : List String :=
  if f.required then [] else [setterName f.identifier]

theorem setterNames_eq_flatMap (c : Class) : setterNames c = c.fields.flatMap setterOf := by
  rw [setterNames]
  induction c.fields with
  | nil => rfl
  | cons f rest ih =>
    rw [List.flatMap_cons, ← ih, List.filter_cons, setterOf]
    cases f.required <;> simp

theorem map_name_fieldAccessors (rt : String) (f : Field) :
    (fieldAccessors rt f).map (·.signature.name) = fieldName f.identifier :: setterOf f := by
  unfold fieldAccessors setterOf
  split
  · simp only [List.map_cons, List.map_nil]
  · simp only [List.map_cons, List.map_nil]

/-- The names of the methods that give and set fields. -/
theorem perm_accessorNames (rt : String) (c : Class) :
    ((c.fields.flatMap (fieldAccessors rt)).map (·.signature.name)).Perm
      (c.fields.map (fun f => fieldName f.identifier) ++ setterNames c) := by
  rw [List.map_flatMap, setterNames_eq_flatMap]
  simp only [map_name_fieldAccessors]
  exact (List.map_append_flatMap_perm c.fields _ _).symm

/-- **The names of the methods** of a service: the generator's own, then what is named after
something, then the setters. -/
theorem perm_methodNames (rt : String) (h : HasNew c) :
    ((serviceMethods rt c).map (·.signature.name)).Perm
      (ownNames c ++ (madeNames c).map (fun name => fieldName ⟨name⟩) ++ setterNames c) := by
  have hnew : (if c.kind == .client then [clientConstructor rt] else []).map (·.signature.name) ++
      (c.constructors.map (constructorItem rt c)).map (·.signature.name) = ["new"] := by
    rw [List.map_map, ← h]
    congr 1
    split <;> rfl
  have hbase : (c.superType.toList.flatMap (baseAccessors rt)).map (·.signature.name) =
      if c.superType.isSome then [baseField, baseMutMethod] else [] := by
    cases c.superType <;> rfl
  have hparameters : (if c.kind == .requestBase || extendsRequest c then [parametersItem c]
      else []).map (·.signature.name) = if collects c then ["parameters"] else [] := by
    rw [collects]
    split <;> rfl
  have hfactories : (c.factories.map (factoryItem rt c)).map (·.signature.name) =
      c.factories.map fun f => fieldName f.identifier := by
    rw [List.map_map]
    exact List.map_congr_left fun f _ => by simp only [Function.comp_apply, factoryItem]
  have haccessors := perm_accessorNames rt c
  rw [serviceMethods]
  simp only [List.map_append, hnew, hbase, hparameters, hfactories, madeNames, wireNames,
    ← map_fieldName, ownNames]
  -- the fields stand before the method that collects parameters, and their setters among them
  rw [List.perm_iff_count] at haccessors ⊢
  intro name
  have hcount := haccessors name
  simp only [List.count_append, List.count_cons, List.count_nil] at hcount ⊢
  omega

/-! ## When they differ -/

/-- Nothing that a method is named after is called like a method that is there besides. -/
structure MethodsApart (c : Class) : Prop where
  /-- Like the constructor. -/
  new : ∀ name ∈ madeNames c, plainField name ≠ "new"
  /-- Like the method that collects parameters, if there is one. -/
  parameters : collects c = true → ∀ name ∈ madeNames c, plainField name ≠ "parameters"
  /-- Like a setter. -/
  setters : ∀ f ∈ c.fields, f.required = false → ∀ name ∈ madeNames c,
    plainField name ≠ "set_" ++ plainField f.identifier.wireName

theorem methodsApart_iff : MethodsApart c ↔
    (∀ name ∈ madeNames c, plainField name ≠ "new") ∧
      (collects c = true → ∀ name ∈ madeNames c, plainField name ≠ "parameters") ∧
        ∀ f ∈ c.fields, f.required = false → ∀ name ∈ madeNames c,
          plainField name ≠ "set_" ++ plainField f.identifier.wireName :=
  ⟨fun h => ⟨h.new, h.parameters, h.setters⟩, fun h => ⟨h.1, h.2.1, h.2.2⟩⟩

instance : Decidable (MethodsApart c) :=
  decidable_of_iff _ methodsApart_iff.symm

theorem nodup_ownNames (c : Class) : (ownNames c).Nodup := by
  unfold ownNames
  cases c.superType.isSome <;> cases collects c <;> decide

/-- What is named after something has a name of the generator's own only if it is `new`, or
`parameters` where these are collected. -/
theorem fieldName_mem_ownNames_iff (i : Identifier) : fieldName i ∈ ownNames c ↔
    plainField i.wireName = "new" ∨ collects c = true ∧ plainField i.wireName = "parameters" := by
  have hnew := fieldName_eq_word_iff "new" (by decide) (by decide) i
  have hparameters := fieldName_eq_word_iff "parameters" (by decide) (by decide) i
  have hbase : fieldName i ∉ if c.superType.isSome then [baseField, baseMutMethod] else [] := by
    split
    · rw [List.mem_pair, not_or]
      exact ⟨fieldName_ne_baseField i, fieldName_ne_suffix "base_mut" (by decide) i⟩
    · exact List.not_mem_nil
  have hcollected : (fieldName i ∈ if collects c then ["parameters"] else []) ↔
      collects c = true ∧ plainField i.wireName = "parameters" := by
    rw [← hparameters]
    cases collects c <;> simp
  rw [ownNames, List.mem_cons, List.mem_append, hnew, or_iff_right hbase, hcollected]

/-- No setter has a name of the generator's own. -/
theorem setterName_not_mem_ownNames (i : Identifier) : setterName i ∉ ownNames c := by
  have hown : ∀ name ∈ ownNames c, ¬"set_".toList <+: name.toList := by
    unfold ownNames
    cases c.superType.isSome <;> cases collects c <;> decide
  intro hmem
  refine hown _ hmem ?_
  rw [setterName_eq, String.toList_append]
  exact List.prefix_append _ _

/-- Fields of different names have setters of different names. -/
theorem nodup_setterNames (h : NamesApart (wireNames c)) : (setterNames c).Nodup := by
  rw [NamesApart, wireNames, List.Nodup, List.pairwise_map, List.pairwise_map] at h
  rw [setterNames, List.Nodup, List.pairwise_map]
  refine (h.filter _).imp fun {f g} hfg => ?_
  rw [setterName_eq, setterName_eq, Ne, String.append_right_inj]
  exact hfg

theorem mem_setterNames {name : String} :
    name ∈ setterNames c ↔ ∃ f ∈ c.fields, f.required = false ∧ setterName f.identifier = name := by
  simp only [setterNames, List.mem_map, List.mem_filter, Bool.not_eq_true', and_assoc]

/-- Names of all kinds are different exactly if those that are made are, and none of them is a name
that is there already. -/
theorem nodup_names_iff :
    (ownNames c ++ (madeNames c).map (fun name => fieldName ⟨name⟩) ++ setterNames c).Nodup ↔
      NamesApart (madeNames c) ∧ MethodsApart c := by
  rw [List.nodup_append, List.nodup_append, nodup_fieldNames]
  constructor
  · rintro ⟨⟨-, hmade, hown⟩, -, hsetters⟩
    have hmem {name : String} (hname : name ∈ madeNames c) : fieldName ⟨name⟩ ∉ ownNames c :=
      fun h => hown _ h _ (List.mem_map.2 ⟨name, hname, rfl⟩) rfl
    constructor
    · exact hmade
    · constructor
      case new =>
        exact fun name hname heq => hmem hname ((fieldName_mem_ownNames_iff ⟨name⟩).2 (.inl heq))
      case parameters =>
        exact fun hcollects name hname heq =>
          hmem hname ((fieldName_mem_ownNames_iff ⟨name⟩).2 (.inr ⟨hcollects, heq⟩))
      case setters =>
        intro f hf hoptional name hname heq
        have hfield : fieldName ⟨name⟩ ∈ (madeNames c).map fun name => fieldName ⟨name⟩ :=
          List.mem_map.2 ⟨name, hname, rfl⟩
        have hsetter := mem_setterNames.2 ⟨f, hf, hoptional, rfl⟩
        exact hsetters _ (List.mem_append_right _ hfield) _ hsetter
          (fieldName_eq_setterName_iff.2 heq)
  · rintro ⟨hmade, hapart⟩
    have hwire : NamesApart (wireNames c) := by
      rw [NamesApart, madeNames, List.map_append] at hmade
      exact (List.nodup_append.1 hmade).1
    refine ⟨⟨nodup_ownNames c, hmade, ?_⟩, nodup_setterNames hwire, ?_⟩
    · intro own hown field hfield heq
      obtain ⟨name, hname, hname'⟩ := List.mem_map.1 hfield
      rw [heq, ← hname', fieldName_mem_ownNames_iff] at hown
      rcases hown with hnew | ⟨hcollects, hparameters⟩
      · exact hapart.new name hname hnew
      · exact hapart.parameters hcollects name hname hparameters
    · intro other hother setter hsetter heq
      obtain ⟨f, hf, hoptional, hsetter'⟩ := mem_setterNames.1 hsetter
      rw [heq, ← hsetter'] at hother
      rcases List.mem_append.1 hother with hown | hfield
      · exact setterName_not_mem_ownNames f.identifier hown
      · obtain ⟨name, hname, hsame⟩ := List.mem_map.1 hfield
        exact hapart.setters f hf hoptional name hname (fieldName_eq_setterName_iff.1 hsame)

/-! ## Generated services -/

variable {n : Naming} {d : Description} {api : Api}

/-- Generated services have one method called `new`. -/
theorem hasNew_of_origin (h : Origin n d (.ofClass c)) (hkind : c.kind ≠ .model) : HasNew c := by
  cases h with
  | schema hschema =>
    cases hschema
    exact absurd rfl hkind
  | request | client | method | resource => rfl

/-- A generated service has no fields, or no factory methods. -/
theorem fields_or_factories_of_origin (h : Origin n d (.ofClass c)) :
    c.fields = [] ∨ c.factories = [] := by
  cases h with
  | schema hschema =>
    cases hschema
    exact .inr rfl
  | request | method => exact .inr rfl
  | client | resource => exact .inl rfl

/-- So what its methods are named after is apart if it is among the fields, and among the factory
methods. -/
theorem namesApart_madeNames (h : c.fields = [] ∨ c.factories = []) : NamesApart (madeNames c) ↔
    NamesApart (wireNames c) ∧ NamesApart (c.factories.map (·.identifier.wireName)) := by
  rw [madeNames]
  rcases h with h | h
  · rw [wireNames, h, List.map_nil, List.nil_append]
    exact (and_iff_right List.nodup_nil).symm
  · rw [h, List.map_nil, List.append_nil]
    exact (and_iff_left List.nodup_nil).symm

/-- The methods in an implementation are read as they were made. -/
theorem methodNames_serviceImplementation (rt : String) (h : HasNew c) :
    (methodNames (serviceImplementation rt c).blocks).Perm
      (ownNames c ++ (madeNames c).map (fun name => fieldName ⟨name⟩) ++ setterNames c) := by
  have hperm := perm_methodNames rt h
  have hnames : ∀ m ∈ serviceMethods rt c, IsName m.signature.name.toList := by
    have hown : ∀ name ∈ ownNames c, IsName name.toList := by
      unfold ownNames
      cases c.superType.isSome <;> cases collects c <;> decide
    intro m hm
    rcases List.mem_append.1 (hperm.mem_iff.1 (List.mem_map_of_mem hm)) with hname | hname
    · rcases List.mem_append.1 hname with hname | hname
      · exact hown _ hname
      · obtain ⟨name, -, heq⟩ := List.mem_map.1 hname
        rw [← heq]
        exact isName_fieldName _
    · obtain ⟨f, -, -, heq⟩ := mem_setterNames.1 hname
      rw [← heq]
      exact isName_setterName _
  rw [serviceImplementation, methodNames_implementation hnames]
  exact hperm

/-- **Methods have different names** in the implementation of each service of a generated API
exactly if fields have, factory methods have, and none of them is called like a method that is there
besides. -/
theorem method_names_nodup_iff {settings : Settings} (h : (d.generate settings).result = .ok api)
    (rt : String) (hc : .ofClass c ∈ api.declarations) (hkind : c.kind ≠ .model) :
    (∃ f ∈ files rt api, ⟨home c.name, serviceImplementation rt c⟩ ∈ f.placed) ∧
      ((methodNames (serviceImplementation rt c).blocks).Nodup ↔
        (fieldNames (serviceStruct rt c).blocks).Nodup ∧
          (c.factories.map fun f => fieldName f.identifier).Nodup ∧ MethodsApart c) := by
  have horigin := origin_of_mem_declarations (generates_of_generate h) _ hc
  refine ⟨exists_implementation h rt hc hkind, ?_⟩
  rw [(methodNames_serviceImplementation rt (hasNew_of_origin horigin hkind)).nodup_iff,
    nodup_names_iff, namesApart_madeNames (fields_or_factories_of_origin horigin),
    fieldNames_serviceStruct, nodup_serviceFieldNames, map_fieldName, nodup_fieldNames, and_assoc]

theorem method_names_nodup_shelves :
    ∃ api c, (Description.shelves.generate {}).result = .ok api ∧ .ofClass c ∈ api.declarations ∧
      c.name.simpleName = "Get" ∧ c.kind = .component ∧
        (methodNames (serviceImplementation "runtime" c).blocks).Nodup := by
  have hfound : (Description.shelves.generate {}).result.toOption.any (fun api =>
      api.declarations.any (·.isClassWith fun c =>
        (c.name.simpleName = "Get" ∧ c.kind = .component) ∧
          (fieldNames (serviceStruct "runtime" c).blocks).Nodup ∧
            (c.factories.map fun f => fieldName f.identifier).Nodup ∧ MethodsApart c)) = true := by
    decide +kernel
  obtain ⟨api, c, h, hc, hclass⟩ := exists_class_of_any hfound
  obtain ⟨⟨hname, hkind⟩, hapart⟩ := of_decide_eq_true hclass
  have hservice : c.kind ≠ .model := by rw [hkind]; exact ClassKind.noConfusion
  exact ⟨api, c, h, hc, hname, hkind,
    (method_names_nodup_iff h "runtime" hc hservice).2.2 hapart⟩

/-- An API with a method that has a parameter called like its constructor. -/
def renewed : Description where
  name := "books"
  version := "v1"
  methods := [("list", {
    path := "books"
    httpMethod := "GET"
    parameters := [("new", { type := some "boolean" })] })]

/-- The fields of the method's class have different names, and it has no factory methods. Yet two
methods in its implementation are called `new`. -/
theorem method_names_not_nodup_renewed :
    ∃ api c, (renewed.generate {}).result = .ok api ∧ .ofClass c ∈ api.declarations ∧
      c.kind = .component ∧ (fieldNames (serviceStruct "runtime" c).blocks).Nodup ∧
        (c.factories.map fun f => fieldName f.identifier).Nodup ∧
          ¬(methodNames (serviceImplementation "runtime" c).blocks).Nodup := by
  have hfound : (renewed.generate {}).result.toOption.any (fun api =>
      api.declarations.any (·.isClassWith fun c =>
        c.kind = .component ∧ (fieldNames (serviceStruct "runtime" c).blocks).Nodup ∧
          (c.factories.map fun f => fieldName f.identifier).Nodup ∧
            ¬(methodNames (serviceImplementation "runtime" c).blocks).Nodup)) = true := by
    decide +kernel
  obtain ⟨api, c, h, hc, hclass⟩ := exists_class_of_any hfound
  exact ⟨api, c, h, hc, of_decide_eq_true hclass⟩

end ClientGen.Source
