import ClientGen.Proofs.Api.Sites
import ClientGen.Proofs.Source.Implementations
import ClientGen.Proofs.Source.Name

/-!
# Names on the wire

A field is called in Rust what its property can be called there, and on the wire what the property
is called. Where the two differ, an argument to serde renames the field, and the name on the wire
has to be read from the literal in that argument. `Member` is a field or variant as it is written,
and `Member.serializedName` what is read; `serializedName_modelField` says that it is the name of
the property, whatever characters are in it.

`wire_names_kept` says it of the files of a generated API. Every struct of a model in them, however
deep the module is that it stands in, belongs to a schema of the description, and has the properties
of that schema for its fields, in their order. Every variant of an enum is renamed to its constant.
-/

namespace ClientGen.Source

open Text

/-! ## Reading names -/

/-- The name on the wire that the argument gives, as its literal denotes it. -/
def renamed? (argument : String) : Option String :=
  match "rename = \"".toList.isPrefixOf? argument.toList with
  | some literal =>
    match readLiteral literal with
    | some (name, []) => some (String.ofList name)
    | _ => none
  | none => none

/-- A field or variant as it is written. -/
structure Member where
  documentation : Option String
  /-- What is said about its serialised form. -/
  arguments : List String
  /-- The line that declares it. -/
  declaration : String

namespace Member

/-- The blocks of a member. -/
def blocks (m : Member) : List Block :=
  docBlocks m.documentation ++
    [.line ("#[serde(" ++ ", ".intercalate m.arguments ++ ")]"), .line m.declaration]

/-- What the member is renamed to, if it is renamed. -/
def rename? (m : Member) : Option String :=
  m.arguments.findSome? renamed?

/-- The name of a field: what stands between `pub` and the colon. -/
def fieldName (m : Member) : String :=
  String.ofList ((m.declaration.toList.drop 4).takeWhile (· != ':'))

/-- The name on the wire of a field: what it is renamed to, or else its name. -/
def serializedName (m : Member) : String :=
  m.rename?.getD m.fieldName

end Member

theorem renamed?_rename (wireName : String) :
    renamed? (SerdeArgument.rename wireName).text = some wireName := by
  have htext : (SerdeArgument.rename wireName).text.toList =
      "rename = \"".toList ++ (escapeChars wireName.toList ++ ['"']) := by
    simp [SerdeArgument.text, literal]
  have hcut := List.isPrefixOf?_eq_some_iff_append_eq.2 htext.symm
  rw [renamed?, hcut]
  simp only [readLiteral_escapeChars, String.ofList_toList]

example : renamed? "rename = \"a \\\"b\\\" \\\\ c\"" = some "a \"b\" \\ c" := by decide +kernel

/-- No other argument renames. -/
theorem renamed?_eq_none {argument : SerdeArgument} (h : ∀ wireName, argument ≠ .rename wireName) :
    renamed? argument.text = none := by
  cases argument with
  | rename wireName => exact absurd rfl (h wireName)
  | useDefault => rfl
  | codec path => simp [renamed?, SerdeArgument.text, List.isPrefixOf?]
  | skipAbsent => rfl

/-! ## Fields -/

/-- The field as it is written. -/
def ModelField.member (f : ModelField) : Member where
  documentation := f.documentation
  arguments := f.arguments.map (·.text)
  declaration := s!"pub {f.name}: Option<{f.type}>,"

theorem ModelField.blocks_eq (f : ModelField) : f.blocks = f.member.blocks := rfl

theorem ModelField.fieldName_member {f : ModelField} (h : IsName f.name.toList) :
    f.member.fieldName = f.name := by
  have hname : ∀ c ∈ f.name.toList, (c != ':') = true := forall_bne (h.not_mem (by decide))
  have hdeclaration : f.member.declaration =
      "pub " ++ f.name ++ ": Option<" ++ f.type ++ ">," := rfl
  have hrest : f.member.declaration.toList.drop 4 =
      f.name.toList ++ ':' :: (" Option<" ++ f.type ++ ">,").toList := by
    rw [hdeclaration]
    simp
  rw [Member.fieldName, hrest, List.takeWhile_append_of_pos hname, List.takeWhile_cons_of_neg]
  · simp
  · decide

theorem isName_fieldName (i : Identifier) : IsName (fieldName i).toList := by
  refine isName_escapeReserved (isName_withStart (by decide) ?_)
  rw [snakeCase, String.toList_ofList]
  exact isName_snakeChars _

/-- A field is renamed exactly if it cannot have the name of its property. -/
theorem rename?_modelField (rt : String) (f : Field) :
    (modelField rt f).member.rename? =
      if fieldName f.identifier = f.identifier.wireName then none
      else some f.identifier.wireName := by
  have hothers : ∀ argument ∈ (if f.rfc3339 && f.type.isDateTime then
      [SerdeArgument.useDefault, .codec (rt ++ "::rfc3339::option")] else []) ++ [.skipAbsent],
      (renamed? ∘ SerdeArgument.text) argument = none := by
    intro argument hargument
    refine renamed?_eq_none fun wireName hrename => ?_
    rw [hrename] at hargument
    split at hargument <;> simp at hargument
  have harguments : (modelField rt f).member.arguments =
      (serdeArguments rt f).map SerdeArgument.text := by
    simp only [ModelField.member, modelField]
  rw [Member.rename?, harguments, serdeArguments, List.append_assoc, List.findSome?_map,
    List.findSome?_append, List.findSome?_eq_none_iff.2 hothers]
  by_cases hsame : fieldName f.identifier = f.identifier.wireName
  · rw [if_pos hsame, if_pos hsame, List.findSome?_nil, Option.or_none]
  · rw [if_neg hsame, if_neg hsame, List.findSome?_singleton, Option.or_none, Function.comp_apply,
      renamed?_rename]

/-- **A field is called on the wire what its property is called.** -/
theorem serializedName_modelField (rt : String) (f : Field) :
    (modelField rt f).member.serializedName = f.identifier.wireName := by
  have hname : (modelField rt f).name = fieldName f.identifier := by
    simp only [modelField]
  have hread : (modelField rt f).member.fieldName = fieldName f.identifier := by
    rw [ModelField.fieldName_member, hname]
    rw [hname]
    exact isName_fieldName f.identifier
  rw [Member.serializedName, rename?_modelField, hread]
  by_cases hsame : fieldName f.identifier = f.identifier.wireName
  · rw [if_pos hsame, Option.getD_none, hsame]
  · rw [if_neg hsame, Option.getD_some]

theorem serializedNames_model (rt : String) (fields : List Field) :
    ((fields.map (modelField rt)).map ModelField.member).map Member.serializedName =
      fields.map (·.identifier.wireName) := by
  rw [List.map_map, List.map_map]
  refine List.map_congr_left fun f _ => ?_
  rw [Function.comp_apply, Function.comp_apply, serializedName_modelField]

/-! ## Variants -/

/-- The variant as it is written. -/
def Variant.member (v : Variant) : Member where
  documentation := v.documentation
  arguments := [(SerdeArgument.rename v.wireName).text]
  declaration := v.name ++ ","

theorem Variant.blocks_eq (v : Variant) : v.blocks = v.member.blocks := by
  have hattribute : "#[serde(rename = " ++ literal v.wireName ++ ")]" =
      "#[serde(" ++ ("rename = " ++ literal v.wireName) ++ ")]" := by
    simp [← String.toList_inj]
  rw [blocks, hattribute]
  rfl

/-- A variant is always renamed. -/
theorem Variant.rename?_member (v : Variant) : v.member.rename? = some v.wireName := by
  rw [Member.rename?, member, List.findSome?_singleton, renamed?_rename]

/-! ## Items -/

/-- The blocks of the struct of a model. -/
def structBlocks (documentation : Option String) (name : String) (members : List Member) :
    List Block :=
  docBlocks documentation ++
    [.line modelDerives,
      .group (s!"pub struct {name}" ++ " \x7b") (members.flatMap (·.blocks)) "\x7d"]

/-- The blocks of an enum. -/
def enumBlocks (documentation : Option String) (name : String) (members : List Member) :
    List Block :=
  docBlocks documentation ++
    [.line enumDerives,
      .group (s!"pub enum {name}" ++ " \x7b") (members.flatMap (·.blocks)) "\x7d"]

theorem blocks_model (documentation : Option String) (name : String) (fields : List ModelField) :
    (Item.model documentation name fields).blocks =
      structBlocks documentation name (fields.map (·.member)) := by
  rw [Item.blocks, structBlocks, List.flatMap_map, List.flatMap_congr fun f _ => f.blocks_eq]

theorem blocks_enumeration (documentation : Option String) (name : String)
    (variants : List Variant) :
    (Item.enumeration documentation name variants).blocks =
      enumBlocks documentation name (variants.map (·.member)) := by
  rw [Item.blocks, enumBlocks, List.flatMap_map, List.flatMap_congr fun v _ => v.blocks_eq]

/-- The rows are those of the item, as deep as it may stand. -/
def IsWritten (item : Item) (rows : List String) : Prop :=
  ∃ depth, rows = rowsOf depth item.blocks

theorem writes_items (depth : Nat) (items : List Item) : Writes IsWritten depth items items := by
  induction items with
  | nil => exact Writes.nothing depth []
  | cons item rest ih =>
    have hitem : Writes IsWritten depth [item] [item] := by
      refine ⟨[item], .refl _, ?_⟩
      rw [itemBlocks, itemBlocks, separated_singleton]
      simpa using InTurn.cons [] ⟨depth, rfl⟩ (.nil [])
    exact hitem.append ih

/-! ## Files -/

variable {rt : String} {a : Api} {f : File}

/-- The items of a file are written in it, those in modules inside the modules. -/
theorem writes_file (h : ProperlyNamed a) (hf : f ∈ files rt a) :
    Writes IsWritten 0 f.items (f.placed.map (·.item)) := by
  have hclass {package : List String} {c : Class} (hc : c ∈ a.topLevel)
      (hstands : StandsIn package c) :
      Writes IsWritten 0 (File.ofClass rt (packageDirectory package) c).items
        ((File.ofClass rt (packageDirectory package) c).placed.map (·.item)) := by
    have hitems : ((DeclarationOf.all (.ofClass c)).flatMap (itemsAt rt)).map (·.item) =
        (DeclarationOf.all (.ofClass c)).flatMap (declarationItems rt) := by
      rw [List.map_flatMap]
      refine List.flatMap_congr fun e _ => ?_
      rw [itemsAt, List.map_map]
      exact List.map_id _
    refine (Writes.moduleItems (fun depth e => writes_items depth _) 0 c).perm ?_
    rw [placed_ofClass rt hstands, ← hitems]
    exact ((perm_topLevel rt (h.inside c hc) hstands.2).map _).symm
  have hindex (directory modules : List String) (types : List (String × String)) :
      Writes IsWritten 0 (File.index directory modules types).items
        ((File.index directory modules types).placed.map (·.item)) := by
    rw [placed_index]
    exact writes_items 0 _
  rcases mem_files.1 hf with ⟨c, hc, rfl⟩ | rfl | ⟨c, hc, rfl⟩ | rfl
  · exact hclass (List.mem_append_right _ hc) (h.services c hc)
  · exact hindex _ _ _
  · exact hclass (List.mem_append_left _ hc) (h.models c hc)
  · exact hindex _ _ _

/-- The text of a file, row by row. -/
theorem toList_contents (f : File) : f.unit.contents.toList =
    (header ++ "\n\n").toList ++ endRows (rowsOf 0 (separated (itemBlocks f.items))) := by
  rw [← toList_printBlocks, ← String.toList_append]
  rfl

/-- What declares a type in a file, belongs to a declaration. -/
theorem exists_declaration (h : ProperlyNamed a) (hf : f ∈ files rt a) {p : Placed}
    (hp : p ∈ f.placed) (htype : p.item.typeName? ≠ none) :
    ∃ e ∈ a.declarations, p ∈ itemsAt rt e := by
  obtain ⟨others, hperm, hothers⟩ := (placedAsNamed_files rt h).items
  rcases List.mem_append.1 (hperm.mem_iff.1 (List.mem_flatMap.2 ⟨f, hf, hp⟩)) with hp | hp
  · exact List.mem_flatMap.1 hp
  · exact absurd (hothers p hp) htype

theorem item_of_mem_itemsAt {e : Declaration} {p : Placed} (h : p ∈ itemsAt rt e) :
    p.item ∈ declarationItems rt e := by
  obtain ⟨item, hitem, rfl⟩ := List.mem_map.1 h
  exact hitem

/-! ## Models and enums -/

/-- Only the class of a model is written as a struct of a model. -/
theorem class_of_model {e : Declaration} {documentation : Option String} {name : String}
    {fields : List ModelField} (h : .model documentation name fields ∈ declarationItems rt e) :
    ∃ c, e = .ofClass c ∧ c.kind = .model ∧ .model documentation name fields = modelItem rt c := by
  cases e with
  | ofEnum inner => cases List.mem_singleton.1 h
  | ofClass c =>
    rw [declarationItems, classItems] at h
    split at h
    · rename_i hkind
      exact ⟨c, rfl, by simpa using hkind, List.mem_singleton.1 h⟩
    · simp [serviceItems] at h

theorem enum_of_enumeration {e : Declaration} {documentation : Option String} {name : String}
    {vs : List Variant} (h : .enumeration documentation name vs ∈ declarationItems rt e) :
    ∃ inner, e = .ofEnum inner ∧ .enumeration documentation name vs = enumItem inner := by
  cases e with
  | ofEnum inner => exact ⟨inner, rfl, List.mem_singleton.1 h⟩
  | ofClass c =>
    rw [declarationItems, classItems] at h
    split at h
    · simp [modelItem] at h
    · simp [serviceItems] at h

/-- A class that is emitted has a field for each property of its schema. -/
theorem fields_of_emits {package : List String} {site : Site} {x : Emission} {c : Class}
    (h : site.Emits package x) (hc : x.declaration = .ofClass c) :
    c.fields.map (·.identifier.wireName) = Keyed.keys (site.schema.properties.getD []) := by
  cases h with
  | model _ _ hmodel => cases hc; exact hmodel.fields_eq
  | nestedClass _ _ _ _ _ hmodel => cases hc; exact hmodel.fields_eq
  | nestedEnum => cases hc

/-- An enum that is emitted has the constants of its schema. -/
theorem constants_of_emits {package : List String} {site : Site} {x : Emission} {e : Enum}
    (h : site.Emits package x) (he : x.declaration = .ofEnum e) :
    Resolution.enumConstants? site.schema = some e.constants := by
  cases h with
  | model => cases he
  | nestedClass => cases he
  | nestedEnum _ _ _ hconstants => cases he; exact hconstants

/-! ## The main result -/

/-- What the files of an API keep of the names in its description. -/
structure WireNamesKept (rt : String) (n : Naming) (d : Description) (a : Api) : Prop where
  /-- The text of a file has the rows of all its items, those in modules included. -/
  written : ∀ f ∈ files rt a, ∃ order rows, order.Perm (f.placed.map (·.item)) ∧
    InTurn IsWritten order rows ∧
      f.unit.contents.toList = (header ++ "\n\n").toList ++ endRows rows
  /-- All declarations have their items in files. -/
  declared : ∀ e ∈ a.declarations, ∀ item ∈ declarationItems rt e,
    ∃ f ∈ files rt a, ⟨home e.name, item⟩ ∈ f.placed
  /-- The struct of a model stands for what was emitted for an object schema. It has a field for
  each property, in their order, and on the wire the field has the name of the property. -/
  structs : ∀ f ∈ files rt a, ∀ p ∈ f.placed, ∀ documentation name fields,
    p.item = .model documentation name fields →
      ∃ site ∈ d.visits n, ∃ x, site.Emits n.modelPackage x ∧
        x.declaration ∈ a.declarations ∧ p ∈ itemsAt rt x.declaration ∧
        ∃ members, p.item.blocks = structBlocks documentation name members ∧
          members.map Member.serializedName = Keyed.keys (site.schema.properties.getD []) ∧
            Keyed.Ordered (site.schema.properties.getD [])
  /-- An enum stands for what was emitted for a text that lists its values. It has a variant for
  each constant that is kept, and the variant is renamed to the constant. -/
  enums : ∀ f ∈ files rt a, ∀ p ∈ f.placed, ∀ documentation name vs,
    p.item = .enumeration documentation name vs →
      ∃ site ∈ d.visits n, ∃ x, site.Emits n.modelPackage x ∧
        x.declaration ∈ a.declarations ∧ p ∈ itemsAt rt x.declaration ∧
        ∃ constants, Resolution.enumConstants? site.schema = some constants ∧
          ∃ members, p.item.blocks = enumBlocks documentation name members ∧
            members.map (fun m => (m.declaration, m.rename?)) = (variants constants).map
              fun (name, constant) => (name ++ ",", some constant.identifier.wireName)

/-- **Names on the wire are kept**, whatever they are. -/
theorem wire_names_kept {d : Description} {settings : Settings} {a : Api} (hordered : d.Ordered)
    (h : (d.generate settings).result = .ok a) (rt : String) :
    WireNamesKept rt (d.naming settings) d a := by
  have hnamed := properlyNamed_of_generate h
  have hgenerates := generates_of_generate h
  constructor
  case written =>
    intro f hf
    obtain ⟨order, hperm, hrows⟩ := writes_file hnamed hf
    exact ⟨order, _, hperm, hrows, toList_contents f⟩
  case declared =>
    intro e he item hitem
    obtain ⟨others, hperm, -⟩ := (placedAsNamed_files rt hnamed).items
    refine List.mem_flatMap.1 (hperm.mem_iff.2 (List.mem_append_left _ ?_))
    exact List.mem_flatMap.2 ⟨e, he, List.mem_map.2 ⟨item, hitem, rfl⟩⟩
  case structs =>
    intro f hf p hp documentation name fields hmodel
    have htype : p.item.typeName? ≠ none := by simp [hmodel, Item.typeName?]
    obtain ⟨e, he, hhome⟩ := exists_declaration hnamed hf hp htype
    have hitem := item_of_mem_itemsAt hhome
    rw [hmodel] at hitem
    obtain ⟨c, rfl, hkind, heq⟩ := class_of_model hitem
    rcases declaredAt_or_service hgenerates _ he with ⟨site, hsite, x, hx, hdeclares⟩ | hservice
    · cases heq
      refine ⟨site, hsite, x, hx, hdeclares ▸ he, hdeclares ▸ hhome, _,
        hmodel ▸ blocks_model _ _ _, ?_, (hordered.of_mem_visits hsite).properties⟩
      rw [serializedNames_model, fields_of_emits hx hdeclares]
    · obtain ⟨_, heq, hother⟩ := hservice
      cases heq
      exact absurd hkind hother
  case enums =>
    intro f hf p hp documentation name vs henum
    have htype : p.item.typeName? ≠ none := by simp [henum, Item.typeName?]
    obtain ⟨e, he, hhome⟩ := exists_declaration hnamed hf hp htype
    have hitem := item_of_mem_itemsAt hhome
    rw [henum] at hitem
    obtain ⟨inner, rfl, heq⟩ := enum_of_enumeration hitem
    rcases declaredAt_or_service hgenerates _ he with ⟨site, hsite, x, hx, hdeclares⟩ | hservice
    · cases heq
      refine ⟨site, hsite, x, hx, hdeclares ▸ he, hdeclares ▸ hhome, inner.constants,
        constants_of_emits hx hdeclares, _, henum ▸ blocks_enumeration _ _ _, ?_⟩
      rw [List.map_map, List.map_map]
      refine List.map_congr_left fun v _ => ?_
      rw [Function.comp_apply, Function.comp_apply, Variant.rename?_member]
      rfl
    · obtain ⟨_, heq, -⟩ := hservice
      cases heq

theorem wire_names_kept_shelves :
    ∃ api, (Description.shelves.generate {}).result = .ok api ∧
      WireNamesKept "runtime" (Description.shelves.naming {}) Description.shelves api := by
  obtain ⟨api, h⟩ := shelves_generate
  exact ⟨api, h, wire_names_kept shelves_ordered h "runtime"⟩

end ClientGen.Source
