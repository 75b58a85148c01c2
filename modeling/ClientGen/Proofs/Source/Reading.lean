import ClientGen.Proofs.Source.Comments
import ClientGen.Proofs.Source.WireNames
import Mathlib.Data.List.DropRight

/-!
# Structs and implementations, read back

What a struct declares, and which methods an implementation has, can be read off the lines that are
written, without knowing what they were made of: the name of a field is the last word before a
colon, and that of a method the last word before a parenthesis. `fieldNames` and `methodNames` are
such readings of blocks. For the items of the generator they give the names that the items were made
with, `fieldNames_model`, `fieldNames_service` and `methodNames_implementation`, as long as these
are names at all.
-/

namespace ClientGen.Source

open Text

/-! ## Words -/

/-- The last word of the line before a character. -/
def wordBefore (stop : Char) (line : String) : String :=
  String.ofList ((line.toList.takeWhile (· != stop)).rtakeWhile (· != ' '))

/-- The line is a comment or an attribute. -/
def isAside (line : String) : Bool :=
  "///".toList.isPrefixOf line.toList || "#[".toList.isPrefixOf line.toList

theorem wordBefore_eq {stop : Char} {line : String} {start name rest : List Char}
    (hline : line.toList = start ++ name ++ stop :: rest) (hname : IsName name)
    (hstop : isNameChar stop = false) (hstart : stop ∉ start)
    (hlast : ∀ c ∈ start.getLast?, c = ' ') : wordBefore stop line = String.ofList name := by
  have hbefore : stop ∉ start ++ name := by
    rw [List.mem_append, not_or]
    exact ⟨hstart, hname.not_mem hstop⟩
  have htaken : line.toList.takeWhile (· != stop) = start ++ name := by
    rw [hline, List.takeWhile_append_of_pos (forall_bne hbefore),
      List.takeWhile_cons_of_neg (by simp), List.append_nil]
  have hword : ' ' ∉ name.reverse := by
    rw [List.mem_reverse]
    exact hname.not_mem (by decide)
  rw [wordBefore, htaken, List.rtakeWhile, List.reverse_append,
    List.takeWhile_append_of_pos (forall_bne hword)]
  rcases List.eq_nil_or_concat start with rfl | ⟨before, last, rfl⟩
  · simp
  · rw [List.concat_eq_append, List.getLast?_concat] at hlast
    rw [List.concat_eq_append, hlast last rfl]
    simp

/-- Neither a comment nor an attribute begins with a letter. -/
theorem isAside_eq_false {line : String} {first : Char} {rest : List Char}
    (hline : line.toList = first :: rest) (hslash : first ≠ '/') (hhash : first ≠ '#') :
    isAside line = false := by
  simp [isAside, hline, List.isPrefixOf, hslash.symm, hhash.symm]

theorem isAside_docLine (line : List Char) : isAside (docLine line) = true := by
  simp [isAside, toList_docLine, List.isPrefixOf]

theorem isAside_attribute (text : String) : isAside ("#[" ++ text) = true := by
  simp [isAside, String.toList_append, List.isPrefixOf]

/-! ## Structs -/

/-- The field that a piece of a struct declares. -/
def fieldName? : Block → Option String
  | .line text => if isAside text then none else some (wordBefore ':' text)
  | .group .. => none

/-- The names of the fields that a struct among the blocks declares. -/
def fieldNames (blocks : List Block) : List String :=
  blocks.flatMap fun
    | .group first body _ =>
      if "pub struct ".toList.isPrefixOf first.toList then body.filterMap fieldName? else []
    | .line _ => []

theorem filterMap_fieldName?_docBlocks (documentation : Option String) :
    (docBlocks documentation).filterMap fieldName? = [] := by
  refine List.filterMap_eq_nil_iff.2 fun block hblock => ?_
  obtain ⟨text, htext, rfl⟩ := List.mem_map.1 hblock
  obtain ⟨whole, -, htext⟩ := List.mem_flatMap.1 htext
  have haside : ∀ line ∈ docLines whole, isAside line = true :=
    forall_mem_docLines (fun line _ => isAside_docLine line) whole
  exact if_pos (haside text htext)

theorem fieldNames_docBlocks (documentation : Option String) (blocks : List Block) :
    fieldNames (docBlocks documentation ++ blocks) = fieldNames blocks := by
  have hnone : fieldNames (docBlocks documentation) = [] := by
    rw [fieldNames, docBlocks, List.flatMap_map]
    exact List.flatMap_eq_nil_iff.2 fun _ _ => rfl
  rw [fieldNames, List.flatMap_append]
  exact (congrArg (· ++ _) hnone).trans (List.nil_append _)

theorem fieldName?_line {text : String} (start name rest : String)
    (htext : text = start ++ name ++ ":" ++ rest) (hname : IsName name.toList)
    (hstart : start = "" ∨ start = "pub ") : fieldName? (.line text) = some name := by
  have hchars : text.toList = start.toList ++ name.toList ++ ':' :: rest.toList := by
    rw [htext]
    simp
  have haside : isAside text = false := by
    rcases hstart with rfl | rfl
    · cases hletters : name.toList with
      | nil => exact isAside_eq_false (by rw [hchars, hletters]; rfl) (by decide) (by decide)
      | cons first others =>
        have hfirst := hname first (by rw [hletters]; exact List.mem_cons_self)
        refine isAside_eq_false (by rw [hchars, hletters]; rfl) ?_ ?_
        · rintro rfl
          exact absurd hfirst (by decide)
        · rintro rfl
          exact absurd hfirst (by decide)
    · exact isAside_eq_false hchars (by decide) (by decide)
  have hword : wordBefore ':' text = name := by
    rw [wordBefore_eq hchars hname (by decide), String.ofList_toList]
    · rcases hstart with rfl | rfl <;> decide
    · rcases hstart with rfl | rfl <;> simp
  rw [fieldName?, haside, hword]
  rfl

theorem ModelField.fieldNames_blocks {f : ModelField} (h : IsName f.name.toList) :
    f.blocks.filterMap fieldName? = [f.name] := by
  have hattribute : fieldName? (.line
      ("#[serde(" ++ ", ".intercalate (f.arguments.map (·.text)) ++ ")]")) = none := by
    have haside := isAside_attribute
      ("serde(" ++ ", ".intercalate (f.arguments.map (·.text)) ++ ")]")
    rw [← String.append_assoc, ← String.append_assoc] at haside
    exact if_pos haside
  have hline : fieldName? (.line s!"pub {f.name}: Option<{f.type}>,") = some f.name := by
    refine fieldName?_line "pub " f.name (" Option<" ++ f.type ++ ">,") ?_ h (.inr rfl)
    simp [← String.toList_inj, toString]
  rw [blocks, List.filterMap_append, filterMap_fieldName?_docBlocks, List.filterMap_cons_none
    hattribute, List.filterMap_cons_some hline]
  rfl

theorem ServiceField.fieldNames_blocks {f : ServiceField} (h : IsName f.name.toList) :
    f.blocks.filterMap fieldName? = [f.name] := by
  have hline : fieldName? (.line s!"{f.name}: {f.type},") = some f.name := by
    refine fieldName?_line "" f.name (" " ++ f.type ++ ",") ?_ h (.inl rfl)
    simp [← String.toList_inj, toString]
  rw [blocks, List.filterMap_append, filterMap_fieldName?_docBlocks,
    List.filterMap_cons_some hline]
  rfl

/-- A struct declares the fields in its body. -/
theorem fieldNames_struct (documentation : Option String) (derives first : String)
    (body : List Block) :
    fieldNames (docBlocks documentation ++
        [.line derives, .group ("pub struct " ++ first) body "\x7d"]) =
      body.filterMap fieldName? := by
  have hfirst : "pub struct ".toList.isPrefixOf ("pub struct " ++ first).toList = true := by
    rw [String.toList_append, List.isPrefixOf_iff_prefix]
    exact List.prefix_append _ _
  rw [fieldNames_docBlocks, fieldNames]
  simp only [List.flatMap_cons, List.flatMap_nil, List.nil_append, List.append_nil, if_pos hfirst]

theorem fieldNames_model {fields : List ModelField} (h : ∀ f ∈ fields, IsName f.name.toList)
    (documentation : Option String) (name : String) :
    fieldNames (Item.model documentation name fields).blocks = fields.map (·.name) := by
  have hfirst : s!"pub struct {name}" ++ " \x7b" = "pub struct " ++ (name ++ " \x7b") := by
    simp [← String.toList_inj, toString]
  rw [Item.blocks, hfirst, fieldNames_struct, List.filterMap_flatMap,
    List.flatMap_congr fun f hf => f.fieldNames_blocks (h f hf), List.map_eq_flatMap]

theorem fieldNames_service {fields : List ServiceField} (h : ∀ f ∈ fields, IsName f.name.toList)
    (documentation : Option String) (name generics : String) :
    fieldNames (Item.service documentation name generics fields).blocks = fields.map (·.name) := by
  have hfirst : s!"pub struct {name}{generics}" ++ " \x7b" =
      "pub struct " ++ (name ++ generics ++ " \x7b") := by
    simp [← String.toList_inj, toString]
  rw [Item.blocks, hfirst, fieldNames_struct, List.filterMap_flatMap,
    List.flatMap_congr fun f hf => f.fieldNames_blocks (h f hf), List.map_eq_flatMap]

/-- Groups that are no structs declare no fields. -/
theorem fieldNames_eq_nil {blocks : List Block}
    (h : ∀ first body last, .group first body last ∈ blocks →
      "pub struct ".toList.isPrefixOf first.toList = false) : fieldNames blocks = [] := by
  refine List.flatMap_eq_nil_iff.2 fun block hblock => ?_
  cases block with
  | line text => rfl
  | group first body last => exact if_neg (by rw [h first body last hblock]; simp)

/-- What declares no type has no fields. -/
theorem fieldNames_of_typeName?_eq_none {item : Item} (h : item.typeName? = none) :
    fieldNames item.blocks = [] := by
  refine fieldNames_eq_nil fun first body last hgroup => ?_
  cases item with
  | model | service | enumeration => cases h
  | implementation | module | embedded =>
    rw [Item.blocks] at hgroup
    cases List.mem_singleton.1 hgroup
    simp [toString, List.isPrefixOf]
  | submodules | reexports =>
    rw [Item.blocks] at hgroup
    obtain ⟨_, -, hline⟩ := List.mem_map.1 hgroup
    cases hline

/-- An enum has none either. -/
theorem fieldNames_enumeration (documentation : Option String) (name : String)
    (variants : List Variant) :
    fieldNames (Item.enumeration documentation name variants).blocks = [] := by
  rw [Item.blocks, fieldNames_docBlocks]
  refine fieldNames_eq_nil fun first body last hgroup => ?_
  rw [List.mem_pair] at hgroup
  rcases hgroup with hline | hgroup
  · cases hline
  · cases hgroup
    simp [toString, List.isPrefixOf]

/-! ## Implementations -/

/-- The method that a piece of an implementation is. -/
def methodName? : Block → Option String
  | .group first _ _ =>
    if "pub fn ".toList.isPrefixOf first.toList then some (wordBefore '(' first) else none
  | .line _ => none

/-- The names of the methods in an implementation among the blocks. -/
def methodNames (blocks : List Block) : List String :=
  blocks.flatMap fun
    | .group first body _ =>
      if "impl".toList.isPrefixOf first.toList then body.filterMap methodName? else []
    | .line _ => []

/-- Blank lines between groups do not count. -/
theorem filterMap_separated {α : Type} {f : Block → Option α} (hblank : f .blank = none)
    (groups : List (List Block)) :
    (separated groups).filterMap f = groups.flatMap (List.filterMap f) := by
  induction groups with
  | nil => rfl
  | cons group rest ih =>
    by_cases hgroup : group = []
    · rw [hgroup]
      exact ih
    rw [separated_cons_eq hgroup, List.filterMap_append, List.flatMap_cons, ← ih]
    split
    · rename_i hempty
      rw [List.isEmpty_iff.1 hempty]
    · rw [List.filterMap_cons_none hblank]

theorem filterMap_methodName?_lines (texts : List String) :
    (texts.map Block.line).filterMap methodName? = [] := by
  rw [List.filterMap_map]
  exact List.filterMap_eq_nil_iff.2 fun _ _ => rfl

/-- The first line of a method, with something between the parentheses. -/
theorem Signature.text_eq (s : Signature) :
    ∃ params, s.text = "pub fn " ++ s.name ++ "(" ++ params ++ ") -> " ++ s.result ++ " \x7b" :=
  ⟨_, rfl⟩

theorem wordBefore_signature {s : Signature} (h : IsName s.name.toList) :
    wordBefore '(' s.text = s.name := by
  obtain ⟨params, htext⟩ := s.text_eq
  obtain ⟨rest, hrest⟩ : ∃ rest, s.text.toList =
      "pub fn ".toList ++ s.name.toList ++ '(' :: rest := by
    refine ⟨(params ++ ") -> " ++ s.result ++ " \x7b").toList, ?_⟩
    rw [htext]
    simp
  rw [wordBefore_eq hrest h (by decide) (by decide) (by simp), String.ofList_toList]

theorem MethodItem.methodNames_blocks {m : MethodItem} (h : IsName m.signature.name.toList) :
    m.blocks.filterMap methodName? = [m.signature.name] := by
  have hfirst : "pub fn ".toList.isPrefixOf m.signature.text.toList = true := by
    rw [List.isPrefixOf_iff_prefix, Signature.text]
    simp only [String.toList_append, List.append_assoc]
    exact List.prefix_append _ _
  have hgroup : methodName? (.group m.signature.text m.body.blocks "\x7d") =
      some m.signature.name := by
    rw [methodName?, if_pos hfirst, wordBefore_signature h]
  rw [blocks, List.filterMap_append, docBlocks, filterMap_methodName?_lines,
    List.filterMap_cons_some hgroup]
  rfl

/-- **The methods of an implementation** are those that it was made with, in their order. -/
theorem methodNames_implementation {methods : List MethodItem}
    (h : ∀ m ∈ methods, IsName m.signature.name.toList) (name generics : String)
    (constants : List (String × String)) :
    methodNames (Item.implementation name generics constants methods).blocks =
      methods.map (·.signature.name) := by
  have hfirst : "impl".toList.isPrefixOf (s!"impl{generics} {name}{generics}" ++ " \x7b").toList =
      true := by
    simp [toString, List.isPrefixOf]
  rw [Item.blocks, methodNames]
  simp only [List.flatMap_cons, List.flatMap_nil, List.append_nil, if_pos hfirst]
  rw [filterMap_separated rfl, List.flatMap_cons, constantBlocks_eq, filterMap_methodName?_lines,
    List.nil_append, List.flatMap_map,
    List.flatMap_congr fun m hm => m.methodNames_blocks (h m hm), List.map_eq_flatMap]

/-! ## Files -/

/-- What a declaration has for items, stands in a file. -/
theorem exists_placed {rt : String} {a : Api} (h : ProperlyNamed a) {e : Declaration}
    (he : e ∈ a.declarations) {item : Item} (hitem : item ∈ declarationItems rt e) :
    ∃ f ∈ files rt a, ⟨home e.name, item⟩ ∈ f.placed := by
  obtain ⟨others, hperm, -⟩ := (placedAsNamed_files rt h).items
  refine List.mem_flatMap.1 (hperm.mem_iff.2 (List.mem_append_left _ ?_))
  exact List.mem_flatMap.2 ⟨e, he, List.mem_map_of_mem hitem⟩

end ClientGen.Source
