import ClientGen.Proofs.Api.Origin
import ClientGen.Proofs.Source.Implementations

/-!
# String constants in generated source

What the literal of a constant denotes depends on the layout. In files it is the text of the
constant. In one text of nested modules, the source of each class is finished first and then put in
line by line, and the lines inside a literal are indented like all others. `constants_written` says
what is denoted then, and that it is the text of the constant exactly if that has no line feed in
it. For APIs whose constants have some, `multiline_lost` is an example: no literal anywhere in the
one text denotes the root URL.
-/

namespace ClientGen.Source

open Text DeclarationOf

/-! ## The constants of an API -/

variable {n : Naming} {d : Description} {a : Api}

/-- Only clients and methods have constants: a client those of the API, and a method its path. -/
theorem constants_of_origin {c : Class} (h : Origin n d (.ofClass c)) :
    (c.constants = [] ∨ (∃ path, c.constants = [⟨pathConstant, .literal path⟩]) ∨
      c.constants = (Generation.clientRoot n d).constants) ∧
    (c.typeParameters = [] ∨ c.typeParameters = baseRequest.typeParameters) := by
  cases h with
  | schema h =>
    cases h
    exact ⟨.inl rfl, .inl rfl⟩
  | request => exact ⟨.inl rfl, .inr rfl⟩
  | client => exact ⟨.inr (.inr rfl), .inl rfl⟩
  | method site => exact ⟨.inr (.inl ⟨site.method.path, rfl⟩), .inl rfl⟩
  | resource => exact ⟨.inl rfl, .inl rfl⟩

theorem constants_of_model {c : Class} (h : Origin n d (.ofClass c)) (hkind : c.kind = .model) :
    c.constants = [] := by
  cases h with
  | schema h =>
    cases h
    rfl
  | request | client | method | resource => cases hkind

theorem hasPlainNames_of_origin {c : Class} (h : Origin n d (.ofClass c)) : HasPlainNames c := by
  obtain ⟨hconstants, hparameters⟩ := constants_of_origin h
  constructor
  case line =>
    have hgenerics : IsLine (generics c) := by
      rcases hparameters with hparameters | hparameters <;> rw [generics, hparameters] <;> decide
    have htype : IsLine (typeName c.name.simpleName) := isLine_of_isName (isName_typeName _)
    have hstart : IsLine ("impl" ++ generics c) := IsLine.append (by decide) hgenerics
    exact (((hstart.append (by decide)).append htype).append hgenerics).append (by decide)
  case constants =>
    intro constant hmem
    rcases hconstants with hconstants | ⟨path, hconstants⟩ | hconstants
    · rw [hconstants] at hmem
      cases hmem
    · rw [hconstants] at hmem
      rw [List.mem_singleton.1 hmem]
      exact (by decide : IsLine pathConstant)
    · rw [hconstants] at hmem
      have hnames : ∀ name ∈ ["API_TITLE", "API_VERSION", "DEFAULT_ROOT_URL",
          "DEFAULT_SERVICE_PATH", "DEFAULT_BATCH_PATH", "DEFAULT_BASE_URL"], IsLine name := by
        decide
      exact hnames _ (List.mem_map_of_mem hmem)

theorem joinsConstants_of_origin {c : Class} (h : Origin n d (.ofClass c)) : c.JoinsConstants := by
  intro constant hmem names hconcat
  obtain ⟨hconstants, -⟩ := constants_of_origin h
  rcases hconstants with hconstants | ⟨path, hconstants⟩ | hconstants
  · rw [hconstants] at hmem
    cases hmem
  · rw [hconstants] at hmem
    rw [List.mem_singleton.1 hmem] at hconcat
    cases hconcat
  · rw [hconstants] at hmem
    simp only [Generation.clientRoot, List.mem_cons, List.not_mem_nil, or_false] at hmem
    rcases hmem with rfl | rfl | rfl | rfl | rfl | rfl <;> cases hconcat
    refine ⟨[⟨"DEFAULT_ROOT_URL", .literal (d.rootUrl.getD "")⟩,
      ⟨"DEFAULT_SERVICE_PATH", .literal (d.servicePath.getD "")⟩], ?_, ?_⟩
    · simp [Class.constant?, hconstants, Generation.clientRoot]
    · simp [Class.constantText, Class.constant?, hconstants, Generation.clientRoot]

/-- Nothing in a model is a service. -/
theorem services_model (h : d.Generates n a) {c : Class} (hc : c ∈ a.models) :
    services (.ofClass c) = [] := by
  refine List.flatMap_eq_nil_iff.2 fun e he => ?_
  cases allFromSchemas_model h c hc e he <;> rfl

/-- Items that write something show what is in its rows. -/
theorem showsAll_of_writes {Q : Class → List String → Prop} {denoted : String → List Char}
    {items : List Item} {classes : List Class} (h : Writes Q 0 items classes)
    (hshows : ∀ c ∈ classes, ∀ rows, Q c rows → Shows denoted c (endRows rows)) :
    ShowsAll denoted classes (printItems items).toList := by
  obtain ⟨order, horder, hrows⟩ := h
  refine ⟨order, horder, ?_⟩
  rw [printItems, toList_printBlocks]
  exact hrows.flatMap fun c hc => hshows c (horder.mem_iff.1 hc)

/-- The file of a class shows the constants of all services in the class. -/
theorem showsAll_ofClass (rt : String) (directory : List String) (c : Class) :
    ShowsAll String.toList (services (.ofClass c))
      (File.ofClass rt directory c).contents.toList := by
  obtain ⟨order, horder, htext⟩ := showsAll_of_writes (writes_moduleItems rt 0 c)
    fun c _ rows hrows => shows_endRows hrows
  refine ⟨order, horder, ?_⟩
  rw [File.contents, String.toList_append]
  exact htext.append_left _

/-- In one text, the services in the request type and the client are written inside the modules of
the package and the one of the class. -/
theorem writes_inlineItems (rt : String) (a : Api) :
    Writes (IsReindented (a.package.length + 1)) 0 (inlineItems rt a)
      ([a.request, a.client].flatMap fun c => services (.ofClass c)) := by
  have hclass : ∀ c, Writes (IsReindented (a.package.length + 1)) a.package.length
      [classModule rt c] (services (.ofClass c)) :=
    fun c => (writes_moduleItems rt 0 c).embedded _
  have hmodules := (Writes.nothing a.package.length [modelsModule rt a]).append <|
    (hclass a.request).append <| (hclass a.client).append <|
      Writes.nothing a.package.length [.reexports ([a.request, a.client].map reexport)]
  have hdepth : 0 + (packageDirectory a.package).length = a.package.length := by
    simp [packageDirectory]
  refine Writes.foldr_module _ ?_
  rw [hdepth]
  simpa using hmodules

/-- What the source of an API has for the constants in it. -/
structure ConstantsWritten (rt : String) (d : Description) (a : Api) : Prop where
  /-- Only services have constants. -/
  models : ∀ c, .ofClass c ∈ a.declarations → c.kind = .model → c.constants = []
  joined : ∀ c, .ofClass c ∈ a.declarations → c.JoinsConstants
  client : a.client.constantTexts = [
    ("API_TITLE", d.title.getD ""), ("API_VERSION", d.version),
    ("DEFAULT_ROOT_URL", d.rootUrl.getD ""), ("DEFAULT_SERVICE_PATH", d.servicePath.getD ""),
    ("DEFAULT_BATCH_PATH", d.batchPath.getD ""),
    ("DEFAULT_BASE_URL", d.rootUrl.getD "" ++ d.servicePath.getD "")]
  /-- In the file of a class, the literals denote the texts of the constants. -/
  inFiles : ∀ c ∈ a.topLevel,
    File.ofClass rt (packageDirectory c.name.package) c ∈ files rt a ∧
      ShowsAll String.toList (services (.ofClass c))
        (File.ofClass rt (packageDirectory c.name.package) c).contents.toList
  /-- In one text, they denote them with their breaks indented. -/
  inOneText : ShowsAll
    (fun value => indentBreaks (indentation (a.package.length + 1)).toList value.toList)
    (a.topLevel.flatMap fun c => services (.ofClass c)) (inline rt a).toList
  /-- Nothing but a text without line feeds is left as it is. -/
  exactly : ∀ value : String,
    indentBreaks (indentation (a.package.length + 1)).toList value.toList = value.toList ↔
      '\n' ∉ value.toList

/-- **The literals of constants.** In files each denotes the text of its constant. In one text,
where the source of each class is indented anew, the breaks in it are indented too. -/
theorem constants_written {settings : Settings} (h : (d.generate settings).result = .ok a)
    (rt : String) : ConstantsWritten rt d a := by
  have hgenerates := generates_of_generate h
  have hnamed := properlyNamed_of_generate h
  have horigin : ∀ c, .ofClass c ∈ a.declarations → Origin (d.naming settings) d (.ofClass c) :=
    fun c hc => origin_of_mem_declarations hgenerates (.ofClass c) hc
  constructor
  case models =>
    exact fun c hc hkind => constants_of_model (horigin c hc) hkind
  case joined => exact fun c hc => joinsConstants_of_origin (horigin c hc)
  case client =>
    rw [hgenerates.client]
    simp [Class.constantTexts, Class.constantText, Class.constant?, Component.Draft.nestAll,
      Generation.clientRoot]
  case inFiles =>
    intro c hc
    refine ⟨mem_files.2 ?_, showsAll_ofClass rt _ c⟩
    rcases List.mem_append.1 hc with hc | hc
    · rw [(hnamed.models c hc).1]
      exact .inr (.inr (.inl ⟨c, hc, rfl⟩))
    · rw [(hnamed.services c hc).1]
      exact .inl ⟨c, hc, rfl⟩
  case inOneText =>
    have hmodels : (a.models.flatMap fun c => services (.ofClass c)) = [] :=
      List.flatMap_eq_nil_iff.2 fun c hc => services_model hgenerates hc
    rw [Api.topLevel, List.flatMap_append, hmodels, List.nil_append]
    refine showsAll_of_writes (writes_inlineItems rt a) fun c hc rows hrows => ?_
    refine shows_reindented (hasPlainNames_of_origin (horigin c ?_)) hrows
    obtain ⟨top, htop, hc⟩ := List.mem_flatMap.1 hc
    exact List.mem_flatMap.2 ⟨top, List.mem_append_right _ htop, (mem_services hc).1⟩
  case exactly =>
    intro value
    rw [toList_indentation]
    refine indentBreaks_eq_self_iff ?_ ?_
    · simp
    · simp [List.mem_replicate]

/-- A base URL with a quote, a backslash and a line feed in it. -/
theorem constants_written_shelves :
    let d : Description :=
      { Description.shelves with rootUrl := some "a\"b\\c\n", servicePath := some "d/" }
    ∃ a, (d.generate {}).result = .ok a ∧
      ("DEFAULT_BASE_URL", "a\"b\\c\nd/") ∈ a.client.constantTexts ∧
        ConstantsWritten "discovery_runtime" d a := by
  intro d
  obtain ⟨a, h⟩ : ∃ a, (d.generate {}).result = .ok a :=
    isOk_iff.1 (by decide +kernel)
  have hwritten := constants_written h "discovery_runtime"
  refine ⟨a, h, ?_, hwritten⟩
  rw [hwritten.client]
  decide

/-! ### Literals that are lost -/

/-- The row has no line feed, and begins as indented lines and modules do. -/
structure Regular (r : String) : Prop where
  line : '\n' ∉ r.toList
  start : ∀ c ∈ r.toList.head?, c ∈ [' ', 'p', '}']

theorem regular_row_blank (depth : Nat) : Regular (row depth "") :=
  ⟨by simp [row], by simp [row]⟩

theorem regular_row {text : String} {depth : Nat} (hline : '\n' ∉ text.toList)
    (hstart : depth = 0 → ∀ c ∈ text.toList.head?, c ∈ [' ', 'p', '}']) :
    Regular (row depth text) := by
  by_cases hnil : text.toList = []
  · have htext : text = "" := by simpa using hnil
    rw [htext]
    exact regular_row_blank depth
  have hrow := toList_row_of_ne_nil hnil depth
  constructor
  · rw [hrow]
    simp [hline, List.mem_replicate]
  · rw [hrow]
    cases depth with
    | zero => simpa using hstart rfl
    | succ depth =>
      rw [Nat.mul_succ, List.replicate_succ]
      simp

/-- A line of which the first character is known, at any depth. -/
theorem regular_row_of_head {text : String} {c : Char} (hline : IsLine text)
    (hhead : text.toList.head? = some c) (hc : c ∈ [' ', 'p', '}']) (depth : Nat) :
    Regular (row depth text) := by
  refine regular_row hline.1 fun _ c' hc' => ?_
  rw [hhead] at hc'
  exact Option.some.inj hc' ▸ hc

/-- The rows of the item are regular. -/
def IsRegular (depth : Nat) (item : Item) : Prop :=
  ∀ block ∈ item.blocks, ∀ r ∈ block.rows depth, Regular r

theorem regular_of_mem_rowsOf {depth : Nat} {items : List Item}
    (h : ∀ item ∈ items, IsRegular depth item) :
    ∀ r ∈ rowsOf depth (separated (itemBlocks items)), Regular r := by
  intro r hr
  obtain ⟨block, hblock, hr⟩ := mem_rowsOf hr
  rw [itemBlocks_eq_map] at hblock
  rcases mem_separated hblock with rfl | ⟨group, hgroup, hblock⟩
  · rw [List.mem_singleton.1 hr]
    exact regular_row_blank depth
  · obtain ⟨item, hitem, rfl⟩ := List.mem_map.1 hgroup
    exact h item hitem block hblock r hr

/-- The rows of a block for a module are regular, if those in it are. -/
theorem regular_of_mem_group {depth : Nat} {name : String} (hname : IsLine name) {body : List Block}
    (h : ∀ r ∈ rowsOf (depth + 1) body, Regular r) :
    ∀ block ∈ [Block.group (s!"pub mod {name}" ++ " \x7b") body "\x7d"],
      ∀ r ∈ block.rows depth, Regular r := by
  intro block hblock r hr
  rw [List.mem_singleton] at hblock
  rw [hblock, Block.rows, List.mem_append, List.mem_cons, List.mem_singleton] at hr
  have hline : IsLine (s!"pub mod {name}" ++ " \x7b") :=
    IsLine.append (IsLine.append (by decide) hname) (by decide)
  have hhead : (s!"pub mod {name}" ++ " \x7b").toList.head? = some 'p' := by
    rw [String.toList_append, String.toList_append]
    rfl
  generalize s!"pub mod {name}" ++ " \x7b" = first at hr hline hhead
  rcases hr with (rfl | hr) | rfl
  · exact regular_row_of_head hline hhead (by decide) depth
  · exact h r hr
  · have hclose : "\x7d".toList.head? = some '}' := by decide
    exact regular_row_of_head (by decide) hclose (by decide) depth

theorem isRegular_module {depth : Nat} {name : String} {items : List Item} (hname : IsLine name)
    (h : ∀ item ∈ items, IsRegular (depth + 1) item) : IsRegular depth (.module name items) := by
  rw [IsRegular, Item.blocks]
  exact regular_of_mem_group hname (regular_of_mem_rowsOf h)

/-- Whatever text is put in line by line, its lines are indented. -/
theorem isRegular_embedded {depth : Nat} {name : String} (hname : IsLine name)
    (items : List Item) : IsRegular depth (.embedded name items) := by
  rw [IsRegular, Item.blocks]
  refine regular_of_mem_group hname fun r hr => ?_
  rw [rowsOf_reindented (depth + 1) (toList_printBlocks 0 _)] at hr
  obtain ⟨own, -, hr⟩ := List.mem_flatMap.1 hr
  obtain ⟨line, hline, rfl⟩ := List.mem_map.1 hr
  refine regular_row ?_ (by simp)
  rw [String.toList_ofList]
  obtain ⟨piece, hpiece, rfl⟩ := List.mem_map.1 hline
  exact fun hmem => not_mem_of_mem_pieces piece hpiece (mem_of_mem_dropReturn hmem)

theorem isRegular_reexports (depth : Nat) (cs : List Class) :
    IsRegular depth (.reexports (cs.map reexport)) := by
  intro block hblock r hr
  rw [Item.blocks, reexportBlocks, List.map_map] at hblock
  obtain ⟨c, -, rfl⟩ := List.mem_map.1 hblock
  rw [Function.comp_apply, reexport, Block.rows, List.mem_singleton] at hr
  have hmodule : IsLine (moduleName c.simpleName) := isLine_of_isName (isName_moduleName _)
  have htype : IsLine (typeName c.simpleName) := isLine_of_isName (isName_typeName _)
  generalize moduleName c.simpleName = module at hr hmodule
  generalize typeName c.simpleName = type at hr htype
  have hline : IsLine s!"pub use {module}::{type};" :=
    (((IsLine.append (by decide) hmodule).append (by decide)).append htype).append (by decide)
  have hhead : s!"pub use {module}::{type};".toList.head? = some 'p' := by
    rw [String.toList_append, String.toList_append, String.toList_append, String.toList_append]
    rfl
  rw [hr]
  exact regular_row_of_head hline hhead (by decide) depth

theorem isRegular_foldr_module {directory : List String} {items : List Item}
    (hdirectory : ∀ name ∈ directory, IsLine name)
    (h : ∀ depth, ∀ item ∈ items, IsRegular depth item) :
    ∀ depth, ∀ item ∈ directory.foldr (fun name items => [.module name items]) items,
      IsRegular depth item := by
  induction directory with
  | nil => exact h
  | cons name rest ih =>
    obtain ⟨hname, hrest⟩ := List.forall_mem_cons.1 hdirectory
    intro depth item hitem
    rw [List.foldr_cons, List.mem_singleton] at hitem
    rw [hitem]
    exact isRegular_module hname (ih hrest (depth + 1))

theorem isRegular_classModule (rt : String) (depth : Nat) (c : Class) :
    IsRegular depth (classModule rt c) :=
  isRegular_embedded (isLine_of_isName (isName_moduleName _)) _

theorem isRegular_modelsModule (rt : String) (depth : Nat) (a : Api) :
    IsRegular depth (modelsModule rt a) := by
  have hname : IsLine ((a.modelPackage.getLast?.map moduleName).getD modelSegment) := by
    cases a.modelPackage.getLast? with
    | none => exact (by decide : IsLine modelSegment)
    | some segment =>
      rw [Option.map_some, Option.getD_some]
      exact isLine_of_isName (isName_moduleName segment)
  refine isRegular_module hname fun item hitem => ?_
  rcases List.mem_append.1 hitem with hitem | hitem
  · obtain ⟨c, -, rfl⟩ := List.mem_map.1 hitem
    exact isRegular_classModule rt _ c
  · rw [List.mem_singleton] at hitem
    rw [hitem]
    exact isRegular_reexports _ _

/-- In one text, all rows are regular. -/
theorem isRegular_inlineItems (rt : String) (a : Api) :
    ∀ depth, ∀ item ∈ inlineItems rt a, IsRegular depth item := by
  refine isRegular_foldr_module ?_ ?_
  · intro name hname
    obtain ⟨segment, -, rfl⟩ := List.mem_map.1 hname
    exact isLine_of_isName (isName_moduleName segment)
  · intro depth item hitem
    simp only [List.map_cons, List.map_nil, List.cons_append, List.nil_append, List.mem_cons,
      List.not_mem_nil, or_false] at hitem
    rcases hitem with hitem | hitem | hitem | hitem <;> rw [hitem]
    · exact isRegular_modelsModule rt depth a
    · exact isRegular_classModule rt depth _
    · exact isRegular_classModule rt depth _
    · exact isRegular_reexports depth [a.request, a.client]

/-- In one text, a line feed is followed by an indented line, a module or the end of one. -/
theorem starts_of_inline (rt : String) (a : Api) {before after : List Char} {c : Char}
    (htext : (inline rt a).toList = before ++ '\n' :: c :: after) : c ∈ ['\n', ' ', 'p', '}'] := by
  have hregular := regular_of_mem_rowsOf (isRegular_inlineItems rt a 0)
  rw [inline, printItems, toList_printBlocks] at htext
  have hpieces := pieces_endRows fun r hr => (hregular r hr).line
  rw [htext, pieces_append] at hpieces
  by_cases hc : c = '\n'
  · rw [hc]
    decide
  have hmem : c :: (cut '\n' after).1 ∈ pieces '\n' (c :: after) := by
    simp [pieces, cut, hc]
  have hrow := List.mem_append_right (pieces '\n' before) hmem
  rw [hpieces, List.mem_append] at hrow
  rcases hrow with hrow | hrow
  · obtain ⟨r, hr, hrow⟩ := List.mem_map.1 hrow
    refine List.mem_cons_of_mem _ ((hregular r hr).start c ?_)
    rw [hrow]
    rfl
  · cases List.mem_singleton.1 hrow

/-- If a line of a text begins as no line of source does, nothing in the one text denotes it. -/
theorem not_hasLiteral_inline (rt : String) (a : Api) (name : String)
    {before after : List Char} {c : Char} (hc : c ∉ ['\n', ' ', 'p', '}']) :
    ¬ HasLiteral name (before ++ '\n' :: c :: after) (inline rt a).toList := by
  rintro ⟨start, literal, rest, htext, hread⟩
  obtain ⟨front, c', others, rfl, hc'⟩ := hasFeedBefore_of_readLiteral hread
  rw [← List.append_assoc] at htext
  have hstart := starts_of_inline rt a htext
  rcases hc' with rfl | rfl
  · exact hc hstart
  · exact absurd hstart (by decide)

/-- An API whose root URL goes over two lines. -/
def multiline : Description where
  name := "books"
  version := "v1"
  rootUrl := some "a\nb"

/-- The root URL is a constant of the client, but no literal in the one text denotes it. -/
theorem multiline_lost :
    ∃ a, (multiline.generate {}).result = .ok a ∧
      ("DEFAULT_ROOT_URL", "a\nb") ∈ a.client.constantTexts ∧
      ¬ HasLiteral "DEFAULT_ROOT_URL" "a\nb".toList (inline "discovery_runtime" a).toList ∧
        ¬ ShowsAll String.toList (a.topLevel.flatMap fun c => services (.ofClass c))
          (inline "discovery_runtime" a).toList := by
  have hclient : (multiline.generate {}).result.toOption.any (fun a =>
      decide (a.client.kind ≠ .model) &&
        decide (("DEFAULT_ROOT_URL", "a\nb") ∈ a.client.constantTexts)) = true := by
    decide +kernel
  obtain ⟨a, h, hclient⟩ := Traced.exists_of_any hclient
  obtain ⟨hkind, hconstant⟩ : a.client.kind ≠ .model ∧ _ := by simpa using hclient
  have hvalue : "a\nb".toList = ['a'] ++ '\n' :: 'b' :: [] := by decide
  have hlost : ¬ HasLiteral "DEFAULT_ROOT_URL" (['a'] ++ '\n' :: 'b' :: [])
      (inline "discovery_runtime" a).toList := not_hasLiteral_inline _ a _ (by decide)
  rw [← hvalue] at hlost
  have hmem : a.client ∈ a.topLevel.flatMap fun c => services (.ofClass c) := by
    refine List.mem_flatMap.2 ⟨a.client, by simp [Api.topLevel], ?_⟩
    rw [services_eq, ownService, if_neg hkind]
    exact List.mem_cons_self
  refine ⟨a, h, hconstant, hlost, fun hall => ?_⟩
  have hfound := hall.hasLiteral hmem hconstant
  exact hlost hfound

end ClientGen.Source
