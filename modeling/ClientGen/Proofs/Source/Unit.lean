import ClientGen.Proofs.Source.Name
import ClientGen.Proofs.Text.Lines
import ClientGen.Source.File

/-!
# What stands in a source file

Files are known by where they are and by their lines. A file with proper names is found by cutting
its path at the slashes, `isAt_unit`. The lines of an index are those for its modules and for its
types, and no others that look like them, `mem_lines_index`. The file of a class has the line that
declares its struct, `declaresStruct_ofClass`.
-/

namespace ClientGen.Source

open Text

/-! ## Classes and indexes -/

section

variable (rt : String) (directory modules : List String) (types : List (String × String))
  (c : Class)

@[simp] theorem directory_ofClass : (File.ofClass rt directory c).directory = directory := rfl

@[simp] theorem module_ofClass :
    (File.ofClass rt directory c).module = moduleName c.simpleName := by
  simp only [File.ofClass]

@[simp] theorem directory_index : (File.index directory modules types).directory = directory := rfl

@[simp] theorem module_index : (File.index directory modules types).module = indexModule := rfl

@[simp] theorem fst_reexport : (reexport c).1 = moduleName c.simpleName := by
  simp only [reexport]

theorem reexport_eq : reexport c = (moduleName c.simpleName, typeName c.simpleName) := by
  simp only [reexport]

@[simp] theorem snd_reexport : (reexport c).2 = typeName c.simpleName := by
  simp only [reexport]

end

theorem moduleName_ne_indexModule (name : String) : moduleName name ≠ indexModule :=
  moduleName_ne_mod name

/-- No file of a class is an index. -/
theorem ofClass_ne_index {rt : String} {directory other modules : List String}
    {types : List (String × String)} {c : Class} :
    File.ofClass rt directory c ≠ File.index other modules types := by
  intro h
  have hmodule := congrArg File.module h
  rw [module_ofClass, module_index] at hmodule
  exact moduleName_ne_indexModule c.simpleName hmodule

theorem ofClass_inj {rt : String} {directory other : List String} {c c' : Class}
    (h : File.ofClass rt directory c = File.ofClass rt other c') :
    directory = other ∧ moduleName c.simpleName = moduleName c'.simpleName := by
  have hdirectory := congrArg File.directory h
  have hmodule := congrArg File.module h
  rw [module_ofClass, module_ofClass] at hmodule
  exact ⟨hdirectory, hmodule⟩

theorem index_inj {directory other modules modules' : List String}
    {types types' : List (String × String)}
    (h : File.index directory modules types = File.index other modules' types') :
    directory = other ∧ modules = modules' ∧ types = types' := by
  simpa [File.index] using h

/-! ## Paths -/

/-- The unit is the file of a module in a directory. -/
def SourceUnit.IsAt (u : SourceUnit) (directory : List String) (module : String) : Prop :=
  split '/' u.path = directory ++ [module ++ ".rs"]

/-- The directory and the module of the file have proper names. -/
structure File.Named (f : File) : Prop where
  directory : ∀ segment ∈ f.directory, IsName segment.toList
  module : IsName f.module.toList

/-- The path of a file says where it is, and nothing else. -/
theorem isAt_unit {f : File} (h : f.Named) {directory : List String} {module : String} :
    f.unit.IsAt directory module ↔ directory = f.directory ∧ module = f.module := by
  have hsegments : ∀ segment ∈ f.directory ++ [f.module ++ ".rs"], '/' ∉ segment.toList := by
    intro segment hsegment
    rcases List.mem_append.1 hsegment with hsegment | hsegment
    · exact (h.directory segment hsegment).not_mem (by decide)
    · cases List.mem_singleton.1 hsegment
      have hmodule : '/' ∉ f.module.toList := h.module.not_mem (by decide)
      simpa using hmodule
  have hsplit : split '/' f.unit.path = f.directory ++ [f.module ++ ".rs"] :=
    split_intercalate (by simp) hsegments
  rw [SourceUnit.IsAt, hsplit]
  constructor
  · intro heq
    obtain ⟨hdirectory, hfile⟩ := List.append_inj' heq rfl
    have hmodule : f.module ++ ".rs" = module ++ ".rs" := (List.cons.inj hfile).1
    exact ⟨hdirectory.symm, (String.append_left_inj _).1 hmodule.symm⟩
  · rintro ⟨rfl, rfl⟩
    rfl

/-! ## Printing -/

theorem printBlocks_append (depth : Nat) (blocks more : List Block) :
    printBlocks depth (blocks ++ more) = printBlocks depth blocks ++ printBlocks depth more := by
  induction blocks with
  | nil => simp [printBlocks]
  | cons b rest ih => simp [printBlocks, ih, String.append_assoc]

/-- A line outside all blocks is not indented. -/
theorem printLine_zero (text : String) : printLine 0 text = text ++ "\n" := by
  unfold printLine
  split
  · rename_i h
    rw [h]
    rfl
  · have hnone : indentation 0 = "" := rfl
    rw [hnone, String.empty_append]

theorem toList_printBlocks_lines (texts : List String) :
    (printBlocks 0 (texts.map .line)).toList =
      (texts.map String.toList).flatMap (· ++ ['\n']) := by
  induction texts with
  | nil => rfl
  | cons text rest ih =>
    rw [List.map_cons, printBlocks, Block.print, printLine_zero, String.toList_append,
      String.toList_append, ih]
    rfl

/-! ## Indexes -/

/-- The line for a module that has a file of its own. -/
def submoduleLine (module : String) : String :=
  "pub mod " ++ module ++ ";"

/-- The line for a type that can be reached directly. -/
def reexportLine (module type : String) : String :=
  "pub use " ++ module ++ "::" ++ type ++ ";"

/-- The lines of an index below its header. -/
def indexLines (modules : List String) (types : List (String × String)) : List String :=
  modules.map submoduleLine ++ (if modules = [] ∨ types = [] then [] else [""]) ++
    types.map fun t => reexportLine t.1 t.2

theorem printItems_index (modules : List String) (types : List (String × String)) :
    printItems [.submodules modules, .reexports types] =
      printBlocks 0 ((indexLines modules types).map .line) := by
  have hmodules : (Item.submodules modules).blocks = (modules.map submoduleLine).map .line := by
    rw [Item.blocks, List.map_map]
    rfl
  have htypes : (Item.reexports types).blocks =
      (types.map fun t => reexportLine t.1 t.2).map .line := by
    rw [Item.blocks, reexportBlocks, List.map_map]
    rfl
  rw [printItems, itemBlocks, itemBlocks, itemBlocks, hmodules, htypes]
  cases modules with
  | nil =>
    cases types with
    | nil => rfl
    | cons t rest => simp [separated, indexLines]
  | cons m others =>
    cases types with
    | nil => simp [separated, indexLines]
    | cons t rest => simp [separated, indexLines, Block.blank]

theorem isLine_of_isName {s : String} (h : IsName s.toList) : IsLine s :=
  ⟨h.not_mem (by decide), h.not_mem (by decide)⟩

/-- The lines of an index are its header, a blank line, and those for its modules and types. -/
theorem lines_index {directory modules : List String} {types : List (String × String)}
    (hmodules : ∀ m ∈ modules, IsName m.toList)
    (htypes : ∀ t ∈ types, IsName t.1.toList ∧ IsName t.2.toList) :
    lines (File.index directory modules types).contents =
      header :: "" :: indexLines modules types := by
  refine lines_of_toList ?_ ?_
  · intro l hl
    rw [indexLines, List.mem_cons, List.mem_cons, List.mem_append, List.mem_append] at hl
    rcases hl with rfl | rfl | (hl | hl) | hl
    · decide
    · decide
    · obtain ⟨m, hm, rfl⟩ := List.mem_map.1 hl
      exact (IsLine.append (by decide) (isLine_of_isName (hmodules m hm))).append (by decide)
    · have hblank : l = "" := by
        split at hl
        · cases hl
        · exact List.mem_singleton.1 hl
      rw [hblank]
      decide
    · obtain ⟨t, ht, rfl⟩ := List.mem_map.1 hl
      obtain ⟨hmodule, htype⟩ := htypes t ht
      have hpath := (IsLine.append (s := "pub use ") (by decide) (isLine_of_isName hmodule)).append
        (t := "::") (by decide)
      exact (hpath.append (isLine_of_isName htype)).append (by decide)
  · have hcontents : (File.index directory modules types).contents =
        header ++ "\n\n" ++ printBlocks 0 ((indexLines modules types).map .line) := by
      rw [← printItems_index]
      rfl
    rw [hcontents, String.toList_append, String.toList_append, toList_printBlocks_lines]
    simp

theorem toList_submoduleLine (m : String) :
    (submoduleLine m).toList = 'p' :: 'u' :: 'b' :: ' ' :: 'm' :: 'o' :: 'd' :: ' ' ::
      (m.toList ++ [';']) := by
  simp [submoduleLine]

theorem toList_reexportLine (m t : String) :
    (reexportLine m t).toList = 'p' :: 'u' :: 'b' :: ' ' :: 'u' :: 's' :: 'e' :: ' ' ::
      (m.toList ++ ':' :: ':' :: (t.toList ++ [';'])) := by
  simp [reexportLine]

theorem submoduleLine_inj {m m' : String} (h : submoduleLine m = submoduleLine m') : m = m' := by
  have hchars := congrArg String.toList h
  simp only [toList_submoduleLine, List.cons.injEq, true_and] at hchars
  exact String.toList_inj.1 (List.append_cancel_right hchars)

/-- A path of two names can be read in one way only. -/
theorem reexportLine_inj {m t m' t' : String} (hm : IsName m'.toList) (ht : IsName t'.toList)
    (h : reexportLine m t = reexportLine m' t') : m = m' ∧ t = t' := by
  have hcolon : isNameChar ':' = false := by decide
  have hchars : m.toList ++ ':' :: ':' :: t.toList = m'.toList ++ ':' :: ':' :: t'.toList := by
    have := congrArg String.toList h
    rw [toList_reexportLine, toList_reexportLine] at this
    have hend : (m.toList ++ ':' :: ':' :: t.toList) ++ [';'] =
        (m'.toList ++ ':' :: ':' :: t'.toList) ++ [';'] := by simpa using this
    exact List.append_cancel_right hend
  have hcut : ∀ a b : List Char, pieces ':' (a ++ ':' :: ':' :: b) =
      pieces ':' a ++ [] :: pieces ':' b := by
    intro a b
    rw [pieces_append, ← List.nil_append (':' :: b), pieces_append]
    rfl
  have hpieces := congrArg (pieces ':') hchars
  rw [hcut, hcut, pieces_of_not_mem (hm.not_mem hcolon), pieces_of_not_mem (ht.not_mem hcolon)]
    at hpieces
  -- both sides have three pieces, so there is one on either side of the empty one
  have hlength := congrArg List.length hpieces
  simp only [List.length_append, List.length_cons, List.length_nil, pieces] at hlength
  have hfirst : (cut ':' m.toList).2 = [] := List.eq_nil_of_length_eq_zero (by omega)
  have hsecond : (cut ':' t.toList).2 = [] := List.eq_nil_of_length_eq_zero (by omega)
  have hm' := intercalate_pieces ':' m.toList
  have ht' := intercalate_pieces ':' t.toList
  simp only [pieces, hfirst, hsecond, List.intercalate_singleton] at hpieces hm' ht'
  simp only [List.singleton_append, List.cons.injEq, true_and, and_true] at hpieces
  exact ⟨String.toList_inj.1 (hm'.symm.trans hpieces.1),
    String.toList_inj.1 (ht'.symm.trans hpieces.2)⟩

theorem submoduleLine_ne_reexportLine (m m' t : String) : submoduleLine m ≠ reexportLine m' t := by
  intro h
  have hchars := congrArg String.toList h
  simp [toList_submoduleLine, toList_reexportLine] at hchars

/-- The lines that begin like those for modules and types are in the list for them. -/
theorem mem_indexLines_of_mem_lines {directory modules : List String}
    {types : List (String × String)} (hmodules : ∀ m ∈ modules, IsName m.toList)
    (htypes : ∀ t ∈ types, IsName t.1.toList ∧ IsName t.2.toList) {l : String}
    (hl : l ∈ lines (File.index directory modules types).contents)
    (hpub : "pub ".toList <+: l.toList) :
    (∃ m ∈ modules, l = submoduleLine m) ∨ ∃ t ∈ types, l = reexportLine t.1 t.2 := by
  rw [lines_index hmodules htypes, List.mem_cons, List.mem_cons, indexLines, List.mem_append,
    List.mem_append] at hl
  rcases hl with rfl | rfl | (hl | hl) | hl
  · exact absurd hpub (by decide)
  · exact absurd hpub (by decide)
  · obtain ⟨m, hm, rfl⟩ := List.mem_map.1 hl
    exact .inl ⟨m, hm, rfl⟩
  · have hblank : l = "" := by
      split at hl
      · cases hl
      · exact List.mem_singleton.1 hl
    rw [hblank] at hpub
    exact absurd hpub (by decide)
  · obtain ⟨t, ht, rfl⟩ := List.mem_map.1 hl
    exact .inr ⟨t, ht, rfl⟩

/-- Which modules an index has lines for. -/
theorem submoduleLine_mem_index {directory modules : List String} {types : List (String × String)}
    (hmodules : ∀ m ∈ modules, IsName m.toList)
    (htypes : ∀ t ∈ types, IsName t.1.toList ∧ IsName t.2.toList) {m : String} :
    submoduleLine m ∈ lines (File.index directory modules types).contents ↔ m ∈ modules := by
  constructor
  · intro hl
    have hpub : "pub ".toList <+: (submoduleLine m).toList := ⟨_, (toList_submoduleLine m).symm⟩
    rcases mem_indexLines_of_mem_lines hmodules htypes hl hpub with ⟨m', hm', h⟩ | ⟨t, -, h⟩
    · exact submoduleLine_inj h ▸ hm'
    · exact absurd h (submoduleLine_ne_reexportLine _ _ _)
  · intro hm
    rw [lines_index hmodules htypes, indexLines]
    simp only [List.mem_cons, List.mem_append]
    exact .inr (.inr (.inl (.inl (List.mem_map_of_mem hm))))

/-- Which types an index has lines for. -/
theorem reexportLine_mem_index {directory modules : List String} {types : List (String × String)}
    (hmodules : ∀ m ∈ modules, IsName m.toList)
    (htypes : ∀ t ∈ types, IsName t.1.toList ∧ IsName t.2.toList) {m t : String} :
    reexportLine m t ∈ lines (File.index directory modules types).contents ↔ (m, t) ∈ types := by
  constructor
  · intro hl
    have hpub : "pub ".toList <+: (reexportLine m t).toList := ⟨_, (toList_reexportLine m t).symm⟩
    rcases mem_indexLines_of_mem_lines hmodules htypes hl hpub with ⟨m', -, h⟩ | ⟨t', ht', h⟩
    · exact absurd h.symm (submoduleLine_ne_reexportLine _ _ _)
    · obtain ⟨hmodule, htype⟩ := htypes t' ht'
      obtain ⟨rfl, rfl⟩ := reexportLine_inj hmodule htype h
      exact ht'
  · intro ht
    rw [lines_index hmodules htypes, indexLines]
    simp only [List.mem_cons, List.mem_append]
    exact .inr (.inr (.inr (List.mem_map.2 ⟨(m, t), ht, rfl⟩)))

/-! ## Structs -/

/-- The text has a line that declares a struct, with type parameters or without. -/
def DeclaresStruct (contents type : String) : Prop :=
  ∃ line ∈ lines contents,
    line = "pub struct " ++ type ++ " \x7b" ∨ ∃ more, line = "pub struct " ++ type ++ "<" ++ more

/-- The line that opens a struct. -/
def structLine (type parameters : String) : String :=
  "pub struct " ++ type ++ parameters ++ " \x7b"

/-- Type parameters as they are written: none, or in brackets. -/
def IsParameters (parameters : String) : Prop :=
  parameters = "" ∨ ∃ more, parameters = "<" ++ more

theorem isParameters_generics (c : Class) : IsParameters (generics c) := by
  unfold generics
  split
  · exact .inl rfl
  · exact .inr ⟨_, String.append_assoc⟩

/-- The first item of a class is its struct. -/
theorem blocks_classItems (rt : String) (c : Class) :
    ∃ item rest before derives parameters body, classItems rt c = item :: rest ∧
      IsParameters parameters ∧
      item.blocks = before ++
        [.line derives, .group (structLine (typeName c.simpleName) parameters) body "\x7d"] := by
  unfold classItems
  split
  · refine ⟨_, [], docBlocks c.documentation, modelDerives, "",
      (c.fields.map (modelField rt)).flatMap (·.blocks), rfl, .inl rfl, ?_⟩
    rw [structLine, String.append_empty]
    rfl
  · exact ⟨_, _, docBlocks c.documentation, serviceDerives, generics c,
      (serviceFields rt c).flatMap (·.blocks), rfl, isParameters_generics c, rfl⟩

/-- Of several groups the first comes first. -/
theorem separated_cons {group : List Block} (h : group ≠ []) (rest : List (List Block)) :
    ∃ more, separated (group :: rest) = group ++ more := by
  obtain ⟨block, blocks, rfl⟩ := List.exists_cons_of_ne_nil h
  simp only [separated]
  split
  · exact ⟨[], (List.append_nil _).symm⟩
  · exact ⟨_, rfl⟩

/-- Of several items the first is printed first. -/
theorem printItems_cons {item : Item} (rest : List Item) (h : item.blocks ≠ []) :
    ∃ more, printItems (item :: rest) = printBlocks 0 item.blocks ++ more := by
  obtain ⟨more, hmore⟩ := separated_cons h (itemBlocks rest)
  rw [printItems, itemBlocks, hmore]
  exact ⟨_, printBlocks_append 0 _ _⟩

/-- The struct of a class stands on a line of its own. -/
theorem toList_contents_ofClass (rt : String) (directory : List String) (c : Class) :
    ∃ before parameters after, IsParameters parameters ∧
      (File.ofClass rt directory c).contents.toList =
        before ++ '\n' :: ((structLine (typeName c.simpleName) parameters).toList ++
          '\n' :: after) := by
  obtain ⟨item, rest, documentation, derives, parameters, body, hitems, hparameters, hblocks⟩ :=
    blocks_classItems rt c
  obtain ⟨more, hmore⟩ : ∃ more,
      printItems (moduleItems rt c) = printBlocks 0 item.blocks ++ more := by
    rw [moduleItems, hitems, List.append_assoc, List.cons_append]
    exact printItems_cons _ (by simp [hblocks])
  refine ⟨(header ++ "\n\n" ++ printBlocks 0 documentation ++ derives).toList, parameters,
    (printBlocks 1 body ++ "\x7d\n" ++ more).toList, hparameters, ?_⟩
  have hcontents : (File.ofClass rt directory c).contents =
      header ++ "\n\n" ++ printItems (moduleItems rt c) := rfl
  rw [hcontents, hmore, hblocks, printBlocks_append]
  simp [printBlocks, Block.print, printLine_zero]

/-- **The file of a class declares its struct.** -/
theorem declaresStruct_ofClass (rt : String) (directory : List String) (c : Class) :
    DeclaresStruct (File.ofClass rt directory c).contents (typeName c.simpleName) := by
  obtain ⟨before, parameters, after, hparameters, hcontents⟩ :=
    toList_contents_ofClass rt directory c
  have hlines : ∀ {l : List Char},
      l ∈ linesOf ((structLine (typeName c.simpleName) parameters).toList ++ '\n' :: after) →
        String.ofList l ∈ lines (File.ofClass rt directory c).contents := by
    intro l hl
    rw [lines, hcontents, linesOf_append]
    exact List.mem_map_of_mem (List.mem_append_right _ hl)
  have hname : IsLine ("pub struct " ++ typeName c.simpleName) :=
    IsLine.append (by decide) (isLine_of_isName (isName_typeName c.simpleName))
  rcases hparameters with rfl | ⟨more, rfl⟩
  · have hline : IsLine (structLine (typeName c.simpleName) "") :=
      (hname.append (by decide)).append (by decide)
    refine ⟨structLine (typeName c.simpleName) "", ?_, .inl ?_⟩
    · have hmem := hlines (by rw [linesOf_line hline.1 hline.2]; exact List.mem_cons_self)
      rwa [String.ofList_toList] at hmem
    · rw [structLine, String.append_empty]
  · -- what the parameters are called is not known, so only the beginning of the line is
    have hopening : IsLine ("pub struct " ++ typeName c.simpleName ++ "<") :=
      hname.append (by decide)
    have hnonempty : ("pub struct " ++ typeName c.simpleName ++ "<").toList ≠ [] := by simp
    have hsplit : (structLine (typeName c.simpleName) ("<" ++ more)).toList ++ '\n' :: after =
        ("pub struct " ++ typeName c.simpleName ++ "<").toList ++
          ((more ++ " \x7b").toList ++ '\n' :: after) := by
      simp [structLine]
    rw [hsplit] at hlines
    obtain ⟨ending, hend⟩ := exists_line_of_prefix hopening.1 hopening.2 hnonempty _
    refine ⟨_, hlines hend, .inr ⟨String.ofList ending, ?_⟩⟩
    rw [String.ofList_append, String.ofList_toList]

end ClientGen.Source
