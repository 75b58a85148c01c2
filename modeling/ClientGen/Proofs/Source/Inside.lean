import ClientGen.Proofs.Files.Places
import ClientGen.Proofs.Source.ModuleTree

/-!
# Files stay below the output directory

Packages and types are named by documents, with slashes, periods, nothing at all or whatever else
there is in a name. Before such a name becomes that of a directory or a file it is mangled, and what
is left is a path that only leads downwards, `paths_inside`: it is relative, and each of its names
is that of something in the directory before.

`Path.IsInside` says this of the text of a path, for the separators of all systems. Joined to a
directory, such a path adds its names to those of the directory, `names_join`, and in a tree of
files it leads to the place with just these names below the directory, `location_of_join`.
-/

namespace ClientGen

namespace Path

/-! ## Paths that lead downwards -/

/-- The name is that of something in a directory, on every system. -/
structure IsInner (name : List Char) : Prop where
  ne_nil : name ≠ []
  /-- It is not the directory itself. -/
  ne_self : name ≠ ['.']
  /-- It is not the directory above. -/
  ne_up : name ≠ ['.', '.']
  no_slash : '/' ∉ name
  no_backslash : '\\' ∉ name
  no_nul : '\x00' ∉ name

/-- The path is relative, and leads downwards with each of its names. -/
structure IsInside (path : String) : Prop where
  relative : path.toList.head? ≠ some '/'
  inner : ∀ name ∈ names path, IsInner name

theorem IsInner.getLast?_ne {name : List Char} (h : IsInner name) : name.getLast? ≠ some '/' :=
  fun hlast => h.no_slash (List.mem_of_getLast? hlast)

/-! ### Joining -/

/-- Joined to a directory, a relative path adds its names to those of the directory, of which only
an empty one at the end can be lost. -/
theorem names_join (dir : String) {path : String} (h : path.toList.head? ≠ some '/') :
    ∃ lead, names (join dir path) = lead ++ names path ∧
      (names dir = lead ∨ names dir = lead ++ [[]]) := by
  unfold join
  by_cases hdir : dir = ""
  · refine ⟨[], ?_, .inr ?_⟩
    · rw [if_pos (.inr hdir), List.nil_append]
    · rw [hdir]
      rfl
  · rw [if_neg (by simp [h, hdir])]
    by_cases hslash : dir.toList.getLast? = some '/'
    · obtain ⟨front, hfront⟩ := List.getLast?_eq_some_iff.1 hslash
      refine ⟨Text.pieces '/' front, ?_, .inr ?_⟩
      · rw [if_pos hslash, names, String.toList_append, hfront, List.append_assoc,
          List.singleton_append, Text.pieces_append]
        rfl
      · rw [names, hfront, Text.pieces_append]
        rfl
    · have htext : (dir ++ "/" ++ path).toList = dir.toList ++ '/' :: path.toList := by simp
      refine ⟨names dir, ?_, .inl rfl⟩
      rw [if_neg hslash, names, htext, Text.pieces_append]
      rfl

/-- Names that are joined to a path one after the other stand behind it, with slashes between. -/
theorem foldl_join {start : String} {ns : List String} (hne : start ≠ "")
    (hlast : start.toList.getLast? ≠ some '/') (h : ∀ n ∈ ns, IsInner n.toList) :
    ns.foldl join start = "/".intercalate (start :: ns) := by
  induction ns generalizing start with
  | nil => simp
  | cons n rest ih =>
    obtain ⟨hn, hrest⟩ := List.forall_mem_cons.1 h
    have hhead : n.toList.head? ≠ some '/' := fun hhead => hn.no_slash (List.mem_of_head? hhead)
    have hjoin : join start n = start ++ "/" ++ n := by
      rw [join, if_neg (by simp [hhead, hne]), if_neg hlast]
    have hend : (start ++ "/" ++ n).toList.getLast? = n.toList.getLast? := by
      rw [String.toList_append, List.getLast?_append_of_ne_nil _ hn.ne_nil]
    rw [List.foldl_cons, hjoin, ih (by simp [hne]) (hend ▸ hn.getLast?_ne) hrest,
      String.intercalate_cons_append, String.intercalate_cons_cons]

/-- A path that leads downwards is what its names give when they are joined one by one. -/
theorem IsInside.foldl_join_names {path : String} (h : IsInside path) :
    ((names path).map String.ofList).foldl join "" = path := by
  have hpath : "/".intercalate ((names path).map String.ofList) = path := by
    rw [← String.toList_inj, String.toList_intercalate]
    simpa [names, Function.comp_def] using Text.intercalate_pieces '/' path.toList
  obtain ⟨first, rest, hnames⟩ := List.exists_cons_of_ne_nil (Text.pieces_ne_nil '/' path.toList)
  have hinner := h.inner
  rw [show names path = first :: rest from hnames] at hinner hpath ⊢
  obtain ⟨hfirst, hrest⟩ := List.forall_mem_cons.1 hinner
  have hstart : join "" (String.ofList first) = String.ofList first := if_pos (.inr rfl)
  rw [List.map_cons, List.foldl_cons, hstart, foldl_join, ← List.map_cons, hpath]
  · simpa using hfirst.ne_nil
  · simpa using hfirst.getLast?_ne
  · simpa using hrest

end Path

/-! ## Following a path downwards -/

namespace FileNode

open ClientGen.Path

variable {root : FileNode}

theorem step_of_isInner {here next : Location} {name : List Char} (h : IsInner name)
    (hstep : root.step here name = .ok next) : next = here ++ [String.ofList name] := by
  have hself : ¬(name = [] ∨ name = ['.']) := by simp [h.ne_nil, h.ne_self]
  rw [step_eq_ok, if_neg hself, if_neg h.ne_up] at hstep
  exact hstep.2.1

theorem foldlM_step_of_isInner {here there : Location} {ns : List (List Char)}
    (h : ∀ name ∈ ns, IsInner name) (hsteps : ns.foldlM root.step here = .ok there) :
    there = here ++ ns.map String.ofList := by
  induction ns generalizing here with
  | nil =>
    cases hsteps
    rw [List.map_nil, List.append_nil]
  | cons name rest ih =>
    obtain ⟨hname, hrest⟩ := List.forall_mem_cons.1 h
    rw [List.foldlM_cons, bind_eq_ok] at hsteps
    obtain ⟨next, hstep, hsteps⟩ := hsteps
    rw [ih hrest hsteps, step_of_isInner hname hstep, List.map_cons, List.append_assoc]
    rfl

/-- Wherever a path that leads downwards arrives when it is joined to a directory: that is below the
directory, by just the names of the path. -/
theorem location_of_join {dir path : String} {e : PathEnd} (h : IsInside path)
    (hfollow : root.follow (join dir path) = .ok e) :
    ∃ directory, (names dir).foldlM root.step [] = .ok directory ∧
      PathEnd.location e = directory ++ (names path).map String.ofList := by
  obtain ⟨front, last, hnames⟩ : ∃ front last, names path = front ++ [last] := by
    have hsome := (List.eq_nil_or_concat _).resolve_left (Text.pieces_ne_nil '/' path.toList)
    simpa [names] using hsome
  have hinner := h.inner
  rw [hnames] at hinner ⊢
  have hlast : IsInner last := hinner last (by simp)
  have hfront : ∀ name ∈ front, IsInner name := fun name hname => hinner name (by simp [hname])
  obtain ⟨lead, hjoin, hlead⟩ := names_join dir h.relative
  rw [hnames, ← List.append_assoc] at hjoin
  obtain ⟨hsteps, hend⟩ := follow_eq_ok hjoin hlast.ne_nil hfollow
  rw [List.foldlM_append, bind_eq_ok] at hsteps
  obtain ⟨directory, hdirectory, hsteps⟩ := hsteps
  refine ⟨directory, ?_, ?_⟩
  · rcases hlead with hlead | hlead
    · rw [hlead, hdirectory]
    · rw [hlead, List.foldlM_append, hdirectory]
      rfl
  · have hname : e.last = .name (String.ofList last) := by
      rw [hend, lastName, if_neg (by simp [hlast.ne_nil, hlast.ne_self]), if_neg hlast.ne_up]
    rw [PathEnd.location, hname, foldlM_step_of_isInner hfront hsteps, List.map_append,
      ← List.append_assoc]
    rfl

end FileNode

/-! ## The paths of generated files -/

namespace Source

open Text ClientGen.Path

/-- The path is that of a source file below the directory that it is joined to. -/
structure IsSourcePath (path : String) : Prop extends IsInside path where
  extension : ∃ stem, path = stem ++ ".rs"
  /-- It is what its names give when they are joined one by one. -/
  joined : ((names path).map String.ofList).foldl join "" = path
  /-- Joined to a directory, it leads to the place with its names below that directory. -/
  below : ∀ (root : FileNode) (dir : String) (e : PathEnd),
    root.follow (join dir path) = .ok e → ∃ directory,
      (names dir).foldlM root.step [] = .ok directory ∧
        FileNode.PathEnd.location e = directory ++ (names path).map String.ofList

/-! ### Names of modules -/

theorem moduleName_ne_empty (name : String) : moduleName name ≠ "" :=
  escapeReserved_ne_empty (withStart_ne_empty (by decide) (Text.snakeCase name))

/-- Without periods and slashes, a name is that of something in a directory. -/
theorem isInner_of_isName {name : List Char} (h : IsName name) (hne : name ≠ []) :
    IsInner name := by
  have hperiod : '.' ∉ name := h.not_mem (by decide)
  constructor
  case ne_nil => exact hne
  case ne_self =>
    rintro rfl
    exact hperiod (by simp)
  case ne_up =>
    rintro rfl
    exact hperiod (by simp)
  case no_slash => exact h.not_mem (by decide)
  case no_backslash => exact h.not_mem (by decide)
  case no_nul => exact h.not_mem (by decide)

theorem isInner_sourceFile {module : List Char} (h : IsName module) :
    IsInner (module ++ ".rs".toList) := by
  have hchars : ∀ c, isNameChar c = false → c ∉ ".rs".toList → c ∉ module ++ ".rs".toList := by
    intro c hc hrs hmem
    rcases List.mem_append.1 hmem with hmem | hmem
    · exact h.not_mem hc hmem
    · exact hrs hmem
  constructor
  case ne_nil => exact fun heq => absurd (congrArg List.length heq) (by simp)
  case ne_self => exact fun heq => absurd (congrArg List.length heq) (by simp)
  case ne_up => exact fun heq => absurd (congrArg List.length heq) (by simp)
  case no_slash => exact hchars _ (by decide) (by decide)
  case no_backslash => exact hchars _ (by decide) (by decide)
  case no_nul => exact hchars _ (by decide) (by decide)

/-! ### Files -/

/-- The names of a path are those of the directories, then that of the file. -/
theorem names_path {f : File} (h : ∀ segment ∈ f.directory, '/' ∉ segment.toList)
    (hmodule : '/' ∉ f.module.toList) :
    names f.path = f.directory.map String.toList ++ [f.module.toList ++ ".rs".toList] := by
  have hsegments : ∀ segment ∈ f.directory.map String.toList ++ [f.module.toList ++ ".rs".toList],
      '/' ∉ segment := by
    intro segment hsegment
    rcases List.mem_append.1 hsegment with hsegment | hsegment
    · obtain ⟨name, hname, rfl⟩ := List.mem_map.1 hsegment
      exact h name hname
    · cases List.mem_singleton.1 hsegment
      simpa using hmodule
  have htext : f.path.toList =
      ['/'].intercalate (f.directory.map String.toList ++ [f.module.toList ++ ".rs".toList]) := by
    rw [File.path, String.toList_intercalate]
    simp
  rw [names, htext, pieces_intercalate (by simp) hsegments]

/-- The file is in directories that are called like modules, and is called like a module. -/
def File.IsMangled (f : File) : Prop :=
  (∃ package, f.directory = packageDirectory package) ∧ IsName f.module.toList

theorem isMangled_files {rt : String} {a : Api} {f : File} (hf : f ∈ files rt a) :
    f.IsMangled := by
  have hmodule := (proper_files hf).named.module
  rcases mem_files.1 hf with ⟨c, -, rfl⟩ | rfl | ⟨c, -, rfl⟩ | rfl
  · exact ⟨⟨a.package, rfl⟩, hmodule⟩
  · exact ⟨⟨a.package, rfl⟩, hmodule⟩
  · exact ⟨⟨a.modelPackage, rfl⟩, hmodule⟩
  · exact ⟨⟨a.modelPackage, rfl⟩, hmodule⟩

theorem isMangled_baseIndexes {base : List String} {apis : List Api} {f : File}
    (hf : f ∈ baseIndexes base apis) : f.IsMangled := by
  have hproper : Proper "" f := proper_baseIndexes hf
  have hmodule := hproper.named.module
  rcases mem_baseIndexes.1 hf with rfl | ⟨before, next, rest, -, hbase, rfl⟩
  · exact ⟨⟨base, rfl⟩, hmodule⟩
  · obtain ⟨package, others, -, hbefore, -⟩ := List.map_eq_append_iff.1 hbase
    exact ⟨⟨package, hbefore.symm⟩, hmodule⟩

theorem File.IsMangled.isInside {f : File} (h : f.IsMangled) : IsInside f.path := by
  obtain ⟨⟨package, hdirectory⟩, hmodule⟩ := h
  have hsegments : ∀ segment ∈ f.directory, IsInner segment.toList := by
    intro segment hsegment
    rw [hdirectory] at hsegment
    obtain ⟨name, -, rfl⟩ := List.mem_map.1 hsegment
    exact isInner_of_isName (isName_moduleName name) (by simp [moduleName_ne_empty])
  have hnames := names_path (fun segment hsegment => (hsegments segment hsegment).no_slash)
    (hmodule.not_mem (by decide))
  have hinner : ∀ name ∈ names f.path, IsInner name := by
    intro name hname
    rw [hnames] at hname
    rcases List.mem_append.1 hname with hname | hname
    · obtain ⟨segment, hsegment, rfl⟩ := List.mem_map.1 hname
      exact hsegments segment hsegment
    · cases List.mem_singleton.1 hname
      exact isInner_sourceFile hmodule
  refine ⟨?_, hinner⟩
  -- a slash at the start would leave an empty name in front
  intro hhead
  obtain ⟨rest, hrest⟩ : ∃ rest, f.path.toList = '/' :: rest := List.head?_eq_some_iff.1 hhead
  have hempty : [] ∈ names f.path := by
    rw [names, hrest]
    simp [pieces, cut]
  exact (hinner [] hempty).ne_nil rfl

/-- The name of a file is all of its path, or stands behind the last slash. -/
theorem path_eq (f : File) :
    f.path = f.module ++ ".rs" ∨ ∃ outer, f.path = outer ++ "/" ++ (f.module ++ ".rs") := by
  by_cases hdirectory : f.directory = []
  · exact .inl (by rw [File.path, hdirectory, List.nil_append, String.intercalate_singleton])
  · refine .inr ⟨"/".intercalate f.directory, ?_⟩
    rw [File.path, String.intercalate_append_of_ne_nil hdirectory (List.cons_ne_nil _ _),
      String.intercalate_singleton]

theorem getLast?_names_path {f : File} (h : '/' ∉ f.module.toList) :
    (names f.path).getLast? = some (f.module.toList ++ ".rs".toList) := by
  have hpieces : pieces '/' (f.module.toList ++ ".rs".toList) =
      [f.module.toList ++ ".rs".toList] := pieces_of_not_mem (by simpa using h)
  rcases path_eq f with hpath | ⟨outer, hpath⟩
  · rw [names, hpath, String.toList_append, hpieces]
    rfl
  · have htext : f.path.toList = outer.toList ++ '/' :: (f.module.toList ++ ".rs".toList) := by
      simp [hpath]
    rw [names, htext, pieces_append, hpieces, List.getLast?_concat]

theorem File.IsMangled.isSourcePath {f : File} (h : f.IsMangled) : IsSourcePath f.path where
  toIsInside := h.isInside
  extension := by
    rcases path_eq f with hpath | ⟨outer, hpath⟩
    · exact ⟨f.module, hpath⟩
    · exact ⟨outer ++ "/" ++ f.module, by rw [hpath, ← String.append_assoc]⟩
  joined := h.isInside.foldl_join_names
  below _ _ _ hfollow := FileNode.location_of_join h.isInside hfollow

/-- Wherever a class is put, its file is not called like that of an index. -/
theorem fileName_ofClass_ne (rt : String) (directory : List String) (c : Class) :
    (names (File.ofClass rt directory c).path).getLast? ≠ some "mod.rs".toList := by
  have hslash : '/' ∉ (File.ofClass rt directory c).module.toList := by
    rw [module_ofClass]
    exact (isName_moduleName _).not_mem (by decide)
  rw [getLast?_names_path hslash, module_ofClass]
  intro heq
  have hmodule : (moduleName c.simpleName).toList = "mod".toList :=
    List.append_cancel_right (Option.some.inj heq)
  exact moduleName_ne_mod _ (String.toList_inj.1 hmodule)

/-- **Files stay below the output directory.** For every API, whatever its packages and types are
called, and for every base package, the paths of all files are those of source files below the
directory that they are joined to, and no class has the file of an index. -/
theorem paths_inside (rt : String) (a : Api) (base : List String) (apis : List Api) :
    (∀ u ∈ units rt a, IsSourcePath u.path) ∧ (∀ u ∈ baseUnits base apis, IsSourcePath u.path) ∧
      ∀ directory c,
        (names (File.ofClass rt directory c).path).getLast? ≠ some "mod.rs".toList := by
  refine ⟨?_, ?_, fileName_ofClass_ne rt⟩
  · intro u hu
    obtain ⟨f, hf, rfl⟩ := List.mem_map.1 hu
    exact (isMangled_files hf).isSourcePath
  · intro u hu
    obtain ⟨f, hf, rfl⟩ := List.mem_map.1 hu
    exact (isMangled_baseIndexes hf).isSourcePath

/-- An API made by hand, by someone who means no good. -/
def hostile : Api where
  selector := "x:v1"
  package := ["../..", "/etc", "", "."]
  modelPackage := ["..", "C:\\", "mod"]
  models := [{ name := .topLevel [] "mod", kind := .model }]
  request := { name := .topLevel [] "../../passwd", kind := .requestBase }
  client := { name := .topLevel [] "", kind := .client }

theorem paths_inside_hostile :
    (units "rt" hostile).map (·.path) =
        ["m/etc/m/m/passwd.rs", "m/etc/m/m/m.rs", "m/etc/m/m/mod.rs", "m/c/mod__/mod__.rs",
          "m/c/mod__/mod.rs"] ∧
      IsSourcePath "m/etc/m/m/passwd.rs" ∧ IsSourcePath "m/mod.rs" := by
  have hpaths : (units "rt" hostile).map (·.path) =
      ["m/etc/m/m/passwd.rs", "m/etc/m/m/m.rs", "m/etc/m/m/mod.rs", "m/c/mod__/mod__.rs",
        "m/c/mod__/mod.rs"] := by decide +kernel
  have hindexes : (baseUnits [".."] [hostile]).map (·.path) = ["m/mod.rs"] := by decide +kernel
  obtain ⟨hunits, hbase, -⟩ := paths_inside "rt" hostile [".."] [hostile]
  refine ⟨hpaths, ?_, ?_⟩
  · have hmem : "m/etc/m/m/passwd.rs" ∈ (units "rt" hostile).map (·.path) := by simp [hpaths]
    obtain ⟨u, hu, hpath⟩ := List.mem_map.1 hmem
    exact hpath ▸ hunits u hu
  · have hmem : "m/mod.rs" ∈ (baseUnits [".."] [hostile]).map (·.path) := by simp [hindexes]
    obtain ⟨u, hu, hpath⟩ := List.mem_map.1 hmem
    exact hpath ▸ hbase u hu

end Source

end ClientGen
