import ClientGen.Proofs.Api.Generated
import ClientGen.Proofs.Source.Unit
import Mathlib.Tactic.Tauto

/-!
# The module tree of several APIs

The files of several APIs and the indexes of their base package are made separately, and each of
them works out the names of modules for itself: from packages, from the names of APIs, from the ids
of schemas. `module_tree` says that the result is one tree of modules: each file is declared in the
index of its directory, each index but the topmost in that of the directory above, and there is a
file for each module that an index declares and for each type that it makes reachable.

The proof is about files first, `Connected`, where an index is known by its modules and types. The
text of the files comes in at the end.
-/

namespace ClientGen.Source

open Text

/-! ## Modules of APIs -/

theorem mem_keys_insert {α : Type} {m : Keyed α} {key name : String} {value : α} :
    name ∈ (Keyed.insert key value m).keys ↔ name = key ∨ name ∈ m.keys := by
  induction m with
  | nil => simp [Keyed.insert, Keyed.keys]
  | cons head rest ih =>
    simp only [Keyed.keys] at ih
    simp only [Keyed.insert, Keyed.keys]
    split
    · simp
    · split
      · rename_i h
        simp [h]
      · simp [ih]
        tauto

/-- Sorting names and taking each once keeps exactly the names there are. -/
theorem mem_sortedDistinct {names : List String} {name : String} :
    name ∈ sortedDistinct names ↔ name ∈ names := by
  have hfold : ∀ (m : Keyed Unit), name ∈ Keyed.keys
      ((names.map fun n => (n, ())).foldl (fun m (e : String × Unit) => m.insert e.1 e.2) m) ↔
        name ∈ names ∨ name ∈ m.keys := by
    induction names with
    | nil => simp
    | cons n rest ih =>
      intro m
      rw [List.map_cons, List.foldl_cons, ih, mem_keys_insert, List.mem_cons]
      tauto
  exact (hfold []).trans (by simp [Keyed.keys])

theorem mem_apiModules {apis : List Api} {m : String} :
    m ∈ apiModules apis ↔
      ∃ a ∈ apis, ∃ last, a.package.getLast? = some last ∧ moduleName last = m := by
  rw [apiModules, mem_sortedDistinct, List.mem_filterMap]
  simp [Option.map_eq_some_iff]

/-! ## The files of one API -/

/-- The index of the package of an API. -/
def apiIndex (a : Api) : File :=
  .index (packageDirectory a.package)
    (a.modelPackage.getLast?.toList.map moduleName ++
      [a.request, a.client].map fun c => (reexport c).1)
    ([a.request, a.client].map reexport)

/-- The index of the models of an API. -/
def modelIndex (a : Api) : File :=
  .index (packageDirectory a.modelPackage) (a.models.map fun c => (reexport c).1)
    (a.models.map reexport)

theorem mem_files {rt : String} {a : Api} {f : File} :
    f ∈ files rt a ↔
      (∃ c ∈ [a.request, a.client], File.ofClass rt (packageDirectory a.package) c = f) ∨
        f = apiIndex a ∨
        (∃ c ∈ a.models, File.ofClass rt (packageDirectory a.modelPackage) c = f) ∨
        f = modelIndex a := by
  simp only [files, List.mem_append, List.mem_map, List.mem_singleton, apiIndex, modelIndex,
    or_assoc]

/-- The API has a package of its own in the base package, and its models have one below that. -/
def IsUnder (base : List String) (a : Api) : Prop :=
  ∃ name, a.package = base ++ [name] ∧ a.modelPackage = a.package ++ [modelSegment]

theorem packageDirectory_concat (package : List String) (segment : String) :
    packageDirectory (package ++ [segment]) = packageDirectory package ++ [moduleName segment] := by
  simp [packageDirectory]

theorem isUnder_of_generate {d : Description} {settings : Settings} {a : Api}
    (h : (d.generate settings).result = .ok a) : IsUnder settings.baseSegments a := by
  have hgenerates := generates_of_generate h
  refine ⟨Text.snakeCase d.name, hgenerates.package, ?_⟩
  rw [hgenerates.modelPackage, hgenerates.package]
  rfl

/-! ## The indexes of the base package -/

/-- There is an index for the whole base package, which has the APIs in it, and one for each part of
it, which has the next segment in it. -/
theorem mem_indexesBelow {apis directory segments : List String} {f : File} (hne : segments ≠ []) :
    f ∈ indexesBelow apis directory segments ↔
      f = .index (directory ++ segments) apis [] ∨
        ∃ before next rest, before ≠ [] ∧ segments = before ++ next :: rest ∧
          f = .index (directory ++ before) [next] [] := by
  fun_induction indexesBelow apis directory segments with
  | case1 => exact absurd rfl hne
  | case2 directory segment =>
    constructor
    · intro hf
      exact .inl (List.mem_singleton.1 hf)
    · rintro (rfl | ⟨before, next, rest, hbefore, hsegments, rfl⟩)
      · exact List.mem_singleton_self _
      · obtain ⟨first, more, rfl⟩ := List.exists_cons_of_ne_nil hbefore
        simp at hsegments
  | case3 directory segment next rest ih =>
    have hdirectory : ∀ more, directory ++ segment :: more = directory ++ [segment] ++ more := by
      simp
    rw [List.mem_cons, ih (List.cons_ne_nil _ _), ← hdirectory]
    constructor
    · rintro (rfl | rfl | ⟨before, next', rest', -, hrest, rfl⟩)
      · exact .inr ⟨[segment], next, rest, List.cons_ne_nil _ _, rfl, rfl⟩
      · exact .inl rfl
      · rw [← hdirectory]
        exact .inr ⟨segment :: before, next', rest', List.cons_ne_nil _ _, by rw [hrest]; rfl, rfl⟩
    · rintro (rfl | ⟨before, next', rest', hbefore, hsegments, rfl⟩)
      · exact .inr (.inl rfl)
      · obtain ⟨first, before, rfl⟩ := List.exists_cons_of_ne_nil hbefore
        obtain ⟨rfl, hrest⟩ := List.cons.inj hsegments
        rw [hdirectory]
        by_cases hnil : before = []
        · subst hnil
          obtain ⟨rfl, -⟩ := List.cons.inj hrest
          exact .inl (by rw [List.append_nil])
        · exact .inr (.inr ⟨before, next', rest', hnil, hrest, rfl⟩)

theorem mem_baseIndexes {base : List String} {apis : List Api} {f : File} :
    f ∈ baseIndexes base apis ↔
      f = .index (packageDirectory base) (apiModules apis) [] ∨
        ∃ before next rest, before ≠ [] ∧ packageDirectory base = before ++ next :: rest ∧
          f = .index before [next] [] := by
  unfold baseIndexes
  split
  · rename_i hbase
    rw [hbase, List.mem_singleton]
    simp
  · rename_i hbase
    rw [mem_indexesBelow hbase]
    simp

/-! ## The files of several APIs -/

/-- The files of several APIs with the indexes of their base package. -/
def allFiles (rt : String) (base : List String) (apis : List Api) : List File :=
  apis.flatMap (files rt) ++ baseIndexes base apis

/-- An index of the directory declares the module. -/
def Declares (fs : List File) (directory : List String) (module : String) : Prop :=
  ∃ modules types, File.index directory modules types ∈ fs ∧ module ∈ modules

section

variable {rt : String} {base : List String} {apis : List Api} {directory : List String}
  {modules : List String} {types : List (String × String)}

/-- Which files of classes there are. -/
theorem ofClass_mem_allFiles {c : Class} (h : .ofClass rt directory c ∈ allFiles rt base apis) :
    ∃ a ∈ apis, (∃ c' ∈ [a.request, a.client],
        .ofClass rt (packageDirectory a.package) c' = File.ofClass rt directory c) ∨
      ∃ c' ∈ a.models,
        .ofClass rt (packageDirectory a.modelPackage) c' = File.ofClass rt directory c := by
  rcases List.mem_append.1 h with h | h
  · obtain ⟨a, ha, h⟩ := List.mem_flatMap.1 h
    rcases mem_files.1 h with h | h | h | h
    · exact ⟨a, ha, .inl h⟩
    · exact absurd h ofClass_ne_index
    · exact ⟨a, ha, .inr h⟩
    · exact absurd h ofClass_ne_index
  · rcases mem_baseIndexes.1 h with h | ⟨_, _, _, _, _, h⟩
    · exact absurd h ofClass_ne_index
    · exact absurd h ofClass_ne_index

/-- Which indexes there are. -/
theorem index_mem_allFiles :
    .index directory modules types ∈ allFiles rt base apis ↔
      (∃ a ∈ apis, .index directory modules types = apiIndex a ∨
        .index directory modules types = modelIndex a) ∨
      .index directory modules types ∈ baseIndexes base apis := by
  rw [allFiles, List.mem_append, List.mem_flatMap]
  have hclass : ∀ {other : List String} {c : Class},
      File.ofClass rt other c ≠ .index directory modules types := ofClass_ne_index
  simp only [mem_files, hclass, and_false, exists_false, false_or]

theorem apiIndex_mem {a : Api} (ha : a ∈ apis) : apiIndex a ∈ allFiles rt base apis :=
  List.mem_append_left _ (List.mem_flatMap.2 ⟨a, ha, mem_files.2 (.inr (.inl rfl))⟩)

theorem modelIndex_mem {a : Api} (ha : a ∈ apis) : modelIndex a ∈ allFiles rt base apis :=
  List.mem_append_left _ (List.mem_flatMap.2 ⟨a, ha, mem_files.2 (.inr (.inr (.inr rfl)))⟩)

theorem baseIndex_mem :
    .index (packageDirectory base) (apiModules apis) [] ∈ allFiles rt base apis :=
  List.mem_append_right _ (mem_baseIndexes.2 (.inl rfl))

/-- The topmost index is that of the first segment; if there is none, that of no directory. -/
theorem topmost_mem :
    ∃ modules types,
      .index ((packageDirectory base).take 1) modules types ∈ allFiles rt base apis := by
  match hbase : packageDirectory base with
  | [] => exact ⟨_, _, hbase ▸ baseIndex_mem⟩
  | [segment] => exact ⟨_, _, hbase ▸ baseIndex_mem⟩
  | segment :: next :: rest =>
    refine ⟨[next], [], List.mem_append_right _ ?_⟩
    exact mem_baseIndexes.2 (.inr ⟨[segment], next, rest, List.cons_ne_nil _ _, hbase, rfl⟩)

theorem service_mem {a : Api} (ha : a ∈ apis) {c : Class} (hc : c ∈ [a.request, a.client]) :
    .ofClass rt (packageDirectory a.package) c ∈ allFiles rt base apis :=
  List.mem_append_left _ (List.mem_flatMap.2 ⟨a, ha, mem_files.2 (.inl ⟨c, hc, rfl⟩)⟩)

theorem model_mem {a : Api} (ha : a ∈ apis) {c : Class} (hc : c ∈ a.models) :
    .ofClass rt (packageDirectory a.modelPackage) c ∈ allFiles rt base apis :=
  List.mem_append_left _ (List.mem_flatMap.2 ⟨a, ha, mem_files.2 (.inr (.inr (.inl ⟨c, hc, rfl⟩)))⟩)

/-- Every class has its module declared. -/
theorem declares_ofClass {c : Class} (h : .ofClass rt directory c ∈ allFiles rt base apis) :
    Declares (allFiles rt base apis) directory (moduleName c.simpleName) := by
  obtain ⟨a, ha, ⟨c', hc', hfile⟩ | ⟨c', hc', hfile⟩⟩ := ofClass_mem_allFiles h
  · obtain ⟨rfl, hmodule⟩ := ofClass_inj hfile
    rw [← hmodule, ← fst_reexport]
    exact ⟨_, _, apiIndex_mem ha, List.mem_append_right _ (List.mem_map_of_mem hc')⟩
  · obtain ⟨rfl, hmodule⟩ := ofClass_inj hfile
    rw [← hmodule, ← fst_reexport]
    exact ⟨_, _, modelIndex_mem ha, List.mem_map_of_mem hc'⟩

/-- A beginning of the base package is the topmost one, or the next one above it declares it. -/
theorem declares_base {before after : List String} (hne : before ≠ [])
    (hbase : packageDirectory base = before ++ after) :
    before = (packageDirectory base).take 1 ∨ ∃ parent segment, before = parent ++ [segment] ∧
      Declares (allFiles rt base apis) parent segment := by
  obtain ⟨parent, segment, rfl⟩ : ∃ parent segment, before = parent ++ [segment] :=
    ⟨_, _, (List.dropLast_append_getLast hne).symm⟩
  by_cases hparent : parent = []
  · left
    rw [hbase, hparent]
    rfl
  · right
    have hsegments : packageDirectory base = parent ++ segment :: after := by simp [hbase]
    refine ⟨parent, segment, rfl, [segment], [], List.mem_append_right _ ?_,
      List.mem_singleton_self _⟩
    exact mem_baseIndexes.2 (.inr ⟨parent, segment, after, hparent, hsegments, rfl⟩)

variable (hunder : ∀ a ∈ apis, IsUnder base a)

include hunder

theorem declares_index (h : .index directory modules types ∈ allFiles rt base apis) :
    directory = (packageDirectory base).take 1 ∨ ∃ parent segment, directory = parent ++ [segment] ∧
      Declares (allFiles rt base apis) parent segment := by
  rcases index_mem_allFiles.1 h with ⟨a, ha, h | h⟩ | h
  · obtain ⟨name, hpackage, -⟩ := hunder a ha
    obtain ⟨rfl, -, -⟩ := index_inj h
    refine .inr ⟨packageDirectory base, moduleName name, ?_, _, _, baseIndex_mem, ?_⟩
    · rw [hpackage, packageDirectory_concat]
    · exact mem_apiModules.2 ⟨a, ha, name, by simp [hpackage], rfl⟩
  · obtain ⟨name, -, hmodels⟩ := hunder a ha
    obtain ⟨rfl, -, -⟩ := index_inj h
    refine .inr ⟨packageDirectory a.package, moduleName modelSegment, ?_, _, _, apiIndex_mem ha, ?_⟩
    · rw [hmodels, packageDirectory_concat]
    · simp [hmodels]
  · rcases mem_baseIndexes.1 h with h | ⟨before, next, rest, hbefore, hbase, h⟩
    · obtain ⟨rfl, -, -⟩ := index_inj h
      by_cases hempty : packageDirectory base = []
      · left
        rw [hempty]
        rfl
      · exact declares_base hempty (List.append_nil _).symm
    · obtain ⟨rfl, -, -⟩ := index_inj h
      exact declares_base hbefore hbase

/-- There is a file for each module that an index declares. -/
theorem file_of_submodule (h : .index directory modules types ∈ allFiles rt base apis) {m : String}
    (hm : m ∈ modules) :
    (∃ c, .ofClass rt directory c ∈ allFiles rt base apis ∧ moduleName c.simpleName = m) ∨
      ∃ others more, .index (directory ++ [m]) others more ∈ allFiles rt base apis := by
  rcases index_mem_allFiles.1 h with ⟨a, ha, h | h⟩ | h
  · obtain ⟨name, -, hmodels⟩ := hunder a ha
    obtain ⟨rfl, rfl, -⟩ := index_inj h
    rcases List.mem_append.1 hm with hm | hm
    · have hsegment : m = moduleName modelSegment := by simpa [hmodels] using hm
      have hdirectory : packageDirectory a.package ++ [m] = packageDirectory a.modelPackage := by
        rw [hmodels, hsegment, packageDirectory_concat]
      rw [hdirectory]
      exact .inr ⟨_, _, modelIndex_mem ha⟩
    · obtain ⟨c, hc, rfl⟩ := List.mem_map.1 hm
      exact .inl ⟨c, service_mem ha hc, (fst_reexport c).symm⟩
  · obtain ⟨rfl, rfl, -⟩ := index_inj h
    obtain ⟨c, hc, rfl⟩ := List.mem_map.1 hm
    exact .inl ⟨c, model_mem ha hc, (fst_reexport c).symm⟩
  · right
    rcases mem_baseIndexes.1 h with h | ⟨before, next, rest, hbefore, hbase, h⟩
    · obtain ⟨rfl, rfl, -⟩ := index_inj h
      obtain ⟨a, ha, last, hlast, rfl⟩ := mem_apiModules.1 hm
      obtain ⟨name, hpackage, -⟩ := hunder a ha
      have hname : name = last := by simpa [hpackage] using hlast
      have hdirectory :
          packageDirectory base ++ [moduleName last] = packageDirectory a.package := by
        rw [hpackage, hname, packageDirectory_concat]
      rw [hdirectory]
      exact ⟨_, _, apiIndex_mem ha⟩
    · obtain ⟨rfl, rfl, -⟩ := index_inj h
      cases List.mem_singleton.1 hm
      have hnext : packageDirectory base = (directory ++ [m]) ++ rest := by simp [hbase]
      cases rest with
      | nil =>
        rw [List.append_nil] at hnext
        rw [← hnext]
        exact ⟨_, _, baseIndex_mem⟩
      | cons following rest =>
        refine ⟨[following], [], List.mem_append_right _ ?_⟩
        exact mem_baseIndexes.2 (.inr ⟨directory ++ [m], following, rest, by simp, hnext, rfl⟩)

omit hunder in
/-- There is a file for each type that an index makes reachable. -/
theorem file_of_reexport (h : .index directory modules types ∈ allFiles rt base apis)
    {t : String × String} (ht : t ∈ types) :
    ∃ c, .ofClass rt directory c ∈ allFiles rt base apis ∧ reexport c = t := by
  rcases index_mem_allFiles.1 h with ⟨a, ha, h | h⟩ | h
  · obtain ⟨rfl, -, rfl⟩ := index_inj h
    obtain ⟨c, hc, rfl⟩ := List.mem_map.1 ht
    exact ⟨c, service_mem ha hc, rfl⟩
  · obtain ⟨rfl, -, rfl⟩ := index_inj h
    obtain ⟨c, hc, rfl⟩ := List.mem_map.1 ht
    exact ⟨c, model_mem ha hc, rfl⟩
  · rcases mem_baseIndexes.1 h with h | ⟨_, _, _, _, _, h⟩
    · obtain ⟨-, -, rfl⟩ := index_inj h
      cases ht
    · obtain ⟨-, -, rfl⟩ := index_inj h
      cases ht

end

/-! ## Proper names -/

/-- A file of a class or an index, with nothing but proper names in it. -/
inductive Proper (rt : String) : File → Prop
  | ofClass (directory : List String) (c : Class)
      (hdirectory : ∀ segment ∈ directory, IsName segment.toList) :
      Proper rt (.ofClass rt directory c)
  | index (directory modules : List String) (types : List (String × String))
      (hdirectory : ∀ segment ∈ directory, IsName segment.toList)
      (hmodules : ∀ m ∈ modules, IsName m.toList)
      (htypes : ∀ t ∈ types, IsName t.1.toList ∧ IsName t.2.toList) :
      Proper rt (.index directory modules types)

theorem Proper.named {rt : String} {f : File} (h : Proper rt f) : f.Named := by
  cases h with
  | ofClass directory c hdirectory =>
    refine ⟨hdirectory, ?_⟩
    rw [module_ofClass]
    exact isName_moduleName _
  | index directory modules types hdirectory hmodules htypes =>
    have hmodule : IsName indexModule.toList := by decide
    exact ⟨hdirectory, hmodule⟩

theorem Proper.of_index {rt : String} {directory modules : List String}
    {types : List (String × String)} (h : Proper rt (.index directory modules types)) :
    (∀ m ∈ modules, IsName m.toList) ∧ ∀ t ∈ types, IsName t.1.toList ∧ IsName t.2.toList := by
  generalize hf : File.index directory modules types = f at h
  cases h with
  | ofClass directory c hdirectory => exact absurd hf.symm ofClass_ne_index
  | index directory modules types hdirectory hmodules htypes =>
    obtain ⟨-, rfl, rfl⟩ := index_inj hf
    exact ⟨hmodules, htypes⟩

theorem isName_packageDirectory (package : List String) :
    ∀ segment ∈ packageDirectory package, IsName segment.toList := by
  intro segment hsegment
  obtain ⟨name, -, rfl⟩ := List.mem_map.1 hsegment
  exact isName_moduleName name

theorem isName_reexports (cs : List Class) :
    ∀ t ∈ cs.map reexport, IsName t.1.toList ∧ IsName t.2.toList := by
  intro t ht
  obtain ⟨c, -, rfl⟩ := List.mem_map.1 ht
  rw [fst_reexport, snd_reexport]
  exact ⟨isName_moduleName _, isName_typeName _⟩

theorem proper_files {rt : String} {a : Api} {f : File} (hf : f ∈ files rt a) : Proper rt f := by
  rcases mem_files.1 hf with ⟨c, -, rfl⟩ | rfl | ⟨c, -, rfl⟩ | rfl
  · exact .ofClass _ c (isName_packageDirectory _)
  · refine .index _ _ _ (isName_packageDirectory _) ?_ (isName_reexports _)
    intro m hm
    rcases List.mem_append.1 hm with hm | hm
    · obtain ⟨name, -, rfl⟩ := List.mem_map.1 hm
      exact isName_moduleName name
    · obtain ⟨c, hc, rfl⟩ := List.mem_map.1 hm
      exact (isName_reexports _ _ (List.mem_map_of_mem hc)).1
  · exact .ofClass _ c (isName_packageDirectory _)
  · refine .index _ _ _ (isName_packageDirectory _) ?_ (isName_reexports _)
    intro m hm
    obtain ⟨c, hc, rfl⟩ := List.mem_map.1 hm
    exact (isName_reexports _ _ (List.mem_map_of_mem hc)).1

theorem proper_baseIndexes {rt : String} {base : List String} {apis : List Api} {f : File}
    (hf : f ∈ baseIndexes base apis) : Proper rt f := by
  have hnames := isName_packageDirectory base
  rcases mem_baseIndexes.1 hf with rfl | ⟨before, next, rest, -, hbase, rfl⟩
  · refine .index _ _ _ hnames ?_ (by simp)
    intro m hm
    obtain ⟨a, -, last, -, rfl⟩ := mem_apiModules.1 hm
    exact isName_moduleName last
  · rw [hbase] at hnames
    refine .index _ _ _ (fun m hm => hnames m (List.mem_append_left _ hm)) ?_ (by simp)
    intro m hm
    rw [List.mem_singleton.1 hm]
    exact hnames next (by simp)

theorem proper_allFiles {rt : String} {base : List String} {apis : List Api} {f : File}
    (hf : f ∈ allFiles rt base apis) : Proper rt f := by
  rcases List.mem_append.1 hf with hf | hf
  · obtain ⟨a, -, hf⟩ := List.mem_flatMap.1 hf
    exact proper_files hf
  · exact proper_baseIndexes hf

/-! ## The tree -/

/-- The units are one tree of modules, with the index of the base package's first segment at its
top, or that of no directory if the base package is empty. -/
structure ModuleTree (base : List String) (us : List SourceUnit) : Prop where
  located : ∀ u ∈ us, ∃ d x, u.IsAt d x
  topmost : ∃ u ∈ us, u.IsAt ((packageDirectory base).take 1) indexModule
  /-- A file that is no index is declared in the index of its directory. -/
  declared : ∀ u ∈ us, ∀ d x, u.IsAt d x → x ≠ indexModule →
    ∃ i ∈ us, i.IsAt d indexModule ∧ submoduleLine x ∈ lines i.contents
  /-- An index is declared in that of the directory above. -/
  indexed : ∀ u ∈ us, ∀ d, u.IsAt d indexModule → d ≠ (packageDirectory base).take 1 →
    ∃ parent segment, d = parent ++ [segment] ∧
      ∃ i ∈ us, i.IsAt parent indexModule ∧ submoduleLine segment ∈ lines i.contents
  /-- What an index declares is there, as a file or as a directory with an index. -/
  submodules : ∀ u ∈ us, ∀ d m, u.IsAt d indexModule → submoduleLine m ∈ lines u.contents →
    ∃ v ∈ us, v.IsAt d m ∨ v.IsAt (d ++ [m]) indexModule
  /-- A type that an index makes reachable is declared in the file that it names. -/
  reexports : ∀ u ∈ us, ∀ d m t, u.IsAt d indexModule → reexportLine m t ∈ lines u.contents →
    ∃ v ∈ us, v.IsAt d m ∧ DeclaresStruct v.contents t

/-- The units of several APIs with those of the indexes of their base package. -/
theorem map_unit_allFiles (rt : String) (base : List String) (apis : List Api) :
    apis.flatMap (units rt) ++ baseUnits base apis = (allFiles rt base apis).map (·.unit) := by
  rw [allFiles, List.map_append, List.map_flatMap]
  rfl

section

variable {rt : String} {base : List String} {apis : List Api}

theorem isAt_of_mem {f : File} (hf : f ∈ allFiles rt base apis) :
    f.unit.IsAt f.directory f.module :=
  (isAt_unit (proper_allFiles hf).named).2 ⟨rfl, rfl⟩

theorem exists_file {u : SourceUnit} (hu : u ∈ (allFiles rt base apis).map (·.unit))
    {d : List String} {x : String} (hat : u.IsAt d x) :
    ∃ f ∈ allFiles rt base apis, f.unit = u ∧ f.directory = d ∧ f.module = x := by
  obtain ⟨f, hf, rfl⟩ := List.mem_map.1 hu
  obtain ⟨rfl, rfl⟩ := (isAt_unit (proper_allFiles hf).named).1 hat
  exact ⟨f, hf, rfl, rfl, rfl⟩

/-- What is at the place of an index is one. -/
theorem exists_index {u : SourceUnit} (hu : u ∈ (allFiles rt base apis).map (·.unit))
    {d : List String} (hat : u.IsAt d indexModule) :
    ∃ modules types, .index d modules types ∈ allFiles rt base apis ∧
      (File.index d modules types).unit = u := by
  obtain ⟨f, hf, rfl, rfl, hmodule⟩ := exists_file hu hat
  cases proper_allFiles hf with
  | ofClass directory c hdirectory =>
    rw [module_ofClass] at hmodule
    exact absurd hmodule (moduleName_ne_indexModule _)
  | index directory modules types hdirectory hmodules htypes => exact ⟨modules, types, hf, rfl⟩

/-- A module that an index declares has a line there. -/
theorem line_of_declares {directory : List String} {module : String}
    (h : Declares (allFiles rt base apis) directory module) :
    ∃ i ∈ (allFiles rt base apis).map (·.unit), i.IsAt directory indexModule ∧
      submoduleLine module ∈ lines i.contents := by
  obtain ⟨modules, types, hindex, hmem⟩ := h
  obtain ⟨hmodules, htypes⟩ := (proper_allFiles hindex).of_index
  refine ⟨_, List.mem_map_of_mem hindex, isAt_of_mem hindex, ?_⟩
  exact (submoduleLine_mem_index hmodules htypes).2 hmem

/-- The units of APIs in the base package are a tree of modules. -/
theorem moduleTree_allFiles (hunder : ∀ a ∈ apis, IsUnder base a) :
    ModuleTree base ((allFiles rt base apis).map (·.unit)) where
  located := by
    intro u hu
    obtain ⟨f, hf, rfl⟩ := List.mem_map.1 hu
    exact ⟨_, _, isAt_of_mem hf⟩
  topmost := by
    obtain ⟨modules, types, hindex⟩ : ∃ modules types,
        .index ((packageDirectory base).take 1) modules types ∈ allFiles rt base apis := topmost_mem
    exact ⟨_, List.mem_map_of_mem hindex, isAt_of_mem hindex⟩
  declared := by
    intro u hu d x hat hx
    obtain ⟨f, hf, rfl, rfl, rfl⟩ := exists_file hu hat
    cases proper_allFiles hf with
    | ofClass directory c hdirectory =>
      rw [module_ofClass]
      exact line_of_declares (declares_ofClass hf)
    | index directory modules types hdirectory hmodules htypes => exact absurd rfl hx
  indexed := by
    intro u hu d hat htop
    obtain ⟨modules, types, hindex, rfl⟩ := exists_index hu hat
    obtain hroot | ⟨parent, segment, hd, hdeclares⟩ := declares_index hunder hindex
    · exact absurd hroot htop
    · exact ⟨parent, segment, hd, line_of_declares hdeclares⟩
  submodules := by
    intro u hu d m hat hline
    obtain ⟨modules, types, hindex, rfl⟩ := exists_index hu hat
    obtain ⟨hmodules, htypes⟩ := (proper_allFiles hindex).of_index
    have hm := (submoduleLine_mem_index hmodules htypes).1 hline
    obtain ⟨c, hc, rfl⟩ | ⟨others, more, hbelow⟩ := file_of_submodule hunder hindex hm
    · have hat := isAt_of_mem hc
      rw [module_ofClass] at hat
      exact ⟨_, List.mem_map_of_mem hc, .inl hat⟩
    · exact ⟨_, List.mem_map_of_mem hbelow, .inr (isAt_of_mem hbelow)⟩
  reexports := by
    intro u hu d m t hat hline
    obtain ⟨modules, types, hindex, rfl⟩ := exists_index hu hat
    obtain ⟨hmodules, htypes⟩ := (proper_allFiles hindex).of_index
    have ht := (reexportLine_mem_index hmodules htypes).1 hline
    obtain ⟨c, hc, hreexport⟩ := file_of_reexport hindex ht
    obtain ⟨rfl, rfl⟩ := Prod.mk.inj hreexport
    have hat := isAt_of_mem hc
    rw [module_ofClass] at hat
    exact ⟨_, List.mem_map_of_mem hc, hat, declaresStruct_ofClass rt d c⟩

end

/-- **The files of several APIs are one tree of modules.** For any settings and any APIs that were
generated under them, every file is declared in an index, up to that of the base package, and there
is a file for everything that an index declares or makes reachable. -/
theorem module_tree {settings : Settings} {apis : List Api}
    (h : ∀ a ∈ apis, ∃ d : Description, (d.generate settings).result = .ok a) :
    ModuleTree settings.baseSegments
      (apis.flatMap (units settings.runtimeCrate) ++ baseUnits settings.baseSegments apis) := by
  have hunder : ∀ a ∈ apis, IsUnder settings.baseSegments a := by
    intro a ha
    obtain ⟨d, hd⟩ := h a ha
    exact isUnder_of_generate hd
  rw [map_unit_allFiles]
  exact moduleTree_allFiles hunder

/-- The small API in the default base package. -/
theorem module_tree_shelves :
    ∃ api, (Description.shelves.generate {}).result = .ok api ∧
      ModuleTree ["generated"]
        ([api].flatMap (units "discovery_runtime") ++ baseUnits ["generated"] [api]) := by
  obtain ⟨api, h⟩ := shelves_generate
  have hbase : ({} : Settings).baseSegments = ["generated"] := by decide +kernel
  have hapis : ∀ a ∈ [api], ∃ d : Description, (d.generate {}).result = .ok a := by
    intro a ha
    rw [List.mem_singleton.1 ha]
    exact ⟨_, h⟩
  have htree := module_tree hapis
  rw [hbase] at htree
  exact ⟨api, h, htree⟩

end ClientGen.Source
