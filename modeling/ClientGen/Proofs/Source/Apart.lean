import ClientGen.Batch
import ClientGen.Proofs.Api.Models
import ClientGen.Proofs.Source.Mangling
import ClientGen.Proofs.Source.ModuleTree
import Mathlib.Data.List.Count
import Mathlib.Data.Prod.Basic

/-!
# When files have different paths

A file is written over another one if both have the same path, which depends on names of modules
only. Ids of models, names of APIs and packages are told apart before they become names of modules,
and different ones can become the same.

* `units_apart_iff` — in one API, all files have different paths and no index declares a module
  twice, exactly if the ids of the models become different modules and the client does not become
  the module of the models.
* `paths_apart` — several APIs that do not share a package have no paths in common exactly if their
  packages have different directories, and so it is where names are kept as they are. Then the order
  in which they are written makes no difference.

Neither condition is checked: `units_not_apart_homonyms` and `paths_not_apart_digit` are APIs that
are generated without meeting them.
-/

namespace ClientGen.Source

open Text

/-! ## Places -/

/-- Where a file is: its directory and its module. -/
def File.place (f : File) : List String × String :=
  (f.directory, f.module)

/-- Of files with proper names, only one in the same place has the same path. -/
theorem path_eq_iff {f g : File} (hf : f.Named) (hg : g.Named) :
    f.path = g.path ↔ f.place = g.place := by
  constructor
  · intro h
    have hat : f.unit.IsAt g.directory g.module := by
      have hplace := (isAt_unit hg).2 ⟨rfl, rfl⟩
      rw [SourceUnit.IsAt] at hplace ⊢
      exact (congrArg (split '/') h).trans hplace
    obtain ⟨hdirectory, hmodule⟩ := (isAt_unit hf).1 hat
    exact Prod.ext hdirectory.symm hmodule.symm
  · intro h
    obtain ⟨hdirectory, hmodule⟩ := Prod.mk.inj h
    rw [File.path, File.path, hdirectory, hmodule]

theorem nodup_paths_iff {fs : List File} (h : ∀ f ∈ fs, f.Named) :
    ((fs.map (·.unit)).map (·.path)).Nodup ↔ (fs.map File.place).Nodup := by
  have hpaths : (fs.map (·.unit)).map (·.path) = fs.map File.path := by
    rw [List.map_map]
    rfl
  rw [hpaths, List.Nodup, List.Nodup, List.pairwise_map, List.pairwise_map]
  exact List.Pairwise.iff_of_mem fun hf hg => not_congr (path_eq_iff (h _ hf) (h _ hg))

/-! ## The lines of an index -/

/-- An index has a line for a module as often as the module is one of its own. -/
theorem count_submoduleLine {directory modules : List String} {types : List (String × String)}
    (hmodules : ∀ m ∈ modules, IsName m.toList)
    (htypes : ∀ t ∈ types, IsName t.1.toList ∧ IsName t.2.toList) (m : String) :
    (lines (File.index directory modules types).contents).count (submoduleLine m) =
      modules.count m := by
  have hpub : "pub ".toList <+: (submoduleLine m).toList := ⟨_, (toList_submoduleLine m).symm⟩
  have hheader : (submoduleLine m) ≠ header := by
    intro h
    rw [h] at hpub
    exact absurd hpub (by decide)
  have hblank : (submoduleLine m) ≠ "" := by
    intro h
    rw [h] at hpub
    exact absurd hpub (by decide)
  have hreexports : (types.map fun t => reexportLine t.1 t.2).count (submoduleLine m) = 0 := by
    rw [List.count_eq_zero, List.mem_map]
    rintro ⟨t, -, h⟩
    exact submoduleLine_ne_reexportLine m t.1 t.2 h.symm
  have hbetween :
      (if modules = [] ∨ types = [] then [] else [""]).count (submoduleLine m) = 0 := by
    split
    · rfl
    · exact List.count_eq_zero.2 (by simpa using hblank)
  rw [lines_index hmodules htypes, List.count_cons_of_ne hheader.symm,
    List.count_cons_of_ne hblank.symm, indexLines, List.count_append, List.count_append, hbetween,
    hreexports, Nat.add_zero,
    List.count_map_of_injective _ _ fun _ _ => submoduleLine_inj]

/-! ## One API -/

/-- The modules of the models of an API. -/
def modelModules (a : Api) : List String :=
  a.models.map fun c => moduleName c.simpleName

/-- The modules in the package of an API: that of the models, and those of its two classes. -/
def packageModules (a : Api) : List String :=
  a.modelPackage.getLast?.toList.map moduleName ++
    [a.request, a.client].map fun c => moduleName c.simpleName

section

variable {rt : String} {a : Api}

theorem apiIndex_eq (a : Api) :
    apiIndex a = .index (packageDirectory a.package) (packageModules a)
      ([a.request, a.client].map reexport) := by
  simp only [apiIndex, packageModules, fst_reexport]

theorem modelIndex_eq (a : Api) :
    modelIndex a = .index (packageDirectory a.modelPackage) (modelModules a)
      (a.models.map reexport) := by
  simp only [modelIndex, modelModules, fst_reexport]

/-- Where the files of an API are: two directories, with files and an index in each. -/
theorem map_place_files (rt : String) (a : Api) :
    (files rt a).map File.place =
      ([moduleName a.request.simpleName, moduleName a.client.simpleName, indexModule].map
          (Prod.mk (packageDirectory a.package))) ++
        (modelModules a ++ [indexModule]).map (Prod.mk (packageDirectory a.modelPackage)) := by
  simp [files, File.place, modelModules, Function.comp_def]

/-- Files of an API are in different places if the modules in each of its directories differ. -/
theorem nodup_places_iff (hdirectories : packageDirectory a.package ≠
      packageDirectory a.modelPackage) :
    ((files rt a).map File.place).Nodup ↔
      moduleName a.request.simpleName ≠ moduleName a.client.simpleName ∧
        (modelModules a).Nodup := by
  have hservices : [moduleName a.request.simpleName, moduleName a.client.simpleName,
      indexModule].Nodup ↔
        moduleName a.request.simpleName ≠ moduleName a.client.simpleName := by
    simp [moduleName_ne_indexModule]
  have hmodels : (modelModules a ++ [indexModule]).Nodup ↔ (modelModules a).Nodup := by
    simp [List.nodup_append, modelModules, moduleName_ne_indexModule]
  have hdisjoint (ms others : List String) :
      (ms.map (Prod.mk (packageDirectory a.package))).Disjoint
        (others.map (Prod.mk (packageDirectory a.modelPackage))) := by
    intro place hplace hother
    obtain ⟨m, -, rfl⟩ := List.mem_map.1 hplace
    obtain ⟨m', -, h⟩ := List.mem_map.1 hother
    exact hdirectories (congrArg Prod.fst h).symm
  rw [map_place_files, List.nodup_append', List.nodup_map_iff (Prod.mk_right_injective _),
    List.nodup_map_iff (Prod.mk_right_injective _), hservices, hmodels]
  exact and_congr_right fun _ => and_iff_left (hdisjoint _ _)

/-- The units that are indexes are those of the package and of the models. -/
theorem forall_indexes {P : SourceUnit → Prop} :
    (∀ u ∈ units rt a, ∀ d, u.IsAt d indexModule → P u) ↔
      P (apiIndex a).unit ∧ P (modelIndex a).unit := by
  constructor
  · intro h
    have hindex {f : File} (hf : f ∈ files rt a) (hmodule : f.module = indexModule) : P f.unit :=
      h f.unit (List.mem_map_of_mem hf) f.directory
        ((isAt_unit (proper_files hf).named).2 ⟨rfl, hmodule.symm⟩)
    exact ⟨hindex (mem_files.2 (.inr (.inl rfl))) rfl,
      hindex (mem_files.2 (.inr (.inr (.inr rfl)))) rfl⟩
  · rintro ⟨hapi, hmodel⟩ u hu d hat
    obtain ⟨f, hf, rfl⟩ := List.mem_map.1 hu
    have hmodule := ((isAt_unit (proper_files hf).named).1 hat).2
    have hclass (directory : List String) (c : Class) :
        indexModule ≠ (File.ofClass rt directory c).module := by
      rw [module_ofClass]
      exact (moduleName_ne_indexModule c.simpleName).symm
    rcases mem_files.1 hf with ⟨c, -, rfl⟩ | rfl | ⟨c, -, rfl⟩ | rfl
    · exact absurd hmodule (hclass _ c)
    · exact hapi
    · exact absurd hmodule (hclass _ c)
    · exact hmodel

/-- An index among the files of an API declares no module twice if its modules differ. -/
theorem count_submoduleLine_le_one {directory modules : List String}
    {types : List (String × String)} (h : .index directory modules types ∈ files rt a) :
    (∀ m, (lines (File.index directory modules types).unit.contents).count
      (submoduleLine m) ≤ 1) ↔ modules.Nodup := by
  obtain ⟨hmodules, htypes⟩ := (proper_files h).of_index
  rw [List.nodup_iff_count_le_one]
  exact forall_congr' fun m => by rw [← count_submoduleLine hmodules htypes m]; rfl

end

/-- No two units have the same path, and no index among them declares a module twice. -/
structure UnitsApart (us : List SourceUnit) : Prop where
  paths : (us.map (·.path)).Nodup
  modules : ∀ u ∈ us, ∀ d, u.IsAt d indexModule →
    ∀ m, (lines u.contents).count (submoduleLine m) ≤ 1

/-- The units of an API are apart if the modules are in each of its two packages. -/
theorem unitsApart_iff {rt : String} {base : List String} {a : Api} (h : IsUnder base a) :
    UnitsApart (units rt a) ↔ (packageModules a).Nodup ∧ (modelModules a).Nodup := by
  obtain ⟨name, -, hmodels⟩ := h
  have hdirectories : packageDirectory a.package ≠ packageDirectory a.modelPackage := by
    rw [hmodels, packageDirectory_concat]
    exact fun h => absurd (congrArg List.length h) (by simp)
  have hpaths : ((units rt a).map (·.path)).Nodup ↔ _ :=
    (nodup_paths_iff fun f hf => (proper_files hf).named).trans (nodup_places_iff hdirectories)
  have hapi : .index _ (packageModules a) _ ∈ files rt a :=
    apiIndex_eq a ▸ mem_files.2 (.inr (.inl rfl))
  have hmodel : .index _ (modelModules a) _ ∈ files rt a :=
    modelIndex_eq a ▸ mem_files.2 (.inr (.inr (.inr rfl)))
  have hmodules : (∀ u ∈ units rt a, ∀ d, u.IsAt d indexModule →
      ∀ m, (lines u.contents).count (submoduleLine m) ≤ 1) ↔
        (packageModules a).Nodup ∧ (modelModules a).Nodup := by
    rw [forall_indexes, apiIndex_eq, modelIndex_eq, count_submoduleLine_le_one hapi,
      count_submoduleLine_le_one hmodel]
  constructor
  · rintro ⟨-, hlines⟩
    exact hmodules.1 hlines
  · rintro ⟨hpackage, hmodels⟩
    refine ⟨hpaths.2 ⟨?_, hmodels⟩, hmodules.2 ⟨hpackage, hmodels⟩⟩
    have hservices := (List.nodup_append.1 hpackage).2.1
    simpa using hservices

/-- The three modules in the package of an API differ unless the client is called like the package
of the models. -/
theorem nodup_packageModules_iff {d : Description} {settings : Settings} {a : Api}
    (h : (d.generate settings).result = .ok a) :
    (packageModules a).Nodup ↔ moduleName (upperCamelCase d.name) ≠ modelSegment := by
  have hgenerates := generates_of_generate h
  obtain ⟨name, -, hmodels⟩ := isUnder_of_generate h
  have hclient : a.client.simpleName = upperCamelCase d.name := by
    rw [Class.simpleName, hgenerates.client]
    rfl
  have hrequest : a.request.simpleName = upperCamelCase d.name ++ "Request" := by
    rw [Class.simpleName, hgenerates.request]
    rfl
  have hsegment : moduleName modelSegment = modelSegment := by decide +kernel
  -- the suffix adds a `q` to the module of the client, and there is none in that of the models
  have hcount := count_moduleName_append (c := 'q') (by decide) (by decide) (by decide)
    (upperCamelCase d.name) "Request"
  rw [show (moduleName "Request").toList.count 'q' = 1 by decide +kernel] at hcount
  have hclient_ne : moduleName (upperCamelCase d.name ++ "Request") ≠
      moduleName (upperCamelCase d.name) := by
    intro heq
    rw [heq] at hcount
    omega
  have hmodel_ne : moduleName (upperCamelCase d.name ++ "Request") ≠ modelSegment := by
    intro heq
    rw [heq, show modelSegment.toList.count 'q' = 0 by decide] at hcount
    omega
  have hlist : packageModules a = [modelSegment, moduleName (upperCamelCase d.name ++ "Request"),
      moduleName (upperCamelCase d.name)] := by
    simp [packageModules, hmodels, hrequest, hclient, hsegment]
  rw [hlist]
  simp [hclient_ne, hmodel_ne.symm, eq_comm]

/-- The modules of the models are those of the ids that generation comes by. -/
theorem perm_modelModules {d : Description} {n : Naming} {a : Api} (h : d.Generates n a) :
    (modelModules a).Perm ((d.modelIds n).map moduleName) := by
  have hmodules : modelModules a =
      (a.models.map (·.name)).map fun q => moduleName q.simpleName := by
    simp only [modelModules, List.map_map, Function.comp_def, Class.simpleName]
  have hids (package ids : List String) : (ids.map (QualifiedName.topLevel package)).map
      (fun q => moduleName q.simpleName) = ids.map moduleName := by
    simp only [List.map_map, Function.comp_def, QualifiedName.topLevel]
  rw [hmodules, ← hids]
  exact (perm_modelIds h).map _

/-- **The files of one API.** In any generated API the files have different paths, and no index
declares a module twice, exactly if the ids of the models become different modules and the client
does not become the module of the models. -/
theorem units_apart_iff {d : Description} {settings : Settings} {a : Api}
    (h : (d.generate settings).result = .ok a) (rt : String) :
    UnitsApart (units rt a) ↔
      ((d.modelIds (d.naming settings)).map moduleName).Nodup ∧
        moduleName (upperCamelCase d.name) ≠ modelSegment := by
  rw [unitsApart_iff (isUnder_of_generate h), nodup_packageModules_iff h,
    (perm_modelModules (generates_of_generate h)).nodup_iff, and_comm]

theorem units_apart_iff_shelves :
    ∃ api, (Description.shelves.generate {}).result = .ok api ∧
      UnitsApart (units "runtime" api) := by
  obtain ⟨api, h⟩ := shelves_generate
  have hmodels :
      ((Description.shelves.modelIds (Description.shelves.naming {})).map moduleName).Nodup := by
    decide +kernel
  have hclient : moduleName (upperCamelCase Description.shelves.name) ≠ modelSegment := by
    decide +kernel
  exact ⟨api, h, (units_apart_iff h "runtime").2 ⟨hmodels, hclient⟩⟩

/-- An API with two schemas whose ids are different words for the same module. -/
def homonyms : Description where
  name := "books"
  version := "v1"
  schemas := [
    ("FooBar", { id := some "FooBar", type := some "object" }),
    ("fooBar", { id := some "fooBar", type := some "object" })]

/-- The two models are written to the same file, and declared as the same module. -/
theorem units_not_apart_homonyms :
    ∃ api, (homonyms.generate {}).result = .ok api ∧
      ¬((units "runtime" api).map (·.path)).Nodup ∧
        ∃ u ∈ units "runtime" api, u.path = "generated/books/model/mod.rs" ∧
          1 < (lines u.contents).count (submoduleLine "foo_bar") := by
  have hshared : (homonyms.generate {}).result.toOption.any (fun api =>
      decide (¬((units "runtime" api).map (·.path)).Nodup) &&
        (units "runtime" api).any fun u => u.path == "generated/books/model/mod.rs" &&
          decide (1 < (lines u.contents).count (submoduleLine "foo_bar"))) = true := by
    decide +kernel
  obtain ⟨api, h, hshared⟩ := Traced.exists_of_any hshared
  exact ⟨api, h, by simpa using hshared⟩

/-! ## Several APIs -/

/-- No unit of an API has the path of a unit of another one. -/
def PathsApart (rt : String) (apis : List Api) : Prop :=
  apis.Pairwise fun a b => ∀ u ∈ units rt a, ∀ v ∈ units rt b, u.path ≠ v.path

/-- Units of several APIs in the order in which some run writes them: those of each API in their own
order, and in between those of others. -/
structure Interleaves (rt : String) (apis : List Api) (us : List SourceUnit) : Prop where
  perm : us.Perm (apis.flatMap (units rt))
  ordered : ∀ a ∈ apis, (units rt a).Sublist us

section

variable {rt : String} {base : List String} {a b : Api} {apis : List Api}

/-- The directory of a file says which package the file is for. -/
theorem take_directory (h : IsUnder base a) {f : File} (hf : f ∈ files rt a) :
    f.directory.take (base.length + 1) = packageDirectory a.package := by
  obtain ⟨name, hpackage, hmodels⟩ := h
  have hlength : (packageDirectory a.package).length = base.length + 1 := by
    simp [hpackage, packageDirectory]
  have hservices : (packageDirectory a.package).take (base.length + 1) =
      packageDirectory a.package := List.take_of_length_le (Nat.le_of_eq hlength)
  have hbelow : (packageDirectory a.modelPackage).take (base.length + 1) =
      packageDirectory a.package := by
    rw [hmodels, packageDirectory_concat]
    exact List.take_left' hlength
  rcases mem_files.1 hf with ⟨c, -, rfl⟩ | rfl | ⟨c, -, rfl⟩ | rfl
  · exact hservices
  · exact hservices
  · exact hbelow
  · exact hbelow

/-- Two APIs have no paths in common unless their packages have the same directory. -/
theorem paths_disjoint_iff (ha : IsUnder base a) (hb : IsUnder base b) :
    (∀ u ∈ units rt a, ∀ v ∈ units rt b, u.path ≠ v.path) ↔
      packageDirectory a.package ≠ packageDirectory b.package := by
  constructor
  · intro h hdirectory
    have hindex (a : Api) : apiIndex a ∈ files rt a := mem_files.2 (.inr (.inl rfl))
    have hplace : (apiIndex a).place = (apiIndex b).place := Prod.ext hdirectory rfl
    refine h _ (List.mem_map_of_mem (hindex a)) _ (List.mem_map_of_mem (hindex b)) ?_
    exact (path_eq_iff (proper_files (hindex a)).named (proper_files (hindex b)).named).2 hplace
  · intro hdirectories u hu v hv hpath
    obtain ⟨f, hf, rfl⟩ := List.mem_map.1 hu
    obtain ⟨g, hg, rfl⟩ := List.mem_map.1 hv
    have hplace := (path_eq_iff (proper_files hf).named (proper_files hg).named).1 hpath
    have hdirectory : f.directory = g.directory := congrArg Prod.fst hplace
    rw [← take_directory ha hf, ← take_directory hb hg, hdirectory] at hdirectories
    exact hdirectories rfl

/-- Several APIs have no paths in common if the directories of their packages differ. -/
theorem pathsApart_iff (hunder : ∀ a ∈ apis, IsUnder base a) :
    PathsApart rt apis ↔ (apis.map fun a => packageDirectory a.package).Nodup := by
  rw [PathsApart, List.Nodup, List.pairwise_map]
  exact List.Pairwise.iff_of_mem fun ha hb => paths_disjoint_iff (hunder _ ha) (hunder _ hb)

/-- **In any order of writing**, the units with one path are those of one API, in its order. -/
theorem filter_of_interleaves (hapart : PathsApart rt apis) {us : List SourceUnit}
    (h : Interleaves rt apis us) (ha : a ∈ apis) {u : SourceUnit} (hu : u ∈ units rt a) :
    us.filter (·.path = u.path) = (units rt a).filter (·.path = u.path) := by
  obtain ⟨before, after, rfl⟩ := List.append_of_mem ha
  obtain ⟨-, hafter, hbefore⟩ := List.pairwise_append.1 hapart
  have hothers (others : List Api) (hothers : ∀ b ∈ others, ∀ v ∈ units rt b, v.path ≠ u.path) :
      (others.flatMap (units rt)).filter (·.path = u.path) = [] := by
    rw [List.filter_eq_nil_iff]
    intro v hv
    obtain ⟨b, hb, hv⟩ := List.mem_flatMap.1 hv
    simpa using hothers b hb v hv
  have hall : ((before ++ a :: after).flatMap (units rt)).filter (·.path = u.path) =
      (units rt a).filter (·.path = u.path) := by
    rw [List.flatMap_append, List.flatMap_cons, List.filter_append, List.filter_append,
      hothers before fun b hb v hv => hbefore b hb a List.mem_cons_self v hv u hu,
      hothers after fun b hb v hv => (List.rel_of_pairwise_cons hafter hb u hu v hv).symm]
    simp
  refine ((h.ordered a ha).filter _).eq_of_length_le ?_ |>.symm
  rw [← hall]
  exact Nat.le_of_eq (h.perm.filter _).length_eq

end

/-! ### What the check of packages lets through -/

/-- No API is refused if none has the package of one before it. -/
theorem collision?_eq_none {before apis : List Api} :
    Batch.collision? before apis = none ↔
      (∀ a ∈ apis, ∀ b ∈ before, b.package ≠ a.package) ∧
        apis.Pairwise fun a b => a.package ≠ b.package := by
  induction apis generalizing before with
  | nil => simp [Batch.collision?]
  | cons a rest ih =>
    rw [Batch.collision?]
    cases hfind : before.find? (·.package == a.package) with
    | some first =>
      have hfirst : first.package = a.package := by simpa using List.find?_some hfind
      have hmem := List.mem_of_find?_eq_some hfind
      refine iff_of_false (by simp) fun h => ?_
      exact h.1 a List.mem_cons_self first hmem hfirst
    | none =>
      have hnone : ∀ b ∈ before, b.package ≠ a.package := by simpa using hfind
      rw [ih, List.pairwise_cons, List.forall_mem_cons]
      constructor
      · rintro ⟨hrest, hpairwise⟩
        refine ⟨⟨hnone, fun b hb c hc => ?_⟩, fun b hb => ?_, hpairwise⟩
        · exact hrest b hb c (List.mem_cons_of_mem a hc)
        · exact hrest b hb a List.mem_cons_self
      · rintro ⟨⟨-, hbefore⟩, hfirst, hpairwise⟩
        exact ⟨fun b hb => List.forall_mem_cons.2 ⟨hfirst b hb, hbefore b hb⟩, hpairwise⟩

/-- Packages of APIs with kept names have the same directory only if they are the same. -/
theorem packageDirectory_inj_of_kept {d e : Description} {settings : Settings} {a b : Api}
    (hd : Kept d.name) (he : Kept e.name) (ha : (d.generate settings).result = .ok a)
    (hb : (e.generate settings).result = .ok b)
    (h : packageDirectory a.package = packageDirectory b.package) : a.package = b.package := by
  have hpackage {d : Description} {a : Api} (h : (d.generate settings).result = .ok a) :
      a.package = settings.baseSegments ++ [snakeCase d.name] := (generates_of_generate h).package
  rw [hpackage ha, hpackage hb, packageDirectory_concat, packageDirectory_concat] at h
  have hmodule := List.singleton_inj.1 (List.append_cancel_left h)
  have hname := moduleName_eq_iff.1 hmodule
  rw [hd, he] at hname
  rw [hpackage ha, hpackage hb, hname]

/-- **The files of several APIs.** For APIs that were generated under the same settings and are not
refused for their packages, the files of any two have different paths exactly if the packages, which
differ, have different directories. This is so where names are kept as they are. Then it does not
matter in which order the APIs are written: the units with one path are always those of one API, in
its order. -/
theorem paths_apart {settings : Settings} {apis : List Api}
    (h : ∀ a ∈ apis, ∃ d : Description, (d.generate settings).result = .ok a)
    (haccepted : Batch.collision? [] apis = none) (rt : String) :
    (PathsApart rt apis ↔ ∀ a ∈ apis, ∀ b ∈ apis,
      packageDirectory a.package = packageDirectory b.package → a.package = b.package) ∧
    ((∀ a ∈ apis, ∃ d : Description, Kept d.name ∧ (d.generate settings).result = .ok a) →
      PathsApart rt apis) ∧
    (PathsApart rt apis → ∀ us, Interleaves rt apis us → ∀ a ∈ apis, ∀ u ∈ units rt a,
      us.filter (·.path = u.path) = (units rt a).filter (·.path = u.path)) := by
  have hunder : ∀ a ∈ apis, IsUnder settings.baseSegments a := by
    intro a ha
    obtain ⟨d, hd⟩ := h a ha
    exact isUnder_of_generate hd
  have hpackages := (collision?_eq_none.1 haccepted).2
  have hiff : PathsApart rt apis ↔ ∀ a ∈ apis, ∀ b ∈ apis,
      packageDirectory a.package = packageDirectory b.package → a.package = b.package := by
    rw [pathsApart_iff hunder]
    constructor
    · intro hnodup a ha b hb hdirectory
      exact congrArg Api.package (List.inj_on_of_nodup_map hnodup ha hb hdirectory)
    · intro hinj
      rw [List.Nodup, List.pairwise_map]
      exact hpackages.imp_of_mem fun ha hb hne heq => hne (hinj _ ha _ hb heq)
  refine ⟨hiff, ?_, ?_⟩
  · intro hkept
    refine hiff.2 fun a ha b hb hdirectory => ?_
    obtain ⟨d, hd, hgenerate⟩ := hkept a ha
    obtain ⟨e, he, hgenerate'⟩ := hkept b hb
    exact packageDirectory_inj_of_kept hd he hgenerate hgenerate' hdirectory
  · intro hapart us hus a ha u hu
    exact filter_of_interleaves hapart hus ha hu

/-- The books API, and the same API under another name. -/
theorem paths_apart_books :
    ∃ books library, (Description.shelves.generate {}).result = .ok books ∧
      (Description.generate { Description.shelves with name := "library" } {}).result =
        .ok library ∧
      Batch.collision? [] [books, library] = none ∧ PathsApart "runtime" [books, library] := by
  obtain ⟨books, hbooks⟩ := shelves_generate
  obtain ⟨library, hlibrary⟩ : ∃ library, (Description.generate
      { Description.shelves with name := "library" } {}).result = .ok library :=
    isOk_iff.1 (by decide +kernel)
  have hdiffer : (Description.shelves.naming {}).package ≠
      (Description.naming { Description.shelves with name := "library" } {}).package := by
    decide +kernel
  rw [← (generates_of_generate hbooks).package, ← (generates_of_generate hlibrary).package]
    at hdiffer
  have haccepted : Batch.collision? [] [books, library] = none :=
    collision?_eq_none.2 ⟨by simp, by simpa using hdiffer⟩
  have hkept : ∀ a ∈ [books, library],
      ∃ d : Description, Kept d.name ∧ (d.generate {}).result = .ok a := by
    rw [List.forall_mem_cons, List.forall_mem_singleton]
    have hascii : ∀ name ∈ ["books", "library"], ∀ c ∈ name.toList, c.toNat < 128 := by simp
    exact ⟨⟨_, kept_of_ascii (hascii "books" (by simp)) (by decide), hbooks⟩,
      ⟨_, kept_of_ascii (hascii "library" (by simp)) (by decide), hlibrary⟩⟩
  have hgenerated : ∀ a ∈ [books, library], ∃ d : Description, (d.generate {}).result = .ok a :=
    fun a ha => (hkept a ha).imp fun _ h => h.2
  exact ⟨books, library, hbooks, hlibrary, haccepted,
    (paths_apart hgenerated haccepted "runtime").2.1 hkept⟩

/-- The package `2fa` has the directory `m2fa`, as the package `m2fa` has. Neither API is refused,
and the second is written over the first. -/
theorem paths_not_apart_digit :
    ∃ a b, (Description.generate { name := "2fa", version := "v1" } {}).result = .ok a ∧
      (Description.generate { name := "m2fa", version := "v1" } {}).result = .ok b ∧
      Batch.collision? [] [a, b] = none ∧
      ∃ u ∈ units "runtime" a, ∃ v ∈ units "runtime" b,
        u.path = "generated/m2fa/mod.rs" ∧ v.path = u.path ∧ u.contents ≠ v.contents := by
  have hshared : (Description.generate { name := "2fa", version := "v1" } {}).result.toOption.any
      (fun a => (Description.generate { name := "m2fa", version := "v1" } {}).result.toOption.any
        fun b => (Batch.collision? [] [a, b]).isNone &&
          (units "runtime" a).any fun u => (units "runtime" b).any fun v =>
            u.path == "generated/m2fa/mod.rs" && (v.path == u.path && u.contents != v.contents)) =
        true := by
    decide +kernel
  obtain ⟨a, ha, hshared⟩ := Traced.exists_of_any hshared
  obtain ⟨b, hb, hshared⟩ := Traced.exists_of_any hshared
  exact ⟨a, b, ha, hb, by simpa using hshared⟩

end ClientGen.Source
