import ClientGen.Proofs.Source.Apart
import Mathlib.Data.List.Infix
import Mathlib.Data.List.Sort

/-!
# The indexes of the base package

The base package belongs to all APIs, so its indexes are made from the list of APIs, in whatever
order and however often the APIs are in it. All that counts are the last segments of their packages:
`sortedDistinct_congr` makes one list of the same names, so that the indexes are the same for two
lists of APIs with the same segments. There is one index for every beginning of the base package,
`map_directory_baseIndexes`. The files of APIs are further down than any of them, so that no two of
these files are in one place. The index of the whole base package has a line for every module of an
API, in order: `base_indexes`.
-/

namespace ClientGen.Source

open Text

/-! ## Names in order -/

theorem pairwise_sortedDistinct (names : List String) : (sortedDistinct names).Pairwise (· < ·) :=
  List.pairwise_map.2 (Keyed.ordered_ofList _)

/-- Names in order, each of them once, are known by which names there are. -/
theorem sortedDistinct_congr {names others : List String}
    (h : ∀ name, name ∈ names ↔ name ∈ others) : sortedDistinct names = sortedDistinct others := by
  refine (pairwise_sortedDistinct names).eq_of_mem_iff (pairwise_sortedDistinct others) ?_
  intro name
  rw [mem_sortedDistinct, mem_sortedDistinct, h]

/-- The last segments of the packages of APIs, by which their modules are called. -/
def lastSegments (apis : List Api) : List String :=
  apis.filterMap fun a => a.package.getLast?

theorem apiModules_eq (apis : List Api) :
    apiModules apis = sortedDistinct ((lastSegments apis).map moduleName) := by
  rw [apiModules, lastSegments, List.map_filterMap]

theorem apiModules_congr {apis others : List Api}
    (h : ∀ segment, segment ∈ lastSegments apis ↔ segment ∈ lastSegments others) :
    apiModules apis = apiModules others := by
  rw [apiModules_eq, apiModules_eq]
  refine sortedDistinct_congr fun name => ?_
  simp only [List.mem_map, h]

/-! ## Beginnings of the base package -/

/-- The packages that have an index: the beginnings of the base package, the shortest first. The
empty package counts if it is the base package itself. -/
def indexedPackages (base : List String) : List (List String) :=
  if base = [] then [[]] else base.inits.tail

theorem pairwise_inits {α : Type} (l : List α) :
    l.inits.Pairwise fun a b => a.length < b.length := by
  induction l with
  | nil => exact List.pairwise_singleton _ _
  | cons a rest ih =>
    rw [List.inits_cons, List.pairwise_cons, List.pairwise_map]
    refine ⟨?_, ih.imp fun hlt => Nat.succ_lt_succ hlt⟩
    intro t ht
    obtain ⟨t, -, rfl⟩ := List.mem_map.1 ht
    exact Nat.zero_lt_succ _

theorem pairwise_indexedPackages (base : List String) :
    (indexedPackages base).Pairwise fun a b => a.length < b.length := by
  unfold indexedPackages
  split
  · exact List.pairwise_singleton _ _
  · exact (pairwise_inits base).tail

theorem map_directory_indexesBelow (apis directory segments : List String) :
    (indexesBelow apis directory segments).map File.directory =
      segments.inits.tail.map (directory ++ ·) := by
  fun_induction indexesBelow apis directory segments with
  | case1 => rfl
  | case2 directory segment => rfl
  | case3 directory segment next rest ih =>
    rw [List.map_cons, ih, List.inits_cons segment, List.tail_cons, List.map_map, List.inits_cons]
    simp [Function.comp_def]

/-- **There is one index** for every beginning of the base package. -/
theorem map_directory_baseIndexes (base : List String) (apis : List Api) :
    (baseIndexes base apis).map File.directory =
      (indexedPackages base).map packageDirectory := by
  unfold baseIndexes indexedPackages
  split
  · rename_i hbase
    rw [if_pos (List.map_eq_nil_iff.1 hbase)]
    rfl
  · rename_i hbase
    rw [if_neg (fun hempty => hbase (by rw [hempty]; rfl)), map_directory_indexesBelow,
      packageDirectory, List.map_inits, List.map_tail, List.map_tail, List.map_map]
    rfl

theorem module_of_mem_baseIndexes {base : List String} {apis : List Api} {f : File}
    (hf : f ∈ baseIndexes base apis) : f.module = indexModule := by
  rcases mem_baseIndexes.1 hf with rfl | ⟨_, _, _, -, -, rfl⟩ <;> rfl

/-- The index of the whole base package is the last one. -/
theorem getLast?_indexesBelow {apis directory segments : List String} (hne : segments ≠ []) :
    (indexesBelow apis directory segments).getLast? =
      some (.index (directory ++ segments) apis []) := by
  fun_induction indexesBelow apis directory segments with
  | case1 => exact absurd rfl hne
  | case2 directory segment => rfl
  | case3 directory segment next rest ih =>
    rw [List.getLast?_cons, ih (List.cons_ne_nil _ _)]
    simp

theorem getLast?_baseIndexes (base : List String) (apis : List Api) :
    (baseIndexes base apis).getLast? =
      some (.index (packageDirectory base) (apiModules apis) []) := by
  unfold baseIndexes
  split
  · rename_i hbase
    rw [hbase]
    rfl
  · rename_i hbase
    exact getLast?_indexesBelow hbase

/-! ## Places -/

/-- The path of the index of a package. -/
def indexPath (package : List String) : String :=
  "/".intercalate (package.map moduleName ++ ["mod.rs"])

theorem map_path_baseUnits (base : List String) (apis : List Api) :
    (baseUnits base apis).map (·.path) = (indexedPackages base).map indexPath := by
  have hpath : ∀ f ∈ baseIndexes base apis,
      f.unit.path = "/".intercalate (f.directory ++ ["mod.rs"]) := by
    intro f hf
    show f.path = _
    rw [File.path, module_of_mem_baseIndexes hf]
    rfl
  have hdirectories := congrArg (List.map fun d => "/".intercalate (d ++ ["mod.rs"]))
    (map_directory_baseIndexes base apis)
  rw [List.map_map, List.map_map] at hdirectories
  rw [baseUnits, List.map_map]
  exact (List.map_congr_left hpath).trans hdirectories

/-- No two indexes have the same path. -/
theorem nodup_path_baseUnits (base : List String) (apis : List Api) :
    ((baseUnits base apis).map (·.path)).Nodup := by
  have hnamed : ∀ f ∈ baseIndexes base apis, f.Named := by
    intro f hf
    have hproper : Proper "" f := proper_baseIndexes hf
    exact hproper.named
  refine (nodup_paths_iff hnamed).2 ?_
  have hdirectories : ((baseIndexes base apis).map File.directory).Nodup := by
    rw [map_directory_baseIndexes, List.Nodup, List.pairwise_map]
    refine (pairwise_indexedPackages base).imp fun hlt heq => ?_
    have hlength := congrArg List.length heq
    simp only [packageDirectory, List.length_map] at hlength
    omega
  rw [List.Nodup, List.pairwise_map] at hdirectories ⊢
  exact hdirectories.imp fun hne hplace => hne (congrArg Prod.fst hplace)

/-- The index of a package in the base package is further up than the files of an API. -/
theorem path_ne_of_isUnder {rt : String} {base : List String} {apis : List Api} {a : Api}
    (h : IsUnder base a) : ∀ u ∈ units rt a, ∀ v ∈ baseUnits base apis, u.path ≠ v.path := by
  intro u hu v hv hpath
  obtain ⟨f, hf, rfl⟩ := List.mem_map.1 hu
  obtain ⟨g, hg, rfl⟩ := List.mem_map.1 hv
  have hproper : Proper rt g := proper_baseIndexes hg
  have hplace := (path_eq_iff (proper_files hf).named hproper.named).1 hpath
  have hdirectory : f.directory = g.directory := congrArg Prod.fst hplace
  have hdeep := congrArg List.length (take_directory h hf)
  obtain ⟨name, hpackage, -⟩ := h
  have hshort : g.directory.length ≤ base.length := by
    have hlength : (packageDirectory base).length = base.length := List.length_map _
    rcases mem_baseIndexes.1 hg with rfl | ⟨before, next, rest, -, hbase, rfl⟩
    · exact Nat.le_of_eq hlength
    · rw [hbase, List.length_append] at hlength
      exact Nat.le_of_add_right_le (Nat.le_of_eq hlength)
  rw [hdirectory, hpackage, packageDirectory_concat, List.length_take, List.length_append,
    packageDirectory, List.length_map, List.length_singleton] at hdeep
  omega

/-! ## The innermost index -/

/-- The lines of the index of the whole base package: one for every module of an API, below the
header. -/
theorem lines_innermost (base : List String) (apis : List Api) :
    lines (File.index (packageDirectory base) (apiModules apis) []).contents =
      header :: "" :: (apiModules apis).map submoduleLine := by
  have hmodules : ∀ m ∈ apiModules apis, IsName m.toList := by
    intro m hm
    obtain ⟨a, -, last, -, rfl⟩ := mem_apiModules.1 hm
    exact isName_moduleName last
  rw [lines_index hmodules (by simp)]
  simp [indexLines]

/-- **The indexes of the base package** are the same for all lists of APIs whose packages have the
same last segments. There is one for every beginning of the base package that is not empty, or the
one at the top for the empty base package; no two of them have the same path, and no file of an API
that is generated under the base package has the path of one. The last of them, that of the whole
base package, has a line for every module of an API, once, in order, and no other lines below its
header. -/
theorem base_indexes (base : List String) (apis : List Api) :
    (∀ others, (∀ segment, segment ∈ lastSegments others ↔ segment ∈ lastSegments apis) →
      baseUnits base others = baseUnits base apis) ∧
    (baseUnits base apis).map (·.path) = (indexedPackages base).map indexPath ∧
    ((baseUnits base apis).map (·.path)).Nodup ∧
    (∀ (d : Description) settings a rt, settings.baseSegments = base →
      (d.generate settings).result = .ok a →
        ∀ u ∈ units rt a, ∀ v ∈ baseUnits base apis, u.path ≠ v.path) ∧
    ∃ (innermost : SourceUnit) (modules : List String),
      (baseUnits base apis).getLast? = some innermost ∧
      innermost.path = indexPath base ∧
      lines innermost.contents = header :: "" :: modules.map submoduleLine ∧
      modules.Pairwise (· < ·) ∧
      ∀ m, m ∈ modules ↔ ∃ segment ∈ lastSegments apis, moduleName segment = m := by
  refine ⟨?_, map_path_baseUnits base apis, nodup_path_baseUnits base apis, ?_, ?_⟩
  · intro others h
    rw [baseUnits, baseUnits, baseIndexes, baseIndexes, apiModules_congr h]
  · rintro d settings a rt rfl h
    exact path_ne_of_isUnder (isUnder_of_generate h)
  · refine ⟨(File.index (packageDirectory base) (apiModules apis) []).unit, apiModules apis, ?_,
      rfl, lines_innermost base apis, ?_, ?_⟩
    · rw [baseUnits, List.getLast?_map, getLast?_baseIndexes]
      rfl
    · exact pairwise_sortedDistinct _
    · intro m
      rw [apiModules_eq, mem_sortedDistinct, List.mem_map]

end ClientGen.Source
