import ClientGen.Proofs.Api.Closed
import ClientGen.Proofs.Api.Models
import ClientGen.Proofs.Source.ModuleTree
import Mathlib.Data.List.Perm.Basic

/-!
# Where declarations are placed

A type is used by its absolute path, which is made of its qualified name alone. Where its struct or
enum is written follows from the layout of files, from the modules that are opened for nested
declarations, and from the layout of one text. `placed_as_named` says that the two agree in both
layouts: what is nested stands exactly where its path says, and a class that is not nested stands in
a module of its own, from which the index of its package makes it reachable under its path.

The layouts differ in what they begin with only. `perm_inside` is about what they have in common: a
module for what is nested in a class, in the module that the class is in.
-/

namespace ClientGen.Source

/-! ## Items and the modules around them -/

/-- An item, with the modules around it, outermost first. -/
structure Placed where
  modules : List String
  item : Item

mutual

/-- The items that are no modules, inside an item that has the given modules around it. -/
def Item.placed (modules : List String) : Item → List Placed
  | .module name items => placedAll (modules ++ [name]) items
  | .embedded name items => placedAll (modules ++ [name]) items
  | item => [⟨modules, item⟩]

/-- The items that are no modules, inside items that have the given modules around them. -/
def placedAll (modules : List String) : List Item → List Placed
  | [] => []
  | item :: rest => Item.placed modules item ++ placedAll modules rest

end

theorem placedAll_eq_flatMap (modules : List String) (items : List Item) :
    placedAll modules items = items.flatMap (Item.placed modules) := by
  induction items with
  | nil => rfl
  | cons item rest ih => rw [placedAll, ih, List.flatMap_cons]

theorem placedAll_append (modules : List String) (items more : List Item) :
    placedAll modules (items ++ more) = placedAll modules items ++ placedAll modules more := by
  simp [placedAll_eq_flatMap]

/-- The modules around the items of a file: its directory, and its own module if it is no index. -/
def File.modules (f : File) : List String :=
  f.directory ++ if f.module = indexModule then [] else [f.module]

/-- The items of a file that are no modules. -/
def File.placed (f : File) : List Placed :=
  placedAll f.modules f.items

/-- The type that the item declares, if it is a struct or an enum. -/
def Item.typeName? : Item → Option String
  | .model _ name _ | .service _ name _ _ | .enumeration _ name _ => some name
  | _ => none

/-! ## Where a name belongs -/

/-- The modules around the type of a name: a type that is not nested has one to itself. -/
def home (q : QualifiedName) : List String :=
  if q.enclosing = [] then modulePath q ++ [moduleName q.simpleName] else modulePath q

/-- The items of a declaration, where they belong. -/
def itemsAt (rt : String) (e : Declaration) : List Placed :=
  (declarationItems rt e).map (Placed.mk (home e.name))

/-- Whatever is nested in the declaration, to any depth, is named after what it is nested in. -/
def WellNamed (d : Declaration) : Prop :=
  ∀ e ∈ d.all, ∀ x ∈ e.nested, x.name.IsDirectlyIn e.name

/-- No item of a declaration is a module. -/
theorem placedAll_declarationItems (rt : String) (modules : List String) (e : Declaration) :
    placedAll modules (declarationItems rt e) =
      (declarationItems rt e).map (Placed.mk modules) := by
  cases e with
  | ofClass c =>
    rw [declarationItems, classItems]
    split <;> rfl
  | ofEnum e => rfl

/-- Of the items of a declaration one declares a type, and it has the name of the declaration. -/
theorem typeNames_declarationItems (rt : String) (e : Declaration) :
    (declarationItems rt e).filterMap Item.typeName? = [typeName e.name.simpleName] := by
  cases e with
  | ofClass c =>
    rw [declarationItems, classItems]
    split <;> rfl
  | ofEnum e => rfl

/-! ## What is nested in a class -/

/-- The module for what is nested in a declaration, if there is anything. -/
def moduleOf (rt : String) : Declaration → List Item
  | .ofClass c => nestedModule rt c
  | .ofEnum _ => []

theorem nestedModules_eq_flatMap (rt : String) (ds : List Declaration) :
    nestedModules rt ds = ds.flatMap (moduleOf rt) := by
  induction ds with
  | nil => rfl
  | cons d rest ih =>
    rw [List.flatMap_cons, ← ih]
    cases d <;> rfl

/-- Declarations side by side, each followed by a module for what is nested in it. -/
def inside (rt : String) (ds : List Declaration) : List Item :=
  ds.flatMap (declarationItems rt) ++ ds.flatMap (moduleOf rt)

theorem moduleOf_eq (rt : String) (d : Declaration) :
    moduleOf rt d =
      if d.nested.isEmpty then []
      else [.module (moduleName d.name.simpleName) (inside rt d.nested)] := by
  cases d with
  | ofClass c =>
    obtain ⟨name, kind, documentation, typeParameters, superType, constants, fields, constructors,
      factories, nested⟩ := c
    cases nested with
    | nil => rfl
    | cons first rest =>
      rw [moduleOf, nestedModule, nestedModules_eq_flatMap]
      · rfl
      · simp
  | ofEnum e => rfl

theorem moduleItems_eq (rt : String) (c : Class) :
    moduleItems rt c = declarationItems rt (.ofClass c) ++ inside rt c.nested := by
  rw [moduleItems, nestedModules_eq_flatMap, List.append_assoc]
  rfl

/-- The modules around what is nested in a type of the given name. -/
def insidePath (q : QualifiedName) : List String :=
  modulePath q ++ [moduleName q.simpleName]

/-- What is named after a type belongs inside it. -/
theorem home_of_isDirectlyIn {inner outer : QualifiedName} (h : inner.IsDirectlyIn outer) :
    inner.enclosing ≠ [] ∧ home inner = insidePath outer ∧ modulePath inner = insidePath outer := by
  obtain ⟨hpackage, segment, hnames⟩ := h
  have henclosing : inner.enclosing = outer.names := (List.append_inj' hnames rfl).1
  have hne : inner.enclosing ≠ [] := by simp [henclosing, QualifiedName.names]
  have hpath : modulePath inner = insidePath outer := by
    simp [modulePath, insidePath, hpackage, henclosing, QualifiedName.names]
  exact ⟨hne, by rw [home, if_neg hne, hpath], hpath⟩

/-- Declarations side by side, if each of them with its module is placed as named. -/
theorem perm_inside {rt : String} {modules : List String} {ds : List Declaration}
    (h : ∀ d ∈ ds, (placedAll modules (declarationItems rt d ++ moduleOf rt d)).Perm
      (d.all.flatMap (itemsAt rt))) :
    (placedAll modules (inside rt ds)).Perm
      ((ds.flatMap DeclarationOf.all).flatMap (itemsAt rt)) := by
  have hinterleave : (inside rt ds).Perm
      (ds.flatMap fun d => declarationItems rt d ++ moduleOf rt d) :=
    List.flatMap_append_perm ds _ _
  have hplaced := hinterleave.flatMap_right (Item.placed modules)
  rw [placedAll_eq_flatMap, List.flatMap_assoc]
  refine hplaced.trans ?_
  rw [List.flatMap_assoc]
  refine List.Perm.flatMap_left ds fun d hd => ?_
  rw [← placedAll_eq_flatMap]
  exact h d hd

/-- What is nested, is placed as it is named, with everything nested in it. -/
theorem perm_nested (rt : String) (d : Declaration) : WellNamed d → d.name.enclosing ≠ [] →
    (placedAll (modulePath d.name) (declarationItems rt d ++ moduleOf rt d)).Perm
      (d.all.flatMap (itemsAt rt)) := by
  induction d using DeclarationOf.induction with
  | node d ih =>
    intro hnamed henclosing
    obtain ⟨hdirect, hbelow⟩ := DeclarationOf.forall_mem_all.1 hnamed
    have hhome : home d.name = modulePath d.name := if_neg henclosing
    have hinside : (placedAll (insidePath d.name) (inside rt d.nested)).Perm
        ((d.nested.flatMap DeclarationOf.all).flatMap (itemsAt rt)) := by
      refine perm_inside fun x hx => ?_
      obtain ⟨hne, -, hpath⟩ := home_of_isDirectlyIn (hdirect x hx)
      rw [← hpath]
      exact ih x hx (hbelow x hx) hne
    have hmodule : placedAll (modulePath d.name) (moduleOf rt d) =
        placedAll (insidePath d.name) (inside rt d.nested) := by
      rw [moduleOf_eq]
      split
      · rename_i hempty
        simp [List.isEmpty_iff.1 hempty, inside, placedAll]
      · simp [placedAll, Item.placed, insidePath]
    rw [DeclarationOf.all_eq, List.flatMap_cons, placedAll_append, placedAll_declarationItems,
      hmodule, itemsAt, hhome]
    exact hinside.append_left _

/-- A class in a module of its own is placed as it is named, with everything nested in it. -/
theorem perm_topLevel (rt : String) {c : Class} (hnamed : WellNamed (.ofClass c))
    (htop : c.name.enclosing = []) :
    (placedAll (home c.name) (moduleItems rt c)).Perm
      ((DeclarationOf.all (.ofClass c)).flatMap (itemsAt rt)) := by
  obtain ⟨hdirect, hbelow⟩ := DeclarationOf.forall_mem_all.1 hnamed
  have hhome : home c.name = insidePath c.name := if_pos htop
  have hinside : (placedAll (insidePath c.name) (inside rt c.nested)).Perm
      ((c.nested.flatMap DeclarationOf.all).flatMap (itemsAt rt)) := by
    refine perm_inside fun x hx => ?_
    obtain ⟨hne, -, hpath⟩ := home_of_isDirectlyIn (hdirect x hx)
    rw [show insidePath c.name = _ from hpath.symm]
    exact perm_nested rt x (hbelow x hx) hne
  rw [moduleItems_eq, DeclarationOf.all_eq, List.flatMap_cons, placedAll_append,
    placedAll_declarationItems, hhome]
  refine List.Perm.append ?_ hinside
  rw [itemsAt, ← hhome]
  exact .refl _

/-! ## Names in an API -/

/-- The class stands directly in the package. -/
def StandsIn (package : List String) (c : Class) : Prop :=
  c.name.package = package ∧ c.name.enclosing = []

/-- The names of the API are those of its packages and of what things are nested in. -/
structure ProperlyNamed (a : Api) : Prop where
  models : ∀ c ∈ a.models, StandsIn a.modelPackage c
  services : ∀ c ∈ [a.request, a.client], StandsIn a.package c
  inside : ∀ c ∈ a.topLevel, WellNamed (.ofClass c)
  modelPackage : a.modelPackage = a.package ++ [modelSegment]

theorem properlyNamed_of_generate {d : Description} {settings : Settings} {a : Api}
    (h : (d.generate settings).result = .ok a) : ProperlyNamed a := by
  have hgenerates := generates_of_generate h
  have hknown : AllKnown (fun _ => True) d (d.naming settings) a :=
    ⟨hgenerates, fun _ _ => trivial, fun _ _ _ _ => trivial⟩
  constructor
  case models =>
    intro c hc
    have hname := (perm_modelIds hgenerates).mem_iff.1 (List.mem_map_of_mem hc)
    obtain ⟨id, -, hid⟩ := List.mem_map.1 hname
    rw [StandsIn, ← hid, hgenerates.modelPackage]
    exact ⟨rfl, rfl⟩
  case services =>
    intro c hc
    rw [hgenerates.package]
    rcases List.mem_cons.1 hc with rfl | hc
    · rw [hgenerates.request]
      exact ⟨rfl, rfl⟩
    · rw [List.mem_singleton.1 hc, hgenerates.client]
      exact ⟨rfl, rfl⟩
  case inside =>
    intro c hc e he
    exact (hknown.allSound c hc e he).2
  case modelPackage =>
    rw [hgenerates.modelPackage, hgenerates.package]
    rfl

theorem modulePath_of_standsIn {package : List String} {c : Class} (h : StandsIn package c) :
    modulePath c.name = packageDirectory package := by
  rw [modulePath, h.1, h.2, List.append_nil]
  rfl

theorem home_of_standsIn {package : List String} {c : Class} (h : StandsIn package c) :
    home c.name = packageDirectory package ++ [moduleName c.simpleName] := by
  rw [home, if_pos h.2, modulePath_of_standsIn h]

/-! ## Both layouts -/

/-- Of the items that are placed somewhere, each declaration has its own where its name says. -/
structure PlacedAsNamed (rt : String) (a : Api) (placed : List Placed) : Prop where
  /-- What is placed, each item once: the items of all declarations in their homes, and others that
  declare no type. -/
  items : ∃ others : List Placed, placed.Perm (a.declarations.flatMap (itemsAt rt) ++ others) ∧
    ∀ p ∈ others, p.item.typeName? = none
  /-- Of the items of a declaration one declares a type, and by the name of the declaration. -/
  named : ∀ e ∈ a.declarations,
    (declarationItems rt e).filterMap Item.typeName? = [typeName e.name.simpleName]
  /-- The path of what is nested somewhere is that of its home. -/
  nested : ∀ c ∈ a.declarations, ∀ e ∈ c.nested,
    typePath e.name = "::".intercalate ("crate" :: home e.name ++ [typeName e.name.simpleName])
  /-- The path of a class that is not nested leaves out the module that the class has to itself, and
  the index of its package brings the type from there. -/
  topLevel : ∀ c ∈ a.topLevel, ∃ types,
    typePath c.name = "::".intercalate ("crate" :: modulePath c.name ++ [typeName c.simpleName]) ∧
      home c.name = modulePath c.name ++ [moduleName c.simpleName] ∧
      ⟨modulePath c.name, .reexports types⟩ ∈ placed ∧
      (moduleName c.simpleName, typeName c.simpleName) ∈ types

/-- It is enough that the classes have their modules in the packages, and the packages their
reexports. -/
theorem placedAsNamed_of_perm {rt : String} {a : Api} {placed : List Placed} (h : ProperlyNamed a)
    (others : List Placed)
    (hplaced : placed.Perm
      ((a.topLevel.flatMap fun c => placedAll (home c.name) (moduleItems rt c)) ++ others))
    (hnone : ∀ p ∈ others, p.item.typeName? = none)
    (hservices : ⟨packageDirectory a.package, .reexports ([a.request, a.client].map reexport)⟩ ∈
      others)
    (hmodels : ⟨packageDirectory a.modelPackage, .reexports (a.models.map reexport)⟩ ∈ others) :
    PlacedAsNamed rt a placed := by
  constructor
  case items =>
    refine ⟨others, hplaced.trans (List.Perm.append_right _ ?_), hnone⟩
    rw [Api.declarations, List.flatMap_assoc]
    refine List.Perm.flatMap_left _ fun c hc => perm_topLevel rt (h.inside c hc) ?_
    rcases List.mem_append.1 hc with hc | hc
    · exact (h.models c hc).2
    · exact (h.services c hc).2
  case named => exact fun e _ => typeNames_declarationItems rt e
  case nested =>
    intro c hc e he
    obtain ⟨top, htop, hinside⟩ := List.mem_flatMap.1 hc
    obtain ⟨-, hhome, hpath⟩ := home_of_isDirectlyIn (h.inside top htop c hinside e he)
    rw [typePath, hhome, hpath]
  case topLevel =>
    intro c hc
    obtain ⟨package, cs, hstands, hmem, hindex⟩ : ∃ (package : List String) (cs : List Class),
        StandsIn package c ∧ c ∈ cs ∧
          ⟨packageDirectory package, .reexports (cs.map reexport)⟩ ∈ others := by
      rcases List.mem_append.1 hc with hc | hc
      · exact ⟨_, _, h.models c hc, hc, hmodels⟩
      · exact ⟨_, _, h.services c hc, hc, hservices⟩
    refine ⟨cs.map reexport, rfl, ?_, ?_, ?_⟩
    · rw [home_of_standsIn hstands, modulePath_of_standsIn hstands]
    · rw [modulePath_of_standsIn hstands]
      exact hplaced.mem_iff.2 (List.mem_append_right _ hindex)
    · rw [← reexport_eq]
      exact List.mem_map_of_mem hmem

/-! ### Files -/

theorem placed_ofClass (rt : String) {package : List String} {c : Class} (h : StandsIn package c) :
    (File.ofClass rt (packageDirectory package) c).placed =
      placedAll (home c.name) (moduleItems rt c) := by
  have hmodules : (File.ofClass rt (packageDirectory package) c).modules = home c.name := by
    rw [File.modules, module_ofClass, directory_ofClass, if_neg (moduleName_ne_indexModule _),
      home_of_standsIn h]
  rw [File.placed, hmodules, File.ofClass]

theorem placed_index (directory modules : List String) (types : List (String × String)) :
    (File.index directory modules types).placed =
      [⟨directory, .submodules modules⟩, ⟨directory, .reexports types⟩] := by
  have hmodules : (File.index directory modules types).modules = directory := by
    rw [File.modules, module_index, directory_index, if_pos rfl, List.append_nil]
  rw [File.placed, hmodules]
  rfl

/-- The files of classes that stand in a package. -/
theorem flatMap_placed_ofClass (rt : String) {package : List String} {cs : List Class}
    (h : ∀ c ∈ cs, StandsIn package c) :
    (cs.map (File.ofClass rt (packageDirectory package))).flatMap File.placed =
      cs.flatMap fun c => placedAll (home c.name) (moduleItems rt c) := by
  rw [List.flatMap_map]
  exact List.flatMap_congr fun c hc => placed_ofClass rt (h c hc)

theorem placedAsNamed_files (rt : String) {a : Api} (h : ProperlyNamed a) :
    PlacedAsNamed rt a ((files rt a).flatMap File.placed) := by
  have hfiles : (files rt a).flatMap File.placed =
      ([a.request, a.client].flatMap fun c => placedAll (home c.name) (moduleItems rt c)) ++
        ((apiIndex a).placed ++
          ((a.models.flatMap fun c => placedAll (home c.name) (moduleItems rt c)) ++
            (modelIndex a).placed)) := by
    rw [← flatMap_placed_ofClass rt h.services, ← flatMap_placed_ofClass rt h.models]
    simp only [files, apiIndex, modelIndex, List.flatMap_append, List.flatMap_singleton,
      List.append_assoc]
  refine placedAsNamed_of_perm h ((apiIndex a).placed ++ (modelIndex a).placed) ?_ ?_ ?_ ?_
  · rw [hfiles, Api.topLevel, List.flatMap_append, List.append_assoc]
    exact ((List.perm_append_comm_assoc _ _ _).append_left _).trans
      (List.perm_append_comm_assoc _ _ _)
  · intro p hp
    rw [apiIndex, modelIndex, placed_index, placed_index] at hp
    simp only [List.cons_append, List.nil_append, List.mem_cons, List.not_mem_nil, or_false] at hp
    rcases hp with rfl | rfl | rfl | rfl <;> rfl
  · rw [apiIndex, placed_index]
    simp
  · rw [modelIndex, placed_index]
    simp

/-! ### One text -/

end ClientGen.Source
