import ClientGen.Proofs.Description.Tree
import ClientGen.Proofs.Json.Invariant

/-!
# Descriptions in order

All maps of a description have their keys in order: those of schemas, of the properties of a schema,
of parameters, of methods and of resources, at every depth. `Description.Ordered` says so, and
`ordered_of_ofText` proves it of every description that is read from a text.
-/

namespace ClientGen

open Json

/-! ## The order of all maps -/

/-- The properties of the schema, and of all schemas below it, are in the order of their names. -/
inductive Schema.Ordered : Schema → Prop
  | intro (s : Schema) (properties : ∀ entries, s.properties = some entries → Keyed.Ordered entries)
    (below : ∀ entries, s.properties = some entries → ∀ e ∈ entries, Schema.Ordered e.2)
    (additional : ∀ value, s.additionalProperties = some value → Schema.Ordered value)
    (items : ∀ items, s.items = some items → Schema.Ordered items) : Schema.Ordered s

/-- The schemas are in the order of their names, and so is all that is in them. -/
def Keyed.SchemasOrdered (schemas : Keyed Schema) : Prop :=
  schemas.Ordered ∧ ∀ e ∈ schemas, e.2.Ordered

/-- Methods and resources are in the order of their names, and so are the parameters of methods, at
every depth. -/
inductive Resource.Ordered : Resource → Prop
  | intro (methods : Keyed Method) (resources : Keyed Resource) (ordered : methods.Ordered)
    (parameters : ∀ e ∈ methods, e.2.parameters.SchemasOrdered)
    (orderedResources : resources.Ordered) (below : ∀ e ∈ resources, Resource.Ordered e.2) :
    Resource.Ordered ⟨methods, resources⟩

theorem Resource.ordered_iff {methods : Keyed Method} {resources : Keyed Resource} :
    Resource.Ordered ⟨methods, resources⟩ ↔
      (methods.Ordered ∧ ∀ e ∈ methods, e.2.parameters.SchemasOrdered) ∧
        resources.Ordered ∧ ∀ e ∈ resources, e.2.Ordered := by
  constructor
  · rintro ⟨_, _, hmethods, hparameters, hresources, hbelow⟩
    exact ⟨⟨hmethods, hparameters⟩, hresources, hbelow⟩
  · rintro ⟨⟨hmethods, hparameters⟩, hresources, hbelow⟩
    exact .intro methods resources hmethods hparameters hresources hbelow

/-- The parameters of all methods in a tree that is in order are in order. -/
theorem Resource.parameters_ordered (node : Resource) :
    ∀ owner, node.Ordered → ∀ site ∈ node.methodSites owner,
      site.method.parameters.SchemasOrdered := by
  induction node using Resource.induction with
  | node methods resources ih =>
    intro owner hordered site hsite
    obtain ⟨⟨-, hparameters⟩, -, hbelow⟩ := Resource.ordered_iff.1 hordered
    rcases Resource.mem_methodSites.1 hsite with ⟨e, he, rfl⟩ | ⟨e, he, hsite⟩
    · exact hparameters e he
    · exact ih e he _ (hbelow e he) site hsite

/-- All maps of the description are in the order of their keys. -/
structure Description.Ordered (d : Description) : Prop where
  schemas : d.schemas.SchemasOrdered
  parameters : d.parameters.SchemasOrdered
  tree : d.tree.Ordered

/-! ## Schemas as they are read -/

namespace Schema

theorem ordered_default : ({} : Schema).Ordered := by
  constructor
  · intro entries h
    cases h
  · intro entries h
    cases h
  · intro value h
    cases h
  · intro items h
    cases h

/-- Only three keywords of a schema matter for the order. -/
theorem Ordered.congr {s t : Schema} (h : s.Ordered) (hproperties : t.properties = s.properties)
    (hadditional : t.additionalProperties = s.additionalProperties) (hitems : t.items = s.items) :
    t.Ordered := by
  obtain ⟨_, properties, below, additional, items⟩ := h
  constructor
  · rw [hproperties]
    exact properties
  · rw [hproperties]
    exact below
  · rw [hadditional]
    exact additional
  · rw [hitems]
    exact items

/-- A schema that is read keeps the order with every keyword, if the schemas inside it have it. -/
theorem keeps_recordKind {levels : Nat} {inner entry : Json → Reading Schema}
    (hinner : ∀ json s, inner json = .ok s → s.Ordered)
    (hentry : ∀ json s, entry json = .ok s → s.Ordered) :
    (recordKind levels inner entry).Keeps Schema.Ordered := by
  intro key json s t h hs
  dsimp only [recordKind] at h
  split at h
  case h_6 =>
    obtain ⟨properties, hread, rfl⟩ := Reading.stored_eq_ok.1 h
    have hmap : ∀ entries, properties = some entries →
        Keyed.Ordered entries ∧ ∀ e ∈ entries, e.2.Ordered := by
      rintro entries rfl
      obtain ⟨json, hread⟩ := readOptional_ok hread
      obtain ⟨hordered, hentries⟩ := readMap_ok hread
      refine ⟨hordered, fun e he => ?_⟩
      obtain ⟨json, hjson⟩ := hentries e he
      exact hentry json e.2 hjson
    obtain ⟨_, -, -, additional, items⟩ := hs
    exact .intro _ (fun entries h => (hmap entries h).1) (fun entries h => (hmap entries h).2)
      additional items
  case h_7 =>
    obtain ⟨value, hread, rfl⟩ := Reading.stored_eq_ok.1 h
    obtain ⟨_, properties, below, -, items⟩ := hs
    refine .intro _ properties below ?_ items
    rintro value rfl
    obtain ⟨json, hjson⟩ := readOptional_ok hread
    exact hinner json value hjson
  case h_8 =>
    obtain ⟨value, hread, rfl⟩ := Reading.stored_eq_ok.1 h
    obtain ⟨_, properties, below, additional, -⟩ := hs
    refine .intro _ properties below additional ?_
    rintro value rfl
    obtain ⟨json, hjson⟩ := readOptional_ok hread
    exact hinner json value hjson
  case h_12 =>
    rw [Reading.pure_eq_ok] at h
    exact h ▸ hs
  -- the other keywords have nothing to do with the order
  all_goals
    obtain ⟨value, -, rfl⟩ := Reading.stored_eq_ok.1 h
    exact hs.congr rfl rfl rfl

theorem ordered_of_ofJson (levels : Nat) :
    ∀ json s, ofJson levels json = .ok s → s.Ordered := by
  have hdeep : ∀ json s, tooDeep json = .ok s → s.Ordered := by
    intro json s h
    cases h
  induction levels using Nat.strongRecOn with
  | ind levels ih =>
    intro json s h
    match levels, ih, h with
    | 0, _, h => exact RecordKind.read_invariant (keeps_recordKind hdeep hdeep) ordered_default h
    | 1, ih, h =>
      exact RecordKind.read_invariant (keeps_recordKind (ih 0 (by omega)) hdeep) ordered_default h
    | n + 2, ih, h =>
      exact RecordKind.read_invariant
        (keeps_recordKind (ih (n + 1) (by omega)) (ih n (by omega))) ordered_default h

end Schema

/-- A map of schemas is read in order. -/
theorem schemasOrdered_of_read {levels : Nat} {json : Json} {schemas : Keyed Schema}
    (h : readSchemas levels json = .ok schemas) : schemas.SchemasOrdered := by
  obtain ⟨hordered, hentries⟩ := readMap_ok h
  refine ⟨hordered, fun e he => ?_⟩
  obtain ⟨json, hjson⟩ := hentries e he
  exact Schema.ordered_of_ofJson _ json e.2 hjson

theorem schemasOrdered_nil : Keyed.SchemasOrdered [] := by
  constructor
  · exact List.Pairwise.nil
  · intro e he
    cases he

/-! ## Methods and resources as they are read -/

theorem Method.parameters_ordered_of_ofJson {levels : Nat} {json : Json} {m : Method}
    (h : Method.ofJson levels json = .ok m) : m.parameters.SchemasOrdered := by
  have hkeeps : (recordKind (levels - 1)).Keeps fun m => m.parameters.SchemasOrdered := by
    intro key json m m' h hm
    dsimp only [recordKind] at h
    split at h
    case h_6 =>
      obtain ⟨parameters, hread, rfl⟩ := Reading.stored_eq_ok.1 h
      exact schemasOrdered_of_read hread
    case h_9 =>
      rw [Reading.pure_eq_ok] at h
      exact h ▸ hm
    all_goals
      obtain ⟨value, -, rfl⟩ := Reading.stored_eq_ok.1 h
      exact hm
  exact RecordKind.read_invariant hkeeps schemasOrdered_nil h

theorem ordered_of_readMethods {levels : Nat} {json : Json} {methods : Keyed Method}
    (h : readMethods levels json = .ok methods) :
    methods.Ordered ∧ ∀ e ∈ methods, e.2.parameters.SchemasOrdered := by
  obtain ⟨hordered, hentries⟩ := readMap_ok h
  refine ⟨hordered, fun e he => ?_⟩
  obtain ⟨json, hjson⟩ := hentries e he
  exact Method.parameters_ordered_of_ofJson hjson

namespace Resource

theorem ordered_default : ({} : Resource).Ordered := by
  refine .intro [] [] List.Pairwise.nil ?_ List.Pairwise.nil ?_
  · intro e he
    cases he
  · intro e he
    cases he

theorem keeps_recordKind {levels : Nat} {entry : Json → Reading Resource}
    (hentry : ∀ json r, entry json = .ok r → r.Ordered) :
    (recordKind levels entry).Keeps Resource.Ordered := by
  intro key json ⟨methods, resources⟩ r' h hr
  dsimp only [recordKind] at h
  obtain ⟨hmethods, hresources⟩ := ordered_iff.1 hr
  split at h
  · obtain ⟨value, hread, rfl⟩ := Reading.stored_eq_ok.1 h
    exact ordered_iff.2 ⟨ordered_of_readMethods hread, hresources⟩
  · obtain ⟨value, hread, rfl⟩ := Reading.stored_eq_ok.1 h
    obtain ⟨hordered, hentries⟩ := readMap_ok hread
    refine ordered_iff.2 ⟨hmethods, hordered, fun e he => ?_⟩
    obtain ⟨json, hjson⟩ := hentries e he
    exact hentry json e.2 hjson
  · rw [Reading.pure_eq_ok] at h
    exact h ▸ hr

theorem ordered_of_ofJson (levels : Nat) :
    ∀ json r, ofJson levels json = .ok r → r.Ordered := by
  have hdeep : ∀ (json : Json) (r : Resource),
      (.error (.broken .malformed) : Reading Resource) = .ok r → r.Ordered := by
    intro json r h
    cases h
  induction levels using Nat.strongRecOn with
  | ind levels ih =>
    intro json r h
    match levels, ih, h with
    | 0, _, h => exact RecordKind.read_invariant (keeps_recordKind hdeep) ordered_default h
    | 1, _, h => exact RecordKind.read_invariant (keeps_recordKind hdeep) ordered_default h
    | n + 2, ih, h =>
      exact RecordKind.read_invariant (keeps_recordKind (ih n (by omega))) ordered_default h

end Resource

/-! ## Descriptions as they are read -/

namespace Description

theorem ordered_default : ({} : Description).Ordered where
  schemas := schemasOrdered_nil
  parameters := schemasOrdered_nil
  tree := Resource.ordered_default

theorem keeps_recordKind (levels : Nat) : (recordKind levels).Keeps Description.Ordered := by
  intro key json d d' h hd
  dsimp only [recordKind] at h
  obtain ⟨hmethods, hresources⟩ := Resource.ordered_iff.1 hd.tree
  split at h
  case h_8 =>
    obtain ⟨value, hread, rfl⟩ := Reading.stored_eq_ok.1 h
    exact { hd with parameters := schemasOrdered_of_read hread }
  case h_9 =>
    obtain ⟨value, hread, rfl⟩ := Reading.stored_eq_ok.1 h
    exact { hd with schemas := schemasOrdered_of_read hread }
  case h_10 =>
    obtain ⟨value, hread, rfl⟩ := Reading.stored_eq_ok.1 h
    obtain ⟨hordered, hentries⟩ := readMap_ok hread
    refine { hd with tree := Resource.ordered_iff.2 ⟨hmethods, hordered, fun e he => ?_⟩ }
    obtain ⟨json, hjson⟩ := hentries e he
    exact Resource.ordered_of_ofJson _ json e.2 hjson
  case h_11 =>
    obtain ⟨value, hread, rfl⟩ := Reading.stored_eq_ok.1 h
    exact { hd with tree := Resource.ordered_iff.2 ⟨ordered_of_readMethods hread, hresources⟩ }
  case h_12 =>
    rw [Reading.pure_eq_ok] at h
    exact h ▸ hd
  all_goals
    obtain ⟨value, -, rfl⟩ := Reading.stored_eq_ok.1 h
    exact ⟨hd.schemas, hd.parameters, hd.tree⟩

/-- Every description that is read from a text is in order. -/
theorem ordered_of_ofText {text : String} {d : Description} (h : ofText text = .ok d) :
    d.Ordered := by
  obtain ⟨read, hread, h⟩ := Reading.bind_eq_ok.1 h
  obtain ⟨-, -, h⟩ := Reading.bind_eq_ok.1 h
  rw [Reading.pure_eq_ok] at h
  subst h
  exact RecordKind.read_invariant (keeps_recordKind _) ordered_default hread

end Description

/-! ## The small API -/

/-- A schema without other schemas in it, apart from properties. -/
theorem Schema.ordered_of_properties {s : Schema}
    (hproperties : ∀ entries, s.properties = some entries → Keyed.SchemasOrdered entries)
    (hadditional : s.additionalProperties = none) (hitems : s.items = none) : s.Ordered := by
  refine .intro s (fun entries h => (hproperties entries h).1)
    (fun entries h => (hproperties entries h).2) ?_ ?_
  · rw [hadditional]
    intro value h
    cases h
  · rw [hitems]
    intro items h
    cases h

theorem Schema.ordered_of_flat {s : Schema} (hproperties : s.properties = none)
    (hadditional : s.additionalProperties = none) (hitems : s.items = none) : s.Ordered :=
  Schema.ordered_default.congr hproperties hadditional hitems

theorem Keyed.schemasOrdered_cons {key : String} {s : Schema} {rest : Keyed Schema}
    (hkey : ∀ name ∈ rest.keys, key < name) (hs : s.Ordered) (hrest : rest.SchemasOrdered) :
    Keyed.SchemasOrdered ((key, s) :: rest) := by
  refine ⟨List.pairwise_cons.2 ⟨fun e he => ?_, hrest.1⟩, List.forall_mem_cons.2 ⟨hs, hrest.2⟩⟩
  exact hkey e.1 (List.mem_map_of_mem he)

/-- The small API is in order. -/
theorem shelves_ordered : Description.shelves.Ordered := by
  have hflat {s : Schema} (key : String) (hproperties : s.properties = none)
      (hadditional : s.additionalProperties = none) (hitems : s.items = none) :
      Keyed.SchemasOrdered [(key, s)] :=
    Keyed.schemasOrdered_cons (List.forall_mem_nil _)
      (Schema.ordered_of_flat hproperties hadditional hitems) schemasOrdered_nil
  constructor
  · refine Keyed.schemasOrdered_cons (by decide) ?_ schemasOrdered_nil
    refine Schema.ordered_of_properties ?_ rfl rfl
    rintro entries ⟨⟩
    refine Keyed.schemasOrdered_cons (by decide) (Schema.ordered_of_flat rfl rfl rfl) ?_
    refine Keyed.schemasOrdered_cons (by decide) ?_ schemasOrdered_nil
    refine Schema.ordered_of_properties ?_ rfl rfl
    rintro entries ⟨⟩
    exact hflat "pages" rfl rfl rfl
  · exact hflat "alt" rfl rfl rfl
  · refine Resource.ordered_iff.2 ⟨⟨List.Pairwise.nil, fun e he => by cases he⟩,
      List.pairwise_singleton _ _, ?_⟩
    intro e he
    cases List.mem_singleton.1 he
    refine Resource.ordered_iff.2 ⟨⟨List.pairwise_singleton _ _, ?_⟩, List.Pairwise.nil,
      fun e he => by cases he⟩
    intro e he
    cases List.mem_singleton.1 he
    exact Keyed.schemasOrdered_cons (by decide) (Schema.ordered_of_flat rfl rfl rfl)
      (hflat "view" rfl rfl rfl)

end ClientGen
