import ClientGen.Proofs.Declaration.Packages
import ClientGen.Proofs.Resolution.Outcome
import ClientGen.Proofs.Schema.Nodes

/-!
# Resolving in another package

Whether a schema can be resolved has nothing to do with the package that models go to or with the
one of the type around it. `image_resolve` says more: in other packages a schema resolves to the
same, in other packages. It is an induction over the schema, with a lemma for each way to resolve
one that has schemas below it.
-/

namespace ClientGen

variable (f : List String → List String)

/-! ## What resolving uses and gives -/

/-- The same place, with the type around it in another package. -/
def Scope.mapPackages (scope : Scope) : Scope :=
  { scope with enclosing := scope.enclosing.map (QualifiedName.mapPackage f) }

def Emission.mapPackages : Emission → Emission
  | .topLevel c => .topLevel (c.mapPackages f)
  | .nested d => .nested (d.mapPackages f)

/-- The type and the declarations it needs, all their names in other packages. -/
def Resolved.mapPackages (r : Resolved) : Resolved where
  type := r.type.mapPackages f
  emitted := r.emitted.map (Emission.mapPackages f)

theorem Resolved.nested_mapPackages (r : Resolved) :
    (r.mapPackages f).nested = r.nested.map (DeclarationOf.mapPackages f) := by
  rw [nested, nested, mapPackages, List.filterMap_map, List.map_filterMap]
  congr 1
  funext e
  cases e <;> rfl

theorem Resolved.topLevel_mapPackages (r : Resolved) :
    (r.mapPackages f).topLevel = r.topLevel.map (Class.mapPackages f) := by
  rw [topLevel, topLevel, mapPackages, List.filterMap_map, List.map_filterMap]
  congr 1
  funext e
  cases e <;> rfl

def Properties.mapPackages (p : Properties) : Properties where
  fields := p.fields.map (Field.mapPackages f)
  nested := p.nested.map (DeclarationOf.mapPackages f)
  passedOn := p.passedOn.map (Class.mapPackages f)

theorem Properties.toClass_mapPackages (p : Properties) (name : QualifiedName) :
    (p.mapPackages f).toClass (name.mapPackage f) = (p.toClass name).mapPackages f := by
  rw [Class.mapPackages_eq]
  rfl

namespace Resolution

open Traced (Image image_pure image_fail)

variable {package : List String} {scope : Scope} {s : Schema}

/-! ## Schemas without schemas below them -/

theorem image_nestedEnum (constants : List EnumConstant) :
    Image (Resolved.mapPackages f) (nestedEnum scope constants)
      (nestedEnum (scope.mapPackages f) constants) := by
  obtain ⟨hint, enclosing⟩ := scope
  cases hint with
  | none => exact image_fail
  | some hint =>
    cases enclosing with
    | none => exact image_fail
    | some enclosing =>
      simp only [nestedEnum, Scope.mapPackages, Option.map_some]
      -- any simple name will do, and that of the hint is costly to compare
      generalize hint.typeName = name
      exact image_pure rfl

theorem image_resolveText :
    Image (Resolved.mapPackages f) (resolveText s scope) (resolveText s (scope.mapPackages f)) := by
  unfold resolveText
  cases s.format.bind formatType? with
  | some type => exact image_pure rfl
  | none =>
    cases enumConstants? s with
    | some constants => exact image_nestedEnum f constants
    | none => exact image_pure rfl

theorem image_resolveNumber :
    Image (Resolved.mapPackages f) (resolveNumber s scope)
      (resolveNumber s (scope.mapPackages f)) := by
  unfold resolveNumber
  split
  · exact image_pure rfl
  · exact image_pure rfl
  · exact Image.report_bind (image_pure rfl)
  · exact image_pure rfl

/-! ## Schemas below -/

/-- Wherever the schema is used, it resolves to the same in other packages. -/
def Movable (package : List String) (s : Schema) : Prop :=
  ∀ scope, Image (Resolved.mapPackages f) (resolve package scope s)
    (resolve (f package) (scope.mapPackages f) s)

variable {f}

theorem image_resolveProperties {entries : List (String × Schema)}
    (h : ∀ e ∈ entries, Movable f package e.2) (owner : QualifiedName) :
    Image (Properties.mapPackages f) (resolveProperties package owner entries)
      (resolveProperties (f package) (owner.mapPackage f) entries) := by
  induction entries with
  | nil => exact image_pure rfl
  | cons e rest ih =>
    obtain ⟨key, property⟩ := e
    rw [resolveProperties, resolveProperties]
    refine Image.bind (h _ List.mem_cons_self (.field ⟨key⟩ owner)) fun resolved => ?_
    refine Image.bind (ih fun e he => h e (List.mem_cons_of_mem _ he)) fun others => ?_
    apply image_pure
    rw [Resolved.nested_mapPackages, Resolved.topLevel_mapPackages, Properties.mapPackages,
      Properties.mapPackages, List.map_append, List.map_append]
    rfl

theorem image_members
    (h : ∀ entries, s.properties = some entries → ∀ e ∈ entries, Movable f package e.2)
    (owner : QualifiedName) :
    Image (Properties.mapPackages f) (members package owner s)
      (members (f package) (owner.mapPackage f) s) := by
  unfold members
  cases hp : s.properties with
  | none => exact image_pure rfl
  | some entries => exact image_resolveProperties (h entries hp) owner

theorem image_resolveArray (h : ∀ items, s.items = some items → Movable f package items) :
    Image (Resolved.mapPackages f) (resolveArray package scope s)
      (resolveArray (f package) (scope.mapPackages f) s) := by
  unfold resolveArray
  cases hi : s.items with
  | none => exact image_fail
  | some items => exact Image.bind (h items hi scope) fun item => image_pure rfl

theorem image_resolveMap
    (h : ∀ value, s.additionalProperties = some value → Movable f package value) :
    Image (Resolved.mapPackages f) (resolveMap package scope s)
      (resolveMap (f package) (scope.mapPackages f) s) := by
  unfold resolveMap
  cases ha : s.additionalProperties with
  | none => exact image_fail
  | some value => exact Image.bind (h value ha scope) fun value => image_pure rfl

/-- Models that are passed on, with a last declaration, in other packages. -/
theorem mapPackages_emitted {passedOn : List Class} {own : Emission} {type : TypeRef} :
    Resolved.mapPackages f ⟨type, passedOn.map .topLevel ++ [own]⟩ =
      ⟨type.mapPackages f,
        (passedOn.map (Class.mapPackages f)).map .topLevel ++ [own.mapPackages f]⟩ := by
  rw [Resolved.mapPackages, List.map_append, List.map_map, List.map_map]
  rfl

theorem image_resolveModel
    (h : ∀ entries, s.properties = some entries → ∀ e ∈ entries, Movable f package e.2)
    (id : String) :
    Image (Resolved.mapPackages f) (resolveModel package scope s id)
      (resolveModel (f package) (scope.mapPackages f) s id) := by
  refine Image.bind (image_members h (.topLevel package id)) fun p => image_pure ?_
  have henclosing : (scope.mapPackages f).enclosing.isNone = scope.enclosing.isNone :=
    Option.isNone_map
  rw [mapPackages_emitted, henclosing]
  generalize (if scope.enclosing.isNone = true then _ else _) = documentation
  have hclass : ({ p.toClass (.topLevel package id) with documentation } : Class).mapPackages f =
      { (p.mapPackages f).toClass (.topLevel (f package) id) with documentation } := by
    rw [Class.mapPackages_eq]
    rfl
  rw [Emission.mapPackages, hclass]
  rfl

theorem image_resolveNested
    (h : ∀ entries, s.properties = some entries → ∀ e ∈ entries, Movable f package e.2)
    (hint : Identifier) :
    Image (Resolved.mapPackages f) (resolveNested package scope s hint)
      (resolveNested (f package) (scope.mapPackages f) s hint) := by
  obtain ⟨hintAround, enclosing⟩ := scope
  cases enclosing with
  | none => exact image_fail
  | some enclosing =>
    simp only [resolveNested, Scope.mapPackages, Option.map_some]
    generalize hint.typeName = name
    refine Image.bind (image_members h (enclosing.nested name)) fun p => image_pure ?_
    rw [mapPackages_emitted, Emission.mapPackages, DeclarationOf.mapPackages,
      ← Properties.toClass_mapPackages]
    rfl

/-- **Schemas resolve alike in all packages.** -/
theorem image_resolve (f : List String → List String) (package : List String) (s : Schema) :
    Movable f package s := by
  induction s using Schema.induction with
  | node s hproperties hadditional hitems =>
    intro scope
    rw [resolve_eq, resolve_eq]
    cases s.kind with
    | string => exact image_resolveText f
    | number => exact image_resolveNumber f
    | array => exact image_resolveArray hitems
    | object =>
      unfold resolveObject
      -- the package has no part in what decides between the three kinds of object
      cases s.id with
      | some id => exact image_resolveModel hproperties id
      | none =>
        obtain ⟨hint, enclosing⟩ := scope
        cases hint with
        | none => exact image_resolveMap hadditional
        | some hint =>
          cases s.properties with
          | none => exact image_resolveMap hadditional
          | some entries => exact image_resolveNested hproperties hint
    | unknown tag => exact Image.report_bind (image_pure rfl)
    | _ => exact image_pure rfl

end Resolution

end ClientGen
