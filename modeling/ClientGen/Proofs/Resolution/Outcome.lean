import ClientGen.Proofs.Success
import ClientGen.Resolution

/-!
# What resolving can give

`resolve_eq` is resolving one kind of schema after the other, with a function for each kind that
has schemas below it. `Resolution.Outcome` says once, case by case, what a schema can be resolved to
and under which conditions, and `outcome_of_resolve` that every successful resolution is one of
these cases. For the properties of a type `Typing` records what each of them resolves to, and
`resolveProperties_typed` says that fields, nested declarations and models are read off such
records, in order. Facts about resolving are proved from these, without opening the functions again.
-/

namespace ClientGen

/-! ## Typings -/

/-- A field or parameter of a type under construction: its name, its schema, and what the schema
resolves to. -/
structure Typing where
  name : String
  schema : Schema
  resolved : Resolved

namespace Typing

/-- The name with the schema. -/
def entry (t : Typing) : String × Schema :=
  (t.name, t.schema)

/-- The schema does resolve to that, as a field of `owner`. -/
def Valid (package : List String) (owner : QualifiedName) (t : Typing) : Prop :=
  (Resolution.resolve package (.field ⟨t.name⟩ owner) t.schema).result = .ok t.resolved

/-- The type of the field. -/
def type (t : Typing) : TypeRef :=
  t.resolved.type

/-- The declarations that all fields together need nested in their type. -/
def nested (ts : List Typing) : List Declaration :=
  ts.flatMap (·.resolved.nested)

/-- The models that all fields together need. -/
def topLevel (ts : List Typing) : List Class :=
  ts.flatMap (·.resolved.topLevel)

@[simp] theorem nested_append (ts us : List Typing) : nested (ts ++ us) = nested ts ++ nested us :=
  List.flatMap_append

@[simp] theorem topLevel_append (ts us : List Typing) :
    topLevel (ts ++ us) = topLevel ts ++ topLevel us :=
  List.flatMap_append

theorem mem_nested {d : Declaration} {ts : List Typing} :
    d ∈ nested ts ↔ ∃ t ∈ ts, d ∈ t.resolved.nested :=
  List.mem_flatMap

theorem mem_topLevel {c : Class} {ts : List Typing} :
    c ∈ topLevel ts ↔ ∃ t ∈ ts, c ∈ t.resolved.topLevel :=
  List.mem_flatMap

/-- The typed properties of a schema are properties that it has. -/
theorem mem_properties {s : Schema} {ts : List Typing}
    (hentries : ts.map entry = s.properties.getD []) :
    ∀ t ∈ ts, ∃ entries, s.properties = some entries ∧ t.entry ∈ entries := by
  intro t ht
  have he : t.entry ∈ s.properties.getD [] := hentries ▸ List.mem_map_of_mem ht
  cases hp : s.properties with
  | none =>
    rw [hp] at he
    cases he
  | some entries =>
    rw [hp] at he
    exact ⟨entries, rfl, he⟩

end Typing

/-! ## Emissions -/

/-- What is declared. -/
def Emission.declaration : Emission → Declaration
  | .topLevel c => .ofClass c
  | .nested d => d

theorem Resolved.mem_nested {r : Resolved} {d : Declaration} :
    d ∈ r.nested ↔ .nested d ∈ r.emitted := by
  rw [Resolved.nested, List.mem_filterMap]
  constructor
  · rintro ⟨_ | d', he, h⟩
    · cases h
    · cases h
      exact he
  · intro h
    exact ⟨_, h, rfl⟩

theorem Resolved.mem_topLevel {r : Resolved} {c : Class} :
    c ∈ r.topLevel ↔ .topLevel c ∈ r.emitted := by
  rw [Resolved.topLevel, List.mem_filterMap]
  constructor
  · rintro ⟨c' | _, he, h⟩
    · cases h
      exact he
    · cases h
  · intro h
    exact ⟨_, h, rfl⟩

namespace Resolution

/-! ## The properties of a type -/

/-- The properties of a type add up to what each of them resolves to, in order. -/
theorem resolveProperties_typed {package : List String} {owner : QualifiedName}
    {entries : List (String × Schema)} {p : Properties}
    (h : (resolveProperties package owner entries).result = .ok p) :
    ∃ ts : List Typing, (∀ t ∈ ts, t.Valid package owner) ∧ ts.map Typing.entry = entries ∧
      p = {
        fields := ts.map fun t => propertyField t.name t.schema t.type
        nested := Typing.nested ts
        passedOn := Typing.topLevel ts } := by
  induction entries generalizing p with
  | nil =>
    rw [resolveProperties, Traced.pure_result_eq_ok] at h
    exact ⟨[], by simp, rfl, h.symm⟩
  | cons e rest ih =>
    obtain ⟨key, property⟩ := e
    rw [resolveProperties] at h
    obtain ⟨resolved, hresolved, h⟩ := Traced.bind_result_eq_ok.1 h
    obtain ⟨others, hothers, h⟩ := Traced.bind_result_eq_ok.1 h
    rw [Traced.pure_result_eq_ok] at h
    obtain ⟨ts, hvalid, hentries, rfl⟩ := ih hothers
    refine ⟨⟨key, property, resolved⟩ :: ts, ?_, ?_, ?_⟩
    · intro t ht
      rcases List.mem_cons.1 ht with rfl | ht
      · exact hresolved
      · exact hvalid t ht
    · rw [List.map_cons, hentries]
      rfl
    · rw [← h]
      rfl

/-! ## One schema -/

/-- What the properties of an object resolve to; without any there are no members. -/
def members (package : List String) (owner : QualifiedName) (s : Schema) : Traced Properties :=
  match s.properties with
  | none => pure {}
  | some entries => resolveProperties package owner entries

/-- Resolves an array. -/
def resolveArray (package : List String) (scope : Scope) (s : Schema) : Traced Resolved :=
  match s.items with
  | none => .fail (.missingItems scope.hintName)
  | some items => do
    let item ← resolve package scope items
    return ⟨.list item.type, item.emitted⟩

/-- Resolves an object that has an id: it becomes a model. -/
def resolveModel (package : List String) (scope : Scope) (s : Schema) (id : String) :
    Traced Resolved := do
  let p ← members package (.topLevel package id) s
  let documentation := if scope.enclosing.isNone then s.documentation.map escapeDoc else none
  return ⟨.named (.topLevel package id), p.passedOn.map .topLevel ++
    [.topLevel { p.toClass (.topLevel package id) with documentation }]⟩

/-- Resolves an object with properties that a field holds: it becomes a nested class. -/
def resolveNested (package : List String) (scope : Scope) (s : Schema) (hint : Identifier) :
    Traced Resolved :=
  match scope.enclosing with
  | none => .fail (.missingContext .classType hint.wireName)
  | some enclosing => do
    let p ← members package (enclosing.nested hint.typeName) s
    return ⟨.named (enclosing.nested hint.typeName), p.passedOn.map .topLevel ++
      [.nested (.ofClass (p.toClass (enclosing.nested hint.typeName)))]⟩

/-- Resolves an object that no class is made of: it is a map. -/
def resolveMap (package : List String) (scope : Scope) (s : Schema) : Traced Resolved :=
  match s.additionalProperties with
  | none => .fail (.unnamedObject scope.hintName)
  | some values => do
    let value ← resolve package scope values
    return ⟨.map value.type, value.emitted⟩

/-- Resolves an object. -/
def resolveObject (package : List String) (scope : Scope) (s : Schema) : Traced Resolved :=
  match s.id, scope.hint, s.properties with
  | some id, _, _ => resolveModel package scope s id
  | none, some hint, some _ => resolveNested package scope s hint
  | none, _, _ => resolveMap package scope s

/-- Resolving, one kind of schema after the other. -/
theorem resolve_eq (package : List String) (scope : Scope) (s : Schema) :
    resolve package scope s =
      match s.kind with
      | .reference target => pure { type := reference package target }
      | .string => resolveText s scope
      | .number => resolveNumber s scope
      | .integer => pure { type := .primitive .int32 }
      | .boolean => pure { type := .primitive .boolean }
      | .null => pure { type := .void }
      | .any => pure { type := .primitive .any }
      | .unknown _ => do
        Traced.report (.unknownType s.type s.id scope.hintName)
        return { type := .void }
      | .array => resolveArray package scope s
      | .object => resolveObject package scope s := by
  obtain ⟨id, reference, tag, text, format, properties, additional, items, required, values,
    texts⟩ := s
  unfold resolve
  generalize Schema.kind _ = kind
  cases kind with
  | array => cases items <;> rfl
  | object =>
    -- the same three questions decide on both sides
    cases id with
    | some id => cases properties <;> rfl
    | none =>
      cases hh : scope.hint with
      | none => cases additional <;> simp only [resolveObject, hh] <;> rfl
      | some hint =>
        cases properties with
        | none => cases additional <;> simp only [resolveObject, hh] <;> rfl
        | some entries =>
          simp only [resolveObject, hh]
          rfl
  | _ => rfl

/-- What a schema can be resolved to. -/
inductive Outcome (package : List String) (scope : Scope) (s : Schema) : Resolved → Prop
  /-- A reference is the model it names, whether or not there is one. -/
  | reference (target : String) (hr : s.reference = some target) (hk : s.kind = .reference target) :
    Outcome package scope s { type := Resolution.reference package target }
  /-- A built-in kind of value. -/
  | primitive (type : Primitive) (ha : s.kind ≠ .array) (ho : s.kind ≠ .object) :
    Outcome package scope s { type := .primitive type }
  /-- No value at all. -/
  | void (ha : s.kind ≠ .array) (ho : s.kind ≠ .object) : Outcome package scope s { type := .void }
  /-- An enum, nested in the type around the schema. -/
  | enum (hint : Identifier) (enclosing : QualifiedName) (constants : List EnumConstant)
    (hk : s.kind = .string) (hh : scope.hint = some hint) (he : scope.enclosing = some enclosing)
    (hc : enumConstants? s = some constants) :
    Outcome package scope s
      ⟨.named (enclosing.nested hint.typeName),
        [.nested (.ofEnum ⟨enclosing.nested hint.typeName, none, constants⟩)]⟩
  /-- A list of what the items are. -/
  | list (items : Schema) (item : Resolved) (hk : s.kind = .array) (hi : s.items = some items)
    (h : (resolve package scope items).result = .ok item) :
    Outcome package scope s ⟨.list item.type, item.emitted⟩
  /-- A model of its own. -/
  | model (id : String) (documentation : Option String) (ts : List Typing) (hk : s.kind = .object)
    (hid : s.id = some id) (hts : ∀ t ∈ ts, t.Valid package (.topLevel package id))
    (hentries : ts.map Typing.entry = s.properties.getD []) :
    Outcome package scope s
      ⟨.named (.topLevel package id),
        (Typing.topLevel ts).map .topLevel ++ [.topLevel
          { name := .topLevel package id
            kind := .model
            documentation
            fields := ts.map fun t => propertyField t.name t.schema t.type
            nested := Typing.nested ts }]⟩
  /-- A class nested in the type around the schema. -/
  | nestedClass (hint : Identifier) (enclosing : QualifiedName) (ts : List Typing)
    (hk : s.kind = .object) (hid : s.id = none) (hh : scope.hint = some hint)
    (he : scope.enclosing = some enclosing)
    (hts : ∀ t ∈ ts, t.Valid package (enclosing.nested hint.typeName))
    (hentries : s.properties = some (ts.map Typing.entry)) :
    Outcome package scope s
      ⟨.named (enclosing.nested hint.typeName),
        (Typing.topLevel ts).map .topLevel ++ [.nested (.ofClass
          { name := enclosing.nested hint.typeName
            kind := .model
            fields := ts.map fun t => propertyField t.name t.schema t.type
            nested := Typing.nested ts })]⟩
  /-- A map to what the additional properties are. -/
  | map (values : Schema) (value : Resolved) (hk : s.kind = .object) (hid : s.id = none)
    (hnone : scope.hint = none ∨ s.properties = none) (ha : s.additionalProperties = some values)
    (h : (resolve package scope values).result = .ok value) :
    Outcome package scope s ⟨.map value.type, value.emitted⟩

variable {package : List String} {scope : Scope} {s : Schema} {r : Resolved}

/-- Only a reference makes a schema a reference. -/
theorem reference_of_kind {target : String} (h : s.kind = .reference target) :
    s.reference = some target := by
  unfold Schema.kind at h
  split at h
  · rename_i hr
    cases h
    exact hr
  · unfold Schema.kindOfTag at h
    split at h <;> cases h
  · cases h

theorem outcome_of_nestedEnum {constants : List EnumConstant} (hk : s.kind = .string)
    (hc : enumConstants? s = some constants) (h : (nestedEnum scope constants).result = .ok r) :
    Outcome package scope s r := by
  unfold nestedEnum at h
  split at h
  · cases h
  · cases h
  · rename_i hint enclosing hh he
    rw [Traced.pure_result_eq_ok] at h
    subst h
    exact .enum hint enclosing constants hk hh he hc

theorem outcome_of_resolveText (hk : s.kind = .string)
    (h : (resolveText s scope).result = .ok r) : Outcome package scope s r := by
  have ha : s.kind ≠ .array := by simp [hk]
  have ho : s.kind ≠ .object := by simp [hk]
  unfold resolveText at h
  split at h
  · rw [Traced.pure_result_eq_ok] at h
    exact h ▸ .primitive _ ha ho
  · split at h
    · rename_i constants hc
      exact outcome_of_nestedEnum hk hc h
    · rw [Traced.pure_result_eq_ok] at h
      exact h ▸ .primitive _ ha ho

theorem outcome_of_resolveNumber (hk : s.kind = .number)
    (h : (resolveNumber s scope).result = .ok r) : Outcome package scope s r := by
  have ha : s.kind ≠ .array := by simp [hk]
  have ho : s.kind ≠ .object := by simp [hk]
  unfold resolveNumber at h
  split at h <;> cases h <;> exact .primitive _ ha ho

/-- The members of an object add up to what its properties resolve to. -/
theorem members_typed {owner : QualifiedName} {p : Properties}
    (h : (members package owner s).result = .ok p) :
    ∃ ts : List Typing, (∀ t ∈ ts, t.Valid package owner) ∧
      ts.map Typing.entry = s.properties.getD [] ∧
      p = {
        fields := ts.map fun t => propertyField t.name t.schema t.type
        nested := Typing.nested ts
        passedOn := Typing.topLevel ts } := by
  unfold members at h
  cases hp : s.properties with
  | none =>
    rw [hp, Traced.pure_result_eq_ok] at h
    exact ⟨[], by simp, rfl, h.symm⟩
  | some entries =>
    rw [hp] at h
    exact resolveProperties_typed h

theorem outcome_of_resolveArray (hk : s.kind = .array)
    (h : (resolveArray package scope s).result = .ok r) : Outcome package scope s r := by
  unfold resolveArray at h
  cases hi : s.items with
  | none => rw [hi] at h; cases h
  | some items =>
    rw [hi] at h
    obtain ⟨item, hitem, h⟩ := Traced.bind_result_eq_ok.1 h
    rw [Traced.pure_result_eq_ok] at h
    exact h ▸ .list items item hk hi hitem

theorem outcome_of_resolveModel {id : String} (hk : s.kind = .object) (hid : s.id = some id)
    (h : (resolveModel package scope s id).result = .ok r) : Outcome package scope s r := by
  obtain ⟨p, hp, h⟩ := Traced.bind_result_eq_ok.1 h
  rw [Traced.pure_result_eq_ok] at h
  obtain ⟨ts, hts, hentries, rfl⟩ := members_typed hp
  exact h ▸ .model id _ ts hk hid hts hentries

theorem outcome_of_resolveNested {hint : Identifier} {entries : List (String × Schema)}
    (hk : s.kind = .object) (hid : s.id = none) (hh : scope.hint = some hint)
    (hproperties : s.properties = some entries)
    (h : (resolveNested package scope s hint).result = .ok r) : Outcome package scope s r := by
  unfold resolveNested at h
  cases he : scope.enclosing with
  | none => rw [he] at h; cases h
  | some enclosing =>
    rw [he] at h
    obtain ⟨p, hp, h⟩ := Traced.bind_result_eq_ok.1 h
    rw [Traced.pure_result_eq_ok] at h
    obtain ⟨ts, hts, hentries, rfl⟩ := members_typed hp
    rw [hproperties, Option.getD_some] at hentries
    exact h ▸ .nestedClass hint enclosing ts hk hid hh he hts (hentries ▸ hproperties)

theorem outcome_of_resolveMap (hk : s.kind = .object) (hid : s.id = none)
    (hnone : scope.hint = none ∨ s.properties = none)
    (h : (resolveMap package scope s).result = .ok r) : Outcome package scope s r := by
  unfold resolveMap at h
  cases ha : s.additionalProperties with
  | none => rw [ha] at h; cases h
  | some values =>
    rw [ha] at h
    obtain ⟨value, hvalue, h⟩ := Traced.bind_result_eq_ok.1 h
    rw [Traced.pure_result_eq_ok] at h
    exact h ▸ .map values value hk hid hnone ha hvalue

theorem outcome_of_resolveObject (hk : s.kind = .object)
    (h : (resolveObject package scope s).result = .ok r) : Outcome package scope s r := by
  unfold resolveObject at h
  split at h
  · rename_i id _ _ hid
    exact outcome_of_resolveModel hk hid h
  · rename_i hint entries hid hh hp
    exact outcome_of_resolveNested hk hid hh hp h
  · rename_i hid hnot
    refine outcome_of_resolveMap hk hid ?_ h
    cases hh : scope.hint with
    | none => exact .inl rfl
    | some hint =>
      cases hp : s.properties with
      | none => exact .inr rfl
      | some entries => exact absurd hp (hnot hint entries hh)

/-- Whatever a schema is resolved to, it is one of the outcomes. -/
theorem outcome_of_resolve (h : (resolve package scope s).result = .ok r) :
    Outcome package scope s r := by
  rw [resolve_eq] at h
  cases hk : s.kind with
  | reference target =>
    rw [hk, Traced.pure_result_eq_ok] at h
    exact h ▸ .reference target (reference_of_kind hk) hk
  | string => rw [hk] at h; exact outcome_of_resolveText hk h
  | number => rw [hk] at h; exact outcome_of_resolveNumber hk h
  | array => rw [hk] at h; exact outcome_of_resolveArray hk h
  | object => rw [hk] at h; exact outcome_of_resolveObject hk h
  | unknown tag =>
    rw [hk, Traced.report_bind_result, Traced.pure_result_eq_ok] at h
    exact h ▸ .void (by simp [hk]) (by simp [hk])
  | null =>
    rw [hk, Traced.pure_result_eq_ok] at h
    exact h ▸ .void (by simp [hk]) (by simp [hk])
  | integer | boolean | any =>
    rw [hk, Traced.pure_result_eq_ok] at h
    exact h ▸ .primitive _ (by simp [hk]) (by simp [hk])

end Resolution

end ClientGen
