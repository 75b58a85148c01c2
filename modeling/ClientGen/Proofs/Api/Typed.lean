import ClientGen.Proofs.Description.Tree
import ClientGen.Proofs.Registry.Contents
import ClientGen.Proofs.Resolution.Outcome

/-!
# Parameters and named schemas, typed

What a schema resolves to does not depend on the models that are there already. So what generation
makes of parameters can be read off a list of typings, `Keyed.typed`, and all that the registry
adds is that it takes in the models which the list needs. `optionals_ok` says so of the optional
parameters of a class, `requireds_ok` of the required parameters of a method, and `models_ok` of the
named schemas of the document.
-/

namespace ClientGen

/-! ## What a schema resolves to -/

namespace Resolution

/-- What the schema resolves to. A schema that cannot be resolved counts as one without values. -/
def resolved (package : List String) (scope : Scope) (s : Schema) : Resolved :=
  (resolve package scope s).result.toOption.getD { type := .void }

/-- The schema can be resolved. -/
def Resolves (package : List String) (scope : Scope) (s : Schema) : Prop :=
  (resolve package scope s).result = .ok (resolved package scope s)

variable {package : List String} {scope : Scope} {s : Schema} {r : Resolved}

theorem resolved_eq (h : (resolve package scope s).result = .ok r) :
    resolved package scope s = r := by
  rw [resolved, h]
  rfl

theorem resolves_of_ok (h : (resolve package scope s).result = .ok r) :
    Resolves package scope s := by
  rw [Resolves, resolved_eq h, h]

end Resolution

namespace Typing

/-- The field of `owner` with that name and schema, typed. -/
def ofEntry (package : List String) (owner : QualifiedName) (e : String × Schema) : Typing where
  name := e.1
  schema := e.2
  resolved := Resolution.resolved package (.field ⟨e.1⟩ owner) e.2

/-- The parameter that is typed. -/
def param (t : Typing) : Param :=
  ⟨⟨t.name⟩, t.type⟩

/-- The field for the parameter, if it is optional. -/
def optionalField (t : Typing) : Field :=
  Generation.optionalField t.name t.schema t.type

end Typing

namespace Keyed

/-- Fields of `owner`, typed. -/
def typed (package : List String) (owner : QualifiedName) (entries : Keyed Schema) : List Typing :=
  entries.map (Typing.ofEntry package owner)

/-- All the schemas can be resolved as fields of `owner`. -/
def Resolve (package : List String) (owner : QualifiedName) (entries : Keyed Schema) : Prop :=
  ∀ t ∈ entries.typed package owner, t.Valid package owner

theorem resolve_cons {package : List String} {owner : QualifiedName} {name : String}
    {schema : Schema} {rest : Keyed Schema}
    (h : Resolution.Resolves package (.field ⟨name⟩ owner) schema)
    (hrest : rest.Resolve package owner) :
    Resolve package owner ((name, schema) :: rest) := by
  intro t ht
  rcases List.mem_cons.1 ht with rfl | ht
  · exact h
  · exact hrest t ht

end Keyed

namespace Generation

variable {n : Naming} {owner : QualifiedName} {r r' : Registry}

/-! ## One schema -/

/-- Settling resolves the schema and takes in the models that it needs. -/
theorem settle_ok {scope : Scope} {schema : Schema} {s : Settled}
    (h : (settle n r scope schema).result = .ok s) :
    Resolution.Resolves n.modelPackage scope schema ∧
      r.Extends (Resolution.resolved n.modelPackage scope schema).topLevel s.registry ∧
      s.type = (Resolution.resolved n.modelPackage scope schema).type ∧
      s.nested = (Resolution.resolved n.modelPackage scope schema).nested := by
  obtain ⟨resolved, hresolved, h⟩ := Traced.bind_result_eq_ok.1 h
  obtain ⟨registry, hregistry, h⟩ := Traced.bind_result_eq_ok.1 h
  rw [Traced.pure_result_eq_ok] at h
  subst h
  rw [Resolution.resolved_eq hresolved]
  exact ⟨Resolution.resolves_of_ok hresolved, Registry.extends_of_foldlM_enter hregistry, rfl, rfl⟩

/-! ## Parameters -/

/-- The optional parameters of a class become its fields, in order. -/
theorem optionals_ok {parameters : Keyed Schema} {o : Optionals}
    (h : (optionals n owner r parameters).result = .ok o) :
    parameters.Resolve n.modelPackage owner ∧
      r.Extends (Typing.topLevel (parameters.typed n.modelPackage owner)) o.registry ∧
      o.fields = (parameters.typed n.modelPackage owner).map Typing.optionalField ∧
      o.nested = Typing.nested (parameters.typed n.modelPackage owner) := by
  induction parameters generalizing r o with
  | nil =>
    rw [optionals, Traced.pure_result_eq_ok] at h
    subst h
    exact ⟨fun t ht => (by cases ht), Registry.Extends.refl r, rfl, rfl⟩
  | cons e rest ih =>
    obtain ⟨name, schema⟩ := e
    obtain ⟨s, hs, h⟩ := Traced.bind_result_eq_ok.1 h
    obtain ⟨others, hothers, h⟩ := Traced.bind_result_eq_ok.1 h
    rw [Traced.pure_result_eq_ok] at h
    subst h
    obtain ⟨hresolves, hfirst, htype, hnested⟩ := settle_ok hs
    obtain ⟨hvalid, hrest, hfields, hothersNested⟩ := ih hothers
    refine ⟨Keyed.resolve_cons hresolves hvalid, hfirst.trans hrest, ?_, ?_⟩
    · rw [hfields, htype]
      rfl
    · rw [hothersNested, hnested]
      rfl

/-- The named parameters of a method are all declared, and are typed in the order of the names. -/
theorem requireds_ok {method : String} {parameters : Keyed Schema} {names : List String}
    {q : Requireds} (h : (requireds n owner method parameters r names).result = .ok q) :
    (parameters.select names).keys = names ∧
      (parameters.select names).Resolve n.modelPackage owner ∧
      r.Extends (Typing.topLevel ((parameters.select names).typed n.modelPackage owner))
        q.registry ∧
      q.params = ((parameters.select names).typed n.modelPackage owner).map Typing.param ∧
      q.nested = Typing.nested ((parameters.select names).typed n.modelPackage owner) := by
  induction names generalizing r q with
  | nil =>
    rw [requireds, Traced.pure_result_eq_ok] at h
    subst h
    exact ⟨rfl, fun t ht => (by cases ht), Registry.Extends.refl r, rfl, rfl⟩
  | cons name rest ih =>
    rw [requireds] at h
    cases hfind : parameters.find? name with
    | none =>
      rw [hfind] at h
      exact absurd h (Traced.fail_result_ne_ok _ _)
    | some schema =>
      have hselect : parameters.select (name :: rest) =
          (name, schema) :: parameters.select rest := by
        rw [Keyed.select, List.filterMap_cons, hfind]
        rfl
      rw [hfind] at h
      obtain ⟨s, hs, h⟩ := Traced.bind_result_eq_ok.1 h
      obtain ⟨others, hothers, h⟩ := Traced.bind_result_eq_ok.1 h
      rw [Traced.pure_result_eq_ok] at h
      subst h
      obtain ⟨hresolves, hfirst, htype, hnested⟩ := settle_ok hs
      obtain ⟨hkeys, hvalid, hrest, hparams, hothersNested⟩ := ih hothers
      rw [hselect]
      refine ⟨?_, Keyed.resolve_cons hresolves hvalid, hfirst.trans hrest, ?_, ?_⟩
      · exact congrArg (name :: ·) hkeys
      · rw [hparams, htype]
        rfl
      · rw [hothersNested, hnested]
        rfl

/-! ## Named schemas -/

/-- The named schemas, from a registry on. -/
theorem foldlM_settle_ok {schemas : Keyed Schema}
    (h : (schemas.foldlM (fun r (name, schema) => do
      Traced.report (.resolvingSchema name)
      let settled ← (settle n r .root schema).mapError (Error.forSchema name)
      return settled.registry) r).result = .ok r') :
    (∀ e ∈ schemas, Resolution.Resolves n.modelPackage .root e.2) ∧
      r.Extends (schemas.flatMap fun e => (Resolution.resolved n.modelPackage .root e.2).topLevel)
        r' := by
  induction schemas generalizing r with
  | nil =>
    rw [List.foldlM_nil, Traced.pure_result_eq_ok] at h
    exact ⟨fun e he => (by cases he), h ▸ Registry.Extends.refl r⟩
  | cons e rest ih =>
    obtain ⟨name, schema⟩ := e
    rw [List.foldlM_cons] at h
    obtain ⟨first, hfirst, h⟩ := Traced.bind_result_eq_ok.1 h
    rw [Traced.report_bind_result] at hfirst
    obtain ⟨s, hs, hfirst⟩ := Traced.bind_result_eq_ok.1 hfirst
    rw [Traced.pure_result_eq_ok] at hfirst
    subst hfirst
    obtain ⟨hresolves, hextends, -, -⟩ := settle_ok (Traced.mapError_result_eq_ok.1 hs)
    obtain ⟨hvalid, hrest⟩ := ih h
    exact ⟨List.forall_mem_cons.2 ⟨hresolves, hvalid⟩, hextends.trans hrest⟩

/-- The models of the named schemas are all that they resolve to. -/
theorem models_ok {schemas : Keyed Schema} (h : (models n schemas).result = .ok r) :
    (∀ e ∈ schemas, Resolution.Resolves n.modelPackage .root e.2) ∧
      Registry.empty.Extends
        (schemas.flatMap fun e => (Resolution.resolved n.modelPackage .root e.2).topLevel) r :=
  foldlM_settle_ok h

end Generation

end ClientGen
