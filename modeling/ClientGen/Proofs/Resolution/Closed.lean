import ClientGen.Proofs.Declaration.Tree
import ClientGen.Proofs.Resolution.Outcome
import ClientGen.Proofs.Schema.Nodes

/-!
# Names that resolving uses and gives out

A type that resolving gives out for a nested declaration is named after the type around the schema,
`isDirectlyIn_of_mem_nested`, and without such a type there is no nested declaration,
`nested_eq_nil`. What resolving uses, it has either emitted itself or been referred to: as soon as
the names of all emitted declarations and of all targets are known, everything emitted is sound and
the type that comes out is known as well, `resolve_sound`, and the same holds for the fields of a
type taken together, `Typing.allSound_of_valid`.
-/

namespace ClientGen

namespace Resolution

variable {package : List String} {scope : Scope} {s : Schema} {r : Resolved}

/-! ## Owners -/

/-- A nested declaration belongs to the type around the schema. -/
theorem isDirectlyIn_of_mem_nested (h : (resolve package scope s).result = .ok r)
    {d : Declaration} (hd : d ∈ r.nested) :
    ∃ enclosing, scope.enclosing = some enclosing ∧ d.name.IsDirectlyIn enclosing := by
  induction s using Schema.induction generalizing scope r with
  | node s _ hadditional hitems =>
    rw [Resolved.mem_nested] at hd
    cases outcome_of_resolve h with
    | reference | primitive | void => cases hd
    | enum hint enclosing constants _ _ he _ =>
      cases List.mem_singleton.1 hd
      exact ⟨enclosing, he, enclosing.nested_isDirectlyIn _⟩
    | list items item _ hi hitem => exact hitems items hi hitem (Resolved.mem_nested.2 hd)
    | model id documentation ts =>
      rcases List.mem_append.1 hd with hd | hd
      · obtain ⟨c, _, hc⟩ := List.mem_map.1 hd
        cases hc
      · cases List.mem_singleton.1 hd
    | nestedClass hint enclosing ts _ _ _ he =>
      rcases List.mem_append.1 hd with hd | hd
      · obtain ⟨c, _, hc⟩ := List.mem_map.1 hd
        cases hc
      · cases List.mem_singleton.1 hd
        exact ⟨enclosing, he, enclosing.nested_isDirectlyIn _⟩
    | map values value _ _ _ ha hvalue =>
      exact hadditional values ha hvalue (Resolved.mem_nested.2 hd)

/-- Where no type is around the schema, nothing is to be nested. -/
theorem nested_eq_nil (h : (resolve package scope s).result = .ok r)
    (hscope : scope.enclosing = none) : r.nested = [] := by
  rw [List.eq_nil_iff_forall_not_mem]
  intro d hd
  obtain ⟨enclosing, he, -⟩ := isDirectlyIn_of_mem_nested h hd
  rw [hscope] at he
  cases he

/-! ## Known names -/

/-- Wherever the schema is used, what it resolves to is known and sound, if what it refers to and
what it emits is known. -/
def ResolvesSoundly (package : List String) (Known : QualifiedName → Prop) (s : Schema) : Prop :=
  ∀ scope r, (resolve package scope s).result = .ok r →
    (∀ target ∈ s.references, Known (.topLevel package target)) →
    (∀ e ∈ r.emitted, e.declaration.Declares Known) →
    (∀ q ∈ r.type.names, Known q) ∧ ∀ e ∈ r.emitted, e.declaration.AllSound Known

variable {Known : QualifiedName → Prop}

/-- What the fields of a type resolve to, taken together. -/
theorem allSound_of_resolvesSoundly {owner : QualifiedName} {ts : List Typing}
    (hvalid : ∀ t ∈ ts, t.Valid package owner)
    (hts : ∀ t ∈ ts, ResolvesSoundly package Known t.schema)
    (hrefs : ∀ t ∈ ts, ∀ target ∈ t.schema.references, Known (.topLevel package target))
    (hnested : ∀ d ∈ Typing.nested ts, d.Declares Known)
    (htop : ∀ c ∈ Typing.topLevel ts, DeclarationOf.Declares Known (.ofClass c)) :
    (∀ t ∈ ts, ∀ q ∈ t.type.names, Known q) ∧
      (∀ d ∈ Typing.nested ts, d.AllSound Known ∧ d.name.IsDirectlyIn owner) ∧
      ∀ c ∈ Typing.topLevel ts, DeclarationOf.AllSound Known (.ofClass c) := by
  have hsound : ∀ t ∈ ts, (∀ q ∈ t.type.names, Known q) ∧
      ∀ e ∈ t.resolved.emitted, e.declaration.AllSound Known := by
    intro t ht
    refine hts t ht _ _ (hvalid t ht) (hrefs t ht) ?_
    rintro (c | d) he
    · exact htop c (Typing.mem_topLevel.2 ⟨t, ht, Resolved.mem_topLevel.2 he⟩)
    · exact hnested d (Typing.mem_nested.2 ⟨t, ht, Resolved.mem_nested.2 he⟩)
  refine ⟨fun t ht => (hsound t ht).1, ?_, ?_⟩
  · intro d hd
    obtain ⟨t, ht, hd⟩ := Typing.mem_nested.1 hd
    obtain ⟨enclosing, he, hin⟩ := isDirectlyIn_of_mem_nested (hvalid t ht) hd
    cases he
    exact ⟨(hsound t ht).2 _ (Resolved.mem_nested.1 hd), hin⟩
  · intro c hc
    obtain ⟨t, ht, hc⟩ := Typing.mem_topLevel.1 hc
    exact (hsound t ht).2 _ (Resolved.mem_topLevel.1 hc)

/-- A class made of fields is sound if the fields are, and everything nested in it is. -/
theorem allSound_class {c : Class} (hsuper : c.superType = none)
    (hconstructors : c.constructors = [])
    (hfactories : c.factories = []) (hfields : ∀ f ∈ c.fields, ∀ q ∈ f.type.names, Known q)
    (hnested : ∀ d ∈ c.nested, d.AllSound Known ∧ d.name.IsDirectlyIn c.name) :
    DeclarationOf.AllSound Known (.ofClass c) := by
  rw [DeclarationOf.allSound_iff]
  refine ⟨⟨?_, fun d hd => (hnested d hd).2⟩, fun d hd => (hnested d hd).1⟩
  intro q hq
  rw [DeclarationOf.mentioned, Class.mentioned, hsuper, hconstructors, hfactories] at hq
  simp only [Option.toList_none, List.flatMap_nil, List.nil_append, List.append_nil] at hq
  obtain ⟨f, hf, hq⟩ := List.mem_flatMap.1 hq
  exact hfields f hf q hq

/-- What is emitted for an object that a class is made of: the models that its properties need, then
the class. -/
theorem allSound_object {owner : QualifiedName} {documentation : Option String} {ts : List Typing}
    {e : Emission} (he : e.declaration = .ofClass {
      name := owner
      kind := .model
      documentation
      fields := ts.map fun t => propertyField t.name t.schema t.type
      nested := Typing.nested ts })
    (hvalid : ∀ t ∈ ts, t.Valid package owner)
    (hts : ∀ t ∈ ts, ResolvesSoundly package Known t.schema)
    (hrefs : ∀ t ∈ ts, ∀ target ∈ t.schema.references, Known (.topLevel package target))
    (hemitted : ∀ x ∈ (Typing.topLevel ts).map .topLevel ++ [e], x.declaration.Declares Known) :
    (∀ q ∈ (TypeRef.named owner).names, Known q) ∧
      ∀ x ∈ (Typing.topLevel ts).map .topLevel ++ [e], x.declaration.AllSound Known := by
  have hclass := DeclarationOf.declares_iff.1
    (he ▸ hemitted e (List.mem_append_right _ List.mem_cons_self))
  have htop : ∀ c ∈ Typing.topLevel ts, DeclarationOf.Declares Known (.ofClass c) := fun c hc =>
    hemitted _ (List.mem_append_left _ (List.mem_map_of_mem hc))
  obtain ⟨htypes, hnested, htops⟩ :=
    allSound_of_resolvesSoundly hvalid hts hrefs hclass.2 htop
  refine ⟨?_, ?_⟩
  · intro q hq
    cases List.mem_singleton.1 hq
    exact hclass.1
  · intro x hx
    rcases List.mem_append.1 hx with hx | hx
    · obtain ⟨c, hc, rfl⟩ := List.mem_map.1 hx
      exact htops c hc
    · cases List.mem_singleton.1 hx
      rw [he]
      refine allSound_class rfl rfl rfl ?_ hnested
      intro f hf q hq
      obtain ⟨t, ht, rfl⟩ := List.mem_map.1 hf
      exact htypes t ht q hq

/-- The typed properties of a schema are schemas below it, and refer to what it refers to. -/
theorem below_of_entries {ts : List Typing} (hentries : ts.map Typing.entry = s.properties.getD [])
    (hproperties : ∀ entries, s.properties = some entries →
      ∀ e ∈ entries, ResolvesSoundly package Known e.2)
    (hrefs : ∀ target ∈ s.references, Known (.topLevel package target)) :
    (∀ t ∈ ts, ResolvesSoundly package Known t.schema) ∧
      ∀ t ∈ ts, ∀ target ∈ t.schema.references, Known (.topLevel package target) := by
  have hmem := Typing.mem_properties hentries
  constructor
  · intro t ht
    obtain ⟨entries, hp, he⟩ := hmem t ht
    exact hproperties entries hp _ he
  · intro t ht target htarget
    obtain ⟨entries, hp, he⟩ := hmem t ht
    exact hrefs target (Schema.mem_references.2 (.inr (.inl ⟨entries, hp, _, he, htarget⟩)))

/-- Every schema resolves to something known and sound. -/
theorem resolve_sound (s : Schema) : ResolvesSoundly package Known s := by
  induction s using Schema.induction with
  | node s hproperties hadditional hitems =>
    intro scope r h hrefs hemitted
    cases outcome_of_resolve h with
    | reference target hr _ =>
      refine ⟨?_, fun e he => by cases he⟩
      intro q hq
      cases List.mem_singleton.1 hq
      exact hrefs target (Schema.mem_references.2 (.inl hr))
    | primitive | void => exact ⟨fun q hq => (by cases hq), fun e he => (by cases he)⟩
    | enum hint enclosing constants _ _ _ _ =>
      have hname := (DeclarationOf.declares_iff.1 (hemitted _ List.mem_cons_self)).1
      refine ⟨?_, ?_⟩
      · intro q hq
        cases List.mem_singleton.1 hq
        exact hname
      · intro e he
        cases List.mem_singleton.1 he
        exact DeclarationOf.allSound_ofEnum _
    | list items item _ hi hitem =>
      refine hitems items hi scope item hitem (fun target ht => ?_) hemitted
      exact hrefs target (Schema.mem_references.2 (.inr (.inr (.inr ⟨items, hi, ht⟩))))
    | map values value _ _ _ ha hvalue =>
      refine hadditional values ha scope value hvalue (fun target ht => ?_) hemitted
      exact hrefs target (Schema.mem_references.2 (.inr (.inr (.inl ⟨values, ha, ht⟩))))
    | model id documentation ts _ _ hts hentries =>
      obtain ⟨hbelow, hbelowRefs⟩ := below_of_entries hentries hproperties hrefs
      exact allSound_object rfl hts hbelow hbelowRefs hemitted
    | nestedClass hint enclosing ts _ _ _ _ hts hentries =>
      have hentries : ts.map Typing.entry = s.properties.getD [] := by rw [hentries]; rfl
      obtain ⟨hbelow, hbelowRefs⟩ := below_of_entries hentries hproperties hrefs
      exact allSound_object rfl hts hbelow hbelowRefs hemitted

end Resolution

/-- The fields of a type, taken together: their types are known, and the declarations that they need
are sound and, where they are nested, named after the type. -/
theorem Typing.allSound_of_valid {package : List String} {Known : QualifiedName → Prop}
    {owner : QualifiedName} {ts : List Typing} (hvalid : ∀ t ∈ ts, t.Valid package owner)
    (hrefs : ∀ t ∈ ts, ∀ target ∈ t.schema.references, Known (.topLevel package target))
    (hnested : ∀ d ∈ Typing.nested ts, d.Declares Known)
    (htop : ∀ c ∈ Typing.topLevel ts, DeclarationOf.Declares Known (.ofClass c)) :
    (∀ t ∈ ts, ∀ q ∈ t.type.names, Known q) ∧
      (∀ d ∈ Typing.nested ts, d.AllSound Known ∧ d.name.IsDirectlyIn owner) ∧
      ∀ c ∈ Typing.topLevel ts, DeclarationOf.AllSound Known (.ofClass c) :=
  Resolution.allSound_of_resolvesSoundly hvalid (fun t _ => Resolution.resolve_sound t.schema) hrefs
    hnested htop

end ClientGen
