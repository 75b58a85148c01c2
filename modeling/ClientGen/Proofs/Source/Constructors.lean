import ClientGen.Proofs.Source.Statements

/-!
# Constructors agree with their structs

The struct of a service, the parameters of a constructor, the steps in it, the fields that it sets
and the type of its result are five computations over one class. `services_agree` says that they
agree in every generated API: a constructor sets the fields that the struct declares, in their
order, and where it sets a field to the variable of the same name, there is such a variable. Whether
a step can fail is seen from the operator `?` that it is written with; if there is one, the
constructor gives a `Result` and wraps its value in `Ok`. The last holds of hand-made classes as
well, and the rest of all whose constructors are `Constructor.Complete`.
-/

namespace ClientGen.Source

open Text Generation Component

/-! ## Constructors and structs -/

namespace MethodItem

/-- The method makes a value of the type itself. -/
def IsConstructor (m : MethodItem) : Prop :=
  ∃ steps settings fallible, m.body = .construct steps settings fallible

/-- The last line of what the method does. -/
def lastLine (m : MethodItem) : String :=
  match m.body.blocks.getLast? with
  | some (.line text) => text
  | _ => ""

/-- The method has a parameter of that name. -/
def HasParam (m : MethodItem) (name : String) : Prop :=
  ∃ type, (name, type) ∈ m.signature.params

/-- The method has a variable of that name. -/
def Lets (m : MethodItem) (name : String) : Prop :=
  ∃ text, .line text ∈ m.body.blocks ∧ ("let " ++ name ++ " = ").toList <+: text.toList

/-- The constructor sets the fields that the struct declares, in their order. What it sets a field
to has been given, or made on the way. -/
structure Agrees (m : MethodItem) (struct : Item) : Prop where
  sets : (fieldsSet m.lastLine).map Prod.fst = fieldNames struct.blocks
  bound : ∀ name, (name, true) ∈ fieldsSet m.lastLine →
    m.HasParam name ∨ name = baseField ∧ m.Lets name

/-- The method says that it may fail, and gives its value accordingly. -/
def GivesResult (rt : String) (m : MethodItem) : Prop :=
  (∃ start, m.signature.text = start ++ s!" -> Result<Self, {rt}::Error> \x7b") ∧
    ∃ value, m.lastLine = "Ok(" ++ value ++ ")"

/-- The operator is used only if the method says that it may fail. -/
def TriesInResult (rt : String) (m : MethodItem) : Prop :=
  ∀ steps settings fallible, m.body = .construct steps settings fallible →
    ∀ step ∈ steps, step.UsesTry → m.GivesResult rt

variable {m : MethodItem} {steps : List Step} {settings : List Setting} {fallible : Bool}

theorem lastLine_of_construct (h : m.body = .construct steps settings fallible) :
    m.lastLine = if fallible then "Ok(" ++ selfValue settings ++ ")" else selfValue settings := by
  rw [lastLine, h, Body.blocks]
  simp only [List.getLast?_concat]
  rfl

theorem fieldsSet_of_construct (h : m.body = .construct steps settings fallible)
    (hplain : ∀ s ∈ settings, s.IsPlain) : fieldsSet m.lastLine = settings.map Setting.read := by
  rw [lastLine_of_construct h]
  cases fallible with
  | true => exact fieldsSet_selfValue hplain "Ok(" ")" (by decide)
  | false => simpa using fieldsSet_selfValue hplain "" "" (by decide)

end MethodItem

variable {rt : String} {c : Class} {init : Constructor}

/-- The struct of a service. -/
def serviceStruct (rt : String) (c : Class) : Item :=
  .service c.documentation (typeName c.name.simpleName) (generics c) (serviceFields rt c)

/-- The implementation of a service. -/
def serviceImplementation (rt : String) (c : Class) : Item :=
  .implementation (typeName c.name.simpleName) (generics c) c.constantTexts (serviceMethods rt c)

theorem serviceItems_eq (rt : String) (c : Class) :
    serviceItems rt c = [serviceStruct rt c, serviceImplementation rt c] := rfl

/-- The first line of a method ends in the type of its result. -/
theorem Signature.exists_text (s : Signature) :
    ∃ start, s.text = start ++ " -> " ++ s.result ++ " \x7b" := by
  obtain ⟨params, htext⟩ := s.text_eq
  refine ⟨"pub fn " ++ s.name ++ "(" ++ params ++ ")", ?_⟩
  rw [htext]
  simp [← String.toList_inj]

/-- A step that may fail comes from a statement that may fail. -/
theorem isFallible_of_tries {s : Statement} {step : Step}
    (h : step? rt c init.params s = some step) (htries : step.tries ≠ 0) :
    Statement.isFallible init.params s = true := by
  cases s with
  | require identifier message => rfl
  | forward args =>
    obtain ⟨base, -, rfl⟩ := Option.map_eq_some_iff.1 h
    obtain ⟨a, ha, hcontent⟩ := List.countP_pos_iff.1 (Nat.pos_of_ne_zero htries)
    obtain ⟨⟨e, index⟩, he, rfl⟩ := List.mem_map.1 ha
    refine List.any_eq_true.2 ⟨(e, index), he, ?_⟩
    cases e with
    | param identifier =>
      simp only [argument] at hcontent
      split at hcontent
      · assumption
      · cases hcontent
    | _ => cases hcontent

/-- **The operator and the result** of a constructor agree, in any class whatever. -/
theorem triesInResult_constructorItem (rt : String) (c : Class) (init : Constructor) :
    (constructorItem rt c init).TriesInResult rt := by
  intro steps settings fallible hbody step hstep htry
  have hsteps : init.body.filterMap (step? rt c init.params) = steps := (Body.construct.inj hbody).1
  have hflag : Constructor.isFallible init = fallible := (Body.construct.inj hbody).2.2
  have hfallible : fallible = true := by
    rw [← hsteps] at hstep
    obtain ⟨s, hs, hmade⟩ := List.mem_filterMap.1 hstep
    rw [← hflag]
    exact List.any_eq_true.2 ⟨s, hs, isFallible_of_tries hmade (Step.usesTry_iff.1 htry)⟩
  refine ⟨?_, selfValue settings, ?_⟩
  · have hresult : (constructorItem rt c init).signature.result =
        "Result<Self, " ++ rt ++ "::Error>" := by
      show resultType rt (Constructor.isFallible init) "Self" = _
      rw [hflag, hfallible]
      rfl
    obtain ⟨start, htext⟩ := (constructorItem rt c init).signature.exists_text
    refine ⟨start, ?_⟩
    rw [htext, hresult]
    simp [← String.toList_inj, toString]
  · rw [MethodItem.lastLine_of_construct hbody, hfallible]
    rfl

/-- The constructor has what the class needs to be made: the value of the super type, and a
parameter for each field that is set once. -/
structure Constructor.Complete (c : Class) (init : Constructor) : Prop where
  base : c.superType.isSome = true → init.body.any Statement.isForward = true
  required : ∀ f ∈ c.fields, f.required = true →
    ∃ p ∈ init.params, p.identifier = f.identifier

theorem fieldName_ne_empty (i : Identifier) : fieldName i ≠ "" := by
  rw [fieldName]
  exact escapeReserved_ne_empty (withStart_ne_empty (by decide) _)

theorem isPlain_setting (f : Field) : (setting f).IsPlain := by
  unfold setting
  split
  · exact ⟨isName_fieldName _, fieldName_ne_empty _⟩
  · exact isName_fieldName _

/-- The fields of the generator's own in the struct of a service. -/
def ownFields (c : Class) : List String :=
  (if holdsClient c then [clientField] else []) ++ if c.superType.isSome then [baseField] else []

theorem mem_ownFields {name : String} (h : name ∈ ownFields c) :
    name = clientField ∨ name = baseField := by
  rw [ownFields, List.mem_append, List.mem_ite_nil_right, List.mem_ite_nil_right,
    List.mem_singleton, List.mem_singleton] at h
  exact h.imp And.right And.right

/-- The names of the fields in the struct of a service. -/
def serviceFieldNames (c : Class) : List String :=
  ownFields c ++ c.fields.map fun f => fieldName f.identifier

theorem map_name_serviceFields (rt : String) (c : Class) :
    (serviceFields rt c).map (·.name) = serviceFieldNames c := by
  have hclient : (if holdsClient c then
      [({ name := clientField, type := runtimeType rt .client } : ServiceField)] else []).map
        (·.name) = if holdsClient c then [clientField] else [] := by
    split <;> rfl
  have hbase : (c.superType.toList.map fun base =>
      ({ name := baseField, type := typeText rt base } : ServiceField)).map (·.name) =
        if c.superType.isSome then [baseField] else [] := by
    cases c.superType <;> rfl
  rw [serviceFields, serviceFieldNames, ownFields, List.map_append, List.map_append, hclient, hbase,
    List.map_map]
  simp only [Function.comp_def]

theorem isName_serviceFieldNames (c : Class) :
    ∀ name ∈ serviceFieldNames c, IsName name.toList := by
  intro name hname
  rcases List.mem_append.1 hname with hname | hname
  · rcases mem_ownFields hname with rfl | rfl <;> decide
  · obtain ⟨f, -, rfl⟩ := List.mem_map.1 hname
    exact isName_fieldName _

/-- **The struct of a service** declares the client, the super type and the fields of the class. -/
theorem fieldNames_serviceStruct (rt : String) (c : Class) :
    fieldNames (serviceStruct rt c).blocks = serviceFieldNames c := by
  rw [serviceStruct, fieldNames_service, map_name_serviceFields]
  intro f hf
  refine isName_serviceFieldNames c f.name ?_
  rw [← map_name_serviceFields rt c]
  exact List.mem_map_of_mem hf

/-- What a constructor sets. -/
def constructorSettings (c : Class) (init : Constructor) : List Setting :=
  (if holdsClient c then [.same clientField] else []) ++
    (if makesBase c init then [.same baseField] else []) ++ c.fields.map setting

theorem body_constructorItem (rt : String) (c : Class) (init : Constructor) :
    (constructorItem rt c init).body = .construct (init.body.filterMap (step? rt c init.params))
      (constructorSettings c init) (Constructor.isFallible init) := rfl

theorem isPlain_constructorSettings (c : Class) (init : Constructor) :
    ∀ s ∈ constructorSettings c init, s.IsPlain := by
  intro s hs
  rcases List.mem_append.1 hs with hs | hs
  · rcases List.mem_append.1 hs with hs | hs
    · split at hs
      · rw [List.mem_singleton.1 hs]
        exact ⟨by decide, by decide⟩
      · cases hs
    · split at hs
      · rw [List.mem_singleton.1 hs]
        exact ⟨by decide, by decide⟩
      · cases hs
  · obtain ⟨f, -, rfl⟩ := List.mem_map.1 hs
    exact isPlain_setting f

theorem fieldsSet_constructorItem (rt : String) (c : Class) (init : Constructor) :
    fieldsSet (constructorItem rt c init).lastLine =
      (constructorSettings c init).map Setting.read :=
  MethodItem.fieldsSet_of_construct (body_constructorItem rt c init)
    (isPlain_constructorSettings c init)

theorem read_setting (f : Field) : (setting f).read = (fieldName f.identifier, f.required) := by
  unfold setting
  cases f.required <;> rfl

/-- The super type's value is made if there is a super type. -/
theorem Constructor.Complete.makesBase_eq (h : Constructor.Complete c init) :
    makesBase c init = c.superType.isSome := by
  rw [makesBase]
  cases hsuper : c.superType.isSome with
  | false => rfl
  | true => rw [h.base hsuper]; rfl

/-- A constructor that makes the value of the super type keeps it in a variable. -/
theorem lets_baseField (rt : String) (h : makesBase c init = true) :
    (constructorItem rt c init).Lets baseField := by
  obtain ⟨hsuper, hforward⟩ := Bool.and_eq_true_iff.1 h
  obtain ⟨base, hbase⟩ := Option.isSome_iff_exists.1 hsuper
  obtain ⟨s, hs, hs'⟩ := List.any_eq_true.1 hforward
  cases s with
  | require => cases hs'
  | forward args =>
    obtain ⟨step, hstep, hstart⟩ : ∃ step, step? rt c init.params (.forward args) = some step ∧
        "let base__ = ".toList <+: step.text.toList := by
      refine ⟨_, congrArg (Option.map _) hbase, ?_⟩
      rw [Step.text_base]
      simp only [String.toList_append, List.append_assoc]
      exact List.prefix_append _ _
    refine ⟨step.text, ?_, hstart⟩
    rw [body_constructorItem, Body.blocks]
    refine List.mem_append_left _ (List.mem_map.2 ⟨step, ?_, rfl⟩)
    exact List.mem_filterMap.2 ⟨_, hs, hstep⟩

/-- **A complete constructor agrees** with the struct, in any class whatever. -/
theorem agrees_constructorItem (rt : String) (h : Constructor.Complete c init) :
    (constructorItem rt c init).Agrees (serviceStruct rt c) := by
  constructor
  case sets =>
    have hfields : (c.fields.map setting).map (Prod.fst ∘ Setting.read) =
        c.fields.map fun f => fieldName f.identifier := by
      rw [List.map_map]
      exact List.map_congr_left fun f _ => by
        rw [Function.comp_apply, Function.comp_apply, read_setting]
    rw [fieldsSet_constructorItem, fieldNames_serviceStruct, List.map_map, constructorSettings,
      serviceFieldNames, ownFields, h.makesBase_eq, List.map_append, List.map_append, hfields]
    congr 2 <;> split <;> rfl
  case bound =>
    intro name hname
    rw [fieldsSet_constructorItem] at hname
    obtain ⟨s, hs, hread⟩ := List.mem_map.1 hname
    rcases List.mem_append.1 hs with hs | hs
    · rcases List.mem_append.1 hs with hs | hs
      · split at hs
        · rename_i hclient
          cases List.mem_singleton.1 hs
          cases hread
          refine .inl ⟨runtimeType rt .client, List.mem_append_left _ ?_⟩
          rw [if_pos hclient]
          exact List.mem_singleton_self _
        · cases hs
      · split at hs
        · rename_i hbase
          cases List.mem_singleton.1 hs
          cases hread
          exact .inr ⟨rfl, lets_baseField rt hbase⟩
        · cases hs
    · obtain ⟨f, hf, rfl⟩ := List.mem_map.1 hs
      rw [read_setting] at hread
      obtain ⟨rfl, hrequired⟩ := Prod.mk.inj hread
      obtain ⟨param, hparam, hidentifier⟩ := h.required f hf hrequired
      refine .inl ⟨typeText rt param.type, List.mem_append_right _ ?_⟩
      rw [← hidentifier]
      exact List.mem_map_of_mem hparam

/-- The constructor of a client agrees with the struct, which has no more than the super type. -/
theorem agrees_clientConstructor (rt : String) (hkind : c.kind = .client)
    (hsuper : c.superType.isSome = true) (hfields : c.fields = []) :
    (clientConstructor rt).Agrees (serviceStruct rt c) := by
  have hset : fieldsSet (clientConstructor rt).lastLine = [(baseField, false)] := by
    rw [MethodItem.fieldsSet_of_construct rfl]
    · rfl
    · exact List.forall_mem_singleton.2 ⟨by decide, by decide⟩
  have hclient : holdsClient c = false := by rw [holdsClient, hkind]; rfl
  constructor
  case sets =>
    rw [hset, fieldNames_serviceStruct, serviceFieldNames, ownFields, hclient, hsuper, hfields]
    rfl
  case bound =>
    intro name hname
    rw [hset] at hname
    cases List.mem_singleton.1 hname

/-- Of the methods of a service, those for its constructors are constructors; in a client, there is
the one of its own. -/
theorem constructor_of_mem {m : MethodItem} (hm : m ∈ serviceMethods rt c) (h : m.IsConstructor) :
    (c.kind = .client ∧ m = clientConstructor rt) ∨
      ∃ init ∈ c.constructors, m = constructorItem rt c init := by
  obtain ⟨steps, settings, fallible, hbody⟩ := h
  simp only [serviceMethods, List.mem_append, or_assoc] at hm
  rcases hm with hm | hm | hm | hm | hm | hm
  · split at hm
    · rename_i hkind
      exact .inl ⟨by simpa using hkind, List.mem_singleton.1 hm⟩
    · cases hm
  · obtain ⟨init, hinit, rfl⟩ := List.mem_map.1 hm
    exact .inr ⟨init, hinit, rfl⟩
  · obtain ⟨base, -, hm⟩ := List.mem_flatMap.1 hm
    rcases List.mem_pair.1 hm with rfl | rfl <;> cases hbody
  · obtain ⟨f, -, hm⟩ := List.mem_flatMap.1 hm
    unfold fieldAccessors at hm
    split at hm
    · rw [List.mem_singleton.1 hm] at hbody
      cases hbody
    · rcases List.mem_pair.1 hm with rfl | rfl <;> cases hbody
  · split at hm
    · rw [List.mem_singleton.1 hm] at hbody
      cases hbody
    · cases hm
  · obtain ⟨f, -, rfl⟩ := List.mem_map.1 hm
    cases hbody

/-! ## Generated classes -/

variable {n : Naming} {d : Description} {api : Api}

/-- The constructors of generated services are complete. -/
theorem complete_of_origin (h : Origin n d (.ofClass c)) (hkind : c.kind ≠ .model) :
    ∀ init ∈ c.constructors, Constructor.Complete c init := by
  intro init hinit
  cases h with
  | schema hschema =>
    cases hschema
    exact absurd rfl hkind
  | request =>
    cases List.mem_singleton.1 hinit
    refine ⟨fun _ => rfl, fun f hf hrequired => ?_⟩
    obtain ⟨t, -, rfl⟩ := List.mem_map.1 hf
    cases hrequired
  | client => cases hinit
  | method site =>
    cases List.mem_singleton.1 hinit
    refine ⟨fun _ => rfl, fun f hf hrequired => ?_⟩
    rcases List.mem_append.1 hf with hf | hf
    · obtain ⟨t, -, rfl⟩ := List.mem_map.1 hf
      cases hrequired
    · rcases List.mem_append.1 hf with hf | hf
      · obtain ⟨p, hp, rfl⟩ := List.mem_map.1 hf
        exact ⟨p, List.mem_append_left _ hp, rfl⟩
      · obtain ⟨p, hp, rfl⟩ := List.mem_map.1 hf
        exact ⟨p, List.mem_append_right _ hp, rfl⟩
  | resource type node =>
    cases List.mem_singleton.1 hinit
    exact ⟨fun h => (by cases h), fun f hf => (by cases hf)⟩

/-- The struct and the implementation of a service stand in files. -/
theorem exists_serviceItem {settings : Settings} (h : (d.generate settings).result = .ok api)
    (rt : String) (hc : .ofClass c ∈ api.declarations) (hkind : c.kind ≠ .model) {item : Item}
    (hitem : item ∈ [serviceStruct rt c, serviceImplementation rt c]) :
    ∃ f ∈ files rt api, ⟨home c.name, item⟩ ∈ f.placed := by
  refine exists_placed (properlyNamed_of_generate h) hc ?_
  rwa [declarationItems, classItems, if_neg (by simpa using hkind), serviceItems_eq]

/-- The implementation of a service stands in a file. -/
theorem exists_implementation {settings : Settings} (h : (d.generate settings).result = .ok api)
    (rt : String) (hc : .ofClass c ∈ api.declarations) (hkind : c.kind ≠ .model) :
    ∃ f ∈ files rt api, ⟨home c.name, serviceImplementation rt c⟩ ∈ f.placed :=
  exists_serviceItem h rt hc hkind (List.mem_pair.2 (.inr rfl))

/-- A service as its constructors are written. -/
structure ServiceAgrees (rt : String) (api : Api) (c : Class) : Prop where
  /-- The struct and the implementation stand in files. -/
  written : ∀ item ∈ [serviceStruct rt c, serviceImplementation rt c],
    ∃ f ∈ files rt api, ⟨home c.name, item⟩ ∈ f.placed
  /-- Each constructor of the class has a method in the implementation. -/
  listed : ∀ init ∈ c.constructors, constructorItem rt c init ∈ serviceMethods rt c
  /-- All methods that make a value of the type agree with the struct, and with the type of their
  results. -/
  agrees : ∀ m ∈ serviceMethods rt c, m.IsConstructor →
    m.Agrees (serviceStruct rt c) ∧ m.TriesInResult rt

/-- A generated client has a super type, and no fields beside it. -/
theorem client_of_origin (h : Origin n d (.ofClass c)) (hkind : c.kind = .client) :
    c.superType.isSome = true ∧ c.fields = [] := by
  cases h with
  | schema hschema => cases hschema; cases hkind
  | request | method | resource => cases hkind
  | client => exact ⟨rfl, rfl⟩

theorem triesInResult_clientConstructor (rt : String) :
    (clientConstructor rt).TriesInResult rt := by
  intro steps settings fallible hbody step hstep
  rw [← (Body.construct.inj hbody).1] at hstep
  cases hstep

/-- **Constructors agree with their structs.** In a generated API this holds of every service: what
is set are the fields of the struct in their order, each from a parameter or a variable if it is set
to one. The operator `?` is used in constructors that give a `Result` only, of any class at all. -/
theorem services_agree (rt : String) :
    (∀ (c : Class) (init : Constructor), (constructorItem rt c init).IsConstructor ∧
      (constructorItem rt c init).TriesInResult rt) ∧
    ∀ (d : Description) (settings : Settings) (api : Api),
      (d.generate settings).result = .ok api →
        ∀ c, .ofClass c ∈ api.declarations → c.kind ≠ .model → ServiceAgrees rt api c := by
  refine ⟨fun c init => ⟨⟨_, _, _, rfl⟩, triesInResult_constructorItem rt c init⟩, ?_⟩
  intro d settings api h c hc hkind
  have horigin := origin_of_mem_declarations (generates_of_generate h) _ hc
  constructor
  case written =>
    exact fun item hitem => exists_serviceItem h rt hc hkind hitem
  case listed =>
    intro init hinit
    simp only [serviceMethods, List.mem_append, or_assoc]
    exact .inr (.inl (List.mem_map_of_mem hinit))
  case agrees =>
    intro m hm hconstructor
    rcases constructor_of_mem hm hconstructor with ⟨hclient, rfl⟩ | ⟨init, hinit, rfl⟩
    · obtain ⟨hsuper, hfields⟩ := client_of_origin horigin hclient
      exact ⟨agrees_clientConstructor rt hclient hsuper hfields, triesInResult_clientConstructor rt⟩
    · have hcomplete := complete_of_origin horigin hkind init hinit
      exact ⟨agrees_constructorItem rt hcomplete, triesInResult_constructorItem rt c init⟩

theorem services_agree_shelves :
    ∃ api c, (Description.shelves.generate {}).result = .ok api ∧ .ofClass c ∈ api.declarations ∧
      c.name.simpleName = "Get" ∧ c.kind = .component ∧ c.constructors.length = 1 ∧
        ServiceAgrees "runtime" api c := by
  have hfound : (Description.shelves.generate {}).result.toOption.any (fun api =>
      api.declarations.any (·.isClassWith fun c =>
        c.name.simpleName = "Get" ∧ c.kind = .component ∧ c.constructors.length = 1)) = true := by
    decide +kernel
  obtain ⟨api, c, h, hc, hclass⟩ := exists_class_of_any hfound
  obtain ⟨hname, hkind, hlength⟩ := of_decide_eq_true hclass
  have hservice : c.kind ≠ .model := by rw [hkind]; exact ClassKind.noConfusion
  exact ⟨api, c, h, hc, hname, hkind, hlength,
    (services_agree "runtime").2 _ _ api h c hc hservice⟩

end ClientGen.Source
