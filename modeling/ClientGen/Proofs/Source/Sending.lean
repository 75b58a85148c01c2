import ClientGen.Proofs.Api.Complete
import ClientGen.Proofs.Source.Constructors

/-!
# Parameters that are sent

A method class has `parameters()`, which collects what its requests send on the wire. Which fields
are sent, under which names and in which order, is decided when the class is put together; whether a
field is sent always or only if it has a value, and what the list begins with, when it is written.
`readParameters` reads the text that is written: the names on the wire from their literals, and what
guards a field from the block around it. `parameters_sent` says that the optional parameters come
first and then, without a guard, the required ones in call order, and nothing else; the request type
sends the parameters of the API, all guarded, from an empty list on.
-/

namespace ClientGen.Source

open Text Generation Component

/-! ## Reading what is sent -/

/-- A parameter that is sent. -/
structure Sent where
  /-- The name on the wire, as the literal denotes it. -/
  wireName : String
  field : String
  /-- Only if the field has a value. -/
  guarded : Bool
deriving DecidableEq, Repr

/-- What follows the beginning of a text, if it begins so. -/
def after? (start : String) (text : List Char) : Option (List Char) :=
  start.toList.isPrefixOf? text

/-- The name on the wire and the value that a line puts into the list. -/
def readPush (line : String) : Option (String × String) := do
  let literal ← after? "parameters.push((\"" line.toList
  let (name, rest) ← readLiteral literal
  let value ← after? ", serde_json::to_value(" rest
  let written := value.takeWhile (· != ')')
  if value = written ++ ")?));".toList then some (String.ofList name, String.ofList written)
  else none

/-- What a line, or a block with a guard, sends. -/
def readSent : Block → Option Sent
  | .line text => do
    let (name, value) ← readPush text
    let field ← after? "&self." value.toList
    return ⟨name, String.ofList field, false⟩
  | .group first [.line text] "\x7d" => do
    let guard ← after? "if let Some(ref value) = self." first.toList
    let (name, value) ← readPush text
    let field := guard.takeWhile (· != ' ')
    if guard = field ++ " \x7b".toList ∧ value = "value" then
      some ⟨name, String.ofList field, true⟩
    else none
  | .group .. => none

/-- What the list begins with if nothing is added to it: the parameters of the super type, or
nothing. -/
def readShortcut (line : String) : Option Bool :=
  if line = "self.base__.parameters()" then some true
  else if line = "Ok(Vec::new())" then some false
  else none

/-- What the list begins with before something is added to it. -/
def readStart (line : String) : Option Bool :=
  if line = "let mut parameters: Vec<(&'static str, serde_json::Value)> = " ++
      "self.base__.parameters()?;" then some true
  else if line = "let mut parameters: Vec<(&'static str, serde_json::Value)> = " ++
      "Vec::new();" then some false
  else none

/-- What a method collects: whether it begins with the parameters of the super type, and what it
adds to them in which order. -/
def readParameters : List Block → Option (Bool × List Sent)
  | [.line text] => (readShortcut text).map fun inherits => (inherits, [])
  | .line first :: rest =>
    match rest.getLast? with
    | some (.line "Ok(parameters)") => do
      let inherits ← readStart first
      let sent ← rest.dropLast.mapM readSent
      return (inherits, sent)
    | _ => none
  | _ => none

theorem after?_append {start : String} {text rest : List Char}
    (h : text = start.toList ++ rest) : after? start text = some rest :=
  List.isPrefixOf?_eq_some_iff_append_eq.2 h.symm

/-- A line that is written puts its value into the list under its name. -/
theorem readPush_line {wireName value : String} (h : ')' ∉ value.toList) :
    readPush ("parameters.push((" ++ literal wireName ++
      s!", serde_json::to_value({value})?));") = some (wireName, value) := by
  have hline : ("parameters.push((" ++ literal wireName ++
      s!", serde_json::to_value({value})?));").toList = "parameters.push((\"".toList ++
        (escapeChars wireName.toList ++ '"' :: (", serde_json::to_value(".toList ++
          (value.toList ++ ")?));".toList))) := by
    simp [literal, toString]
  have htaken : (value.toList ++ ")?));".toList).takeWhile (· != ')') = value.toList := by
    rw [List.takeWhile_append_of_pos (forall_bne h)]
    exact List.append_nil _
  rw [readPush, after?_append hline]
  simp only [Option.bind_eq_bind, Option.bind_some, readLiteral_escapeChars, after?_append rfl,
    htaken, if_true, String.ofList_toList]

/-- What a push sends. -/
def Push.sent (p : Push) : Sent :=
  ⟨p.wireName, p.field, !p.always⟩

theorem readSent_block {p : Push} (h : IsName p.field.toList) :
    readSent p.block = some p.sent := by
  have hparen : ')' ∉ p.field.toList := h.not_mem (by decide)
  unfold Push.block
  cases halways : p.always with
  | true =>
    have hself : s!"&self.{p.field}".toList = "&self.".toList ++ p.field.toList := by
      simp [toString]
    have hvalue : ')' ∉ s!"&self.{p.field}".toList := by
      rw [hself, List.mem_append, not_or]
      exact ⟨by decide, hparen⟩
    rw [if_pos rfl, readSent, readPush_line hvalue]
    simp only [Option.bind_eq_bind, Option.bind_some, after?_append hself, String.ofList_toList,
      Push.sent, halways]
    rfl
  | false =>
    have hfirst : (s!"if let Some(ref value) = self.{p.field}" ++ " \x7b").toList =
        "if let Some(ref value) = self.".toList ++ (p.field.toList ++ " \x7b".toList) := by
      simp [toString]
    have htaken : (p.field.toList ++ " \x7b".toList).takeWhile (· != ' ') = p.field.toList := by
      rw [List.takeWhile_append_of_pos (forall_bne (h.not_mem (by decide)))]
      exact List.append_nil _
    rw [if_neg Bool.false_ne_true, readSent, after?_append hfirst, readPush_line (by decide)]
    simp only [Option.bind_eq_bind, Option.bind_some, htaken, and_self, if_true,
      String.ofList_toList, Push.sent, halways]
    rfl

theorem mapM_readSent_blocks {pushes : List Push} (h : ∀ p ∈ pushes, IsName p.field.toList) :
    (pushes.map (·.block)).mapM readSent = some (pushes.map (·.sent)) := by
  induction pushes with
  | nil => rfl
  | cons p rest ih =>
    obtain ⟨hp, hrest⟩ := List.forall_mem_cons.1 h
    rw [List.map_cons, List.mapM_cons, readSent_block hp, ih hrest]
    rfl

/-- What is added one by one, after what the list begins with. -/
theorem readParameters_start {first : String} {inherits : Bool} {pieces : List Block}
    {sent : List Sent} (hfirst : readStart first = some inherits)
    (hsent : pieces.mapM readSent = some sent) (hne : pieces ≠ []) :
    readParameters (.line first :: pieces ++ [.line "Ok(parameters)"]) = some (inherits, sent) := by
  obtain ⟨block, rest, rfl⟩ := List.exists_cons_of_ne_nil hne
  have hlast : (block :: (rest ++ [.line "Ok(parameters)"])).getLast? =
      some (.line "Ok(parameters)") := by
    rw [← List.cons_append, List.getLast?_concat]
  have hinit : (block :: (rest ++ [.line "Ok(parameters)"])).dropLast = block :: rest := by
    rw [← List.cons_append, List.dropLast_concat]
  rw [List.cons_append, List.cons_append, readParameters, hlast, hinit, hfirst, hsent]
  · rfl
  · intro h
    simp at h

/-- **What is collected is read**, whatever it is. -/
theorem readParameters_collect (inherits : Bool) {pushes : List Push}
    (h : ∀ p ∈ pushes, IsName p.field.toList) :
    readParameters (Body.collect inherits pushes).blocks =
      some (inherits, pushes.map (·.sent)) := by
  cases pushes with
  | nil => cases inherits <;> rfl
  | cons p rest =>
    rw [Body.blocks]
    · refine readParameters_start ?_ (mapM_readSent_blocks h) (List.cons_ne_nil _ _)
      cases inherits <;> decide
    · exact List.cons_ne_nil p rest

/-! ## The method of a class -/

variable {rt : String} {c : Class}

/-- The first line of the method that collects what is sent. -/
def parametersLine : String :=
  "pub fn parameters(&self) -> " ++
    "Result<Vec<(&'static str, serde_json::Value)>, serde_json::Error> \x7b"

/-- The class sends these parameters, after those of its super type if it inherits some: it has one
method for it, which collects just these. -/
def Sends (rt : String) (c : Class) (inherits : Bool) (sent : List Sent) : Prop :=
  ∃ before m after, serviceMethods rt c = before ++ m :: after ∧
    m.signature.text = parametersLine ∧
    (∀ other ∈ before ++ after, other.signature ≠ m.signature) ∧
    readParameters m.body.blocks = some (inherits, sent)

/-- How a field is sent. -/
def Field.sent (f : Field) : Sent :=
  ⟨f.identifier.wireName, fieldName f.identifier, !f.required⟩

theorem sent_comp_push : Push.sent ∘ push = Field.sent := by
  funext f
  simp only [Function.comp_apply, push, Push.sent, Field.sent]

/-- A text that begins otherwise than the list of parameters. -/
theorem not_prefix_of_head {result : String} {first : Char} {rest : List Char}
    (h : result.toList = first :: rest) (hfirst : first ≠ 'R') :
    ¬"Result<V".toList <+: result.toList := by
  rintro ⟨after, hafter⟩
  rw [h] at hafter
  exact hfirst (List.cons.inj hafter).1.symm

/-- A type in the crate is written as an absolute path. -/
theorem exists_toList_typePath (q : QualifiedName) : ∃ rest, (typePath q).toList = 'c' :: rest := by
  rw [typePath, String.toList_intercalate, List.map_append, List.map_cons, List.cons_append,
    List.intercalate_cons_of_ne_nil (by simp)]
  exact ⟨_, rfl⟩

theorem not_prefix_factory (rt : String) (fallible : Bool) (q : QualifiedName) :
    ¬"Result<V".toList <+: (resultType rt fallible (typePath q)).toList := by
  obtain ⟨rest, hpath⟩ := exists_toList_typePath q
  cases fallible with
  | false => exact not_prefix_of_head hpath (by decide)
  | true =>
    have hresult : (resultType rt true (typePath q)).toList =
        "Result<".toList ++ ('c' :: (rest ++ (", " ++ rt ++ "::Error>").toList)) := by
      simp [resultType, hpath, toString]
    rw [hresult]
    rintro ⟨after, hafter⟩
    have hvec : "Result<V".toList = "Result<".toList ++ ['V'] := by decide
    rw [hvec, List.append_assoc] at hafter
    exact absurd (List.cons.inj (List.append_cancel_left hafter)).1 (by decide)

/-- The list of parameters is the result of no other method. -/
theorem signature_ne {c : Class} {s : Signature}
    (h : s.receiver = none ∨ ¬"Result<V".toList <+: s.result.toList) :
    s ≠ (parametersItem c).signature := by
  have hresult : (parametersItem c).signature.result =
      s!"Result<{parameterList}, serde_json::Error>" := rfl
  rintro rfl
  rcases h with h | h
  · cases h
  · rw [hresult] at h
    exact h (by decide)

/-- What gives a reference gives no list of parameters. -/
theorem not_prefix_reference (text : String) :
    ¬"Result<V".toList <+: ("&" ++ text).toList :=
  not_prefix_of_head String.toList_append (by decide)

theorem signature_ne_of_mem_fieldAccessors {f : Field} {other : MethodItem}
    (h : other ∈ fieldAccessors rt f) : other.signature ≠ (parametersItem c).signature := by
  unfold fieldAccessors at h
  split at h
  · rw [List.mem_singleton.1 h]
    exact signature_ne (.inr (not_prefix_reference _))
  · rcases List.mem_pair.1 h with rfl | rfl
    · have hvalue : s!"Option<&{typeText rt f.type}>".toList =
          'O' :: ("ption<&" ++ typeText rt f.type ++ ">").toList := by
        simp [toString]
      exact signature_ne (.inr (not_prefix_of_head hvalue (by decide)))
    · exact signature_ne (.inr (not_prefix_reference "mut Self"))

/-- **A class that collects parameters** sends its keys, as they stand, and nothing else. -/
theorem sends_of_collects (rt : String)
    (h : (c.kind == .requestBase || extendsRequest c) = true) :
    Sends rt c (extendsRequest c) ((c.fields.filter (·.key)).map Field.sent) := by
  refine ⟨(if c.kind == .client then [clientConstructor rt] else []) ++
    c.constructors.map (constructorItem rt c) ++ c.superType.toList.flatMap (baseAccessors rt) ++
      c.fields.flatMap (fieldAccessors rt),
    parametersItem c, c.factories.map (factoryItem rt c), ?_, rfl, ?_, ?_⟩
  · rw [serviceMethods, if_pos h, List.append_assoc, List.singleton_append]
  · intro other hother
    simp only [List.mem_append, or_assoc] at hother
    rcases hother with hother | hother | hother | hother | hother
    · split at hother
      · rw [List.mem_singleton.1 hother]
        exact signature_ne (.inl rfl)
      · cases hother
    · obtain ⟨init, -, rfl⟩ := List.mem_map.1 hother
      exact signature_ne (.inl rfl)
    · obtain ⟨base, -, hother⟩ := List.mem_flatMap.1 hother
      rcases List.mem_pair.1 hother with rfl | rfl
      · exact signature_ne (.inr (not_prefix_reference _))
      · have hchanged : "&mut " ++ typeText rt base = "&" ++ ("mut " ++ typeText rt base) := by
          simp [← String.toList_inj]
        refine signature_ne (.inr ?_)
        rw [hchanged]
        exact not_prefix_reference _
    · obtain ⟨f, -, hother⟩ := List.mem_flatMap.1 hother
      exact signature_ne_of_mem_fieldAccessors hother
    · obtain ⟨f, -, rfl⟩ := List.mem_map.1 hother
      exact signature_ne (.inr (not_prefix_factory rt _ _))
  · have hnames : ∀ p ∈ (c.fields.filter (·.key)).map push, IsName p.field.toList := by
      intro p hp
      obtain ⟨f, -, rfl⟩ := List.mem_map.1 hp
      simp only [push]
      exact isName_fieldName f.identifier
    have hbody := readParameters_collect (extendsRequest c) hnames
    rwa [List.map_map, sent_comp_push] at hbody

/-! ## Generated classes -/

/-- Parameters that are sent if they have a value. -/
def guarded (names : List String) : List Sent :=
  names.map fun name => ⟨name, fieldName ⟨name⟩, true⟩

/-- Parameters that are always sent. -/
def unguarded (names : List String) : List Sent :=
  names.map fun name => ⟨name, fieldName ⟨name⟩, false⟩

theorem map_sent_optional {fields : List Field} (h : ∀ f ∈ fields, f.required = false) :
    fields.map Field.sent = guarded (fields.map (·.identifier.wireName)) := by
  rw [guarded, List.map_map]
  refine List.map_congr_left fun f hf => ?_
  rw [Field.sent, h f hf]
  rfl

theorem map_sent_required {fields : List Field} (h : ∀ f ∈ fields, f.required = true) :
    fields.map Field.sent = unguarded (fields.map (·.identifier.wireName)) := by
  rw [unguarded, List.map_map]
  refine List.map_congr_left fun f hf => ?_
  rw [Field.sent, h f hf]
  rfl

variable {n : Naming} {d : Description} {api : Api}

/-- The keys of a method class are its parameters; the body is none. -/
theorem sent_of_hasFields {m : Method} {names : List String} {optional required : List Field}
    (h : m.HasFields n names optional required c) :
    (c.fields.filter (·.key)).map Field.sent =
      guarded (m.parameters.keys.filter (· ∉ names)) ++ unguarded names := by
  have hbody : (m.bodyField n).toList.filter (·.key) = [] := by
    rw [Method.bodyField]
    cases m.request <;> rfl
  have hoptional : optional.filter (·.key) = optional :=
    List.filter_eq_self.2 fun f hf => (h.optionalKind f hf).1
  have hrequired : required.filter (·.key) = required :=
    List.filter_eq_self.2 fun f hf => (h.requiredKind f hf).1
  rw [h.fields, List.filter_append, List.filter_append, hbody, hoptional, hrequired,
    List.append_nil, List.map_append, map_sent_optional fun f hf => (h.optionalKind f hf).2,
    map_sent_required fun f hf => (h.requiredKind f hf).2, h.optionalNames, h.requiredNames]

/-- The class of a method sends the parameters of the method: first, in the order of their names and
if they have a value, those that are not required, and then those that are, in call order. -/
structure MethodSends (rt : String) (n : Naming) (api : Api) (site : MethodSite) (c : Class) :
    Prop where
  /-- The implementation stands in a file. -/
  written : ∃ f ∈ files rt api, ⟨home c.name, serviceImplementation rt c⟩ ∈ f.placed
  /-- The super type, whose parameters come before, is the request type of the API. -/
  superType : c.superType = some (.applied (.named api.request.name) [site.method.answer n])
  sends : ∃ names, site.method.InCallOrder names ∧
    (site.method.parameters.keys.filter (· ∉ names)).Pairwise (· < ·) ∧
    Sends rt c true (guarded (site.method.parameters.keys.filter (· ∉ names)) ++ unguarded names)

/-- The request type sends the parameters of the API, in the order of their names and if they have a
value. -/
structure RequestSends (rt : String) (d : Description) (api : Api) : Prop where
  written : ∃ f ∈ files rt api, ⟨home api.request.name, serviceImplementation rt api.request⟩ ∈
    f.placed
  ordered : d.parameters.keys.Pairwise (· < ·)
  sends : Sends rt api.request false (guarded d.parameters.keys)

/-- All fields of the request type are keys: the parameters of the API. -/
theorem sent_requestClass (n : Naming) (d : Description) :
    ((requestClass n (d.globals n)).fields.filter (·.key)).map Field.sent =
      guarded d.parameters.keys := by
  have hkind : ∀ f ∈ (d.parameters.typed n.modelPackage n.request).map Typing.optionalField,
      f.key = true ∧ f.required = false := by
    intro f hf
    obtain ⟨t, -, rfl⟩ := List.mem_map.1 hf
    exact ⟨rfl, rfl⟩
  rw [fields_request, List.filter_eq_self.2 fun f hf => (hkind f hf).1,
    map_sent_optional fun f hf => (hkind f hf).2, wireNames_typed]

/-- **Parameters that are sent.** Each method class sends what its method declares, and the request
type what the API declares, in their orders. The maps of a description that is read are always in
order, `ordered_of_ofText`. -/
theorem parameters_sent {settings : Settings} (hordered : d.Ordered)
    (h : (d.generate settings).result = .ok api) (rt : String) :
    Mirrors (fun site p => MethodSends rt (d.naming settings) api site p.type)
      (fun _ _ _ => True) api.client d.tree ∧ RequestSends rt d api := by
  have hgenerates := generates_of_generate h
  constructor
  · refine mirrors_of_generates hgenerates hordered (fun site hsite => ?_) fun _ _ _ => trivial
    have hclass := isClass_method (hgenerates.methods site hsite)
      (parameters_ordered d.tree _ hordered.tree site hsite) (d.globals (d.naming settings))
    constructor
    case written =>
      exact exists_implementation h rt (method_mem_declarations hgenerates hsite)
        ClassKind.noConfusion
    case superType =>
      rw [hgenerates.request]
      exact hclass.superType
    case sends =>
      refine ⟨_, hclass.inCallOrder, ?_, ?_⟩
      · rw [← hclass.hasFields.optionalNames]
        exact hclass.hasFields.optionalOrdered
      · rw [← sent_of_hasFields hclass.hasFields]
        exact sends_of_collects rt rfl
  · constructor
    case written =>
      refine exists_implementation h rt
        (mem_declarations request_mem_topLevel (DeclarationOf.self_mem_all _)) ?_
      rw [hgenerates.request]
      exact ClassKind.noConfusion
    case ordered => exact List.pairwise_map.2 hordered.parameters.1
    case sends =>
      rw [hgenerates.request, ← sent_requestClass]
      exact sends_of_collects rt rfl

theorem parameters_sent_shelves :
    ∃ api, (Description.shelves.generate {}).result = .ok api ∧
      Mirrors (fun site p => MethodSends "runtime" (Description.shelves.naming {}) api site p.type)
        (fun _ _ _ => True) api.client Description.shelves.tree ∧
      RequestSends "runtime" Description.shelves api := by
  obtain ⟨api, h⟩ := shelves_generate
  exact ⟨api, h, parameters_sent shelves_ordered h "runtime"⟩

end ClientGen.Source
