import ClientGen.Proofs.Api.Mirror

/-!
# The classes of methods

The class of a method is put together at different times: the required parameters are typed before
the class is opened, the optional ones and the call to the request type come while it is open, and
the fields and checks for what is required when it is closed. `method_classes` says that all of it
agrees, in order and in content, whatever is listed, flagged or declared: the fields, the parameters
of the constructor, its checks, and what it passes on to the request type.
-/

namespace ClientGen

open Component Generation

/-! ## Required parameters -/

/-- The names of the required parameters in call order: those listed, then, in the order of their
names, those that say themselves that they are required. All of them are declared. -/
structure Method.InCallOrder (m : Method) (names : List String) : Prop where
  split : ∃ flagged : List String, names = m.parameterOrder ++ flagged ∧
    flagged.Pairwise (· < ·) ∧
    ∀ name, name ∈ flagged ↔
      name ∉ m.parameterOrder ∧ ∃ s, (name, s) ∈ m.parameters ∧ s.required = some true
  declared : ∀ name ∈ names, ∃ s, (name, s) ∈ m.parameters

theorem Keyed.mem_keys {α : Type} {m : Keyed α} {name : String} :
    name ∈ m.keys ↔ ∃ value, (name, value) ∈ m := by
  constructor
  · intro h
    obtain ⟨⟨_, value⟩, he, rfl⟩ := List.mem_map.1 h
    exact ⟨value, he⟩
  · rintro ⟨value, he⟩
    exact List.mem_map.2 ⟨(name, value), he, rfl⟩

/-- The keys of a part of a map are in order. -/
theorem Keyed.Ordered.keys_filter {α : Type} {m : Keyed α} (h : m.Ordered)
    (p : String × α → Bool) : (Keyed.keys (m.filter p)).Pairwise (· < ·) :=
  List.pairwise_map.2 (List.Pairwise.filter p h)

/-- The names of the required parameters are in call order, if they are all declared. -/
theorem inCallOrder_requiredNames {m : Method} (hordered : m.parameters.Ordered)
    (hdeclared : m.requiredParameters.keys = m.requiredNames) : m.InCallOrder m.requiredNames where
  split := by
    refine ⟨_, m.requiredNames_eq, hordered.keys_filter _, fun name => ?_⟩
    rw [Keyed.mem_keys]
    constructor
    · rintro ⟨s, hs⟩
      obtain ⟨hs, hflag⟩ := List.mem_filter.1 hs
      obtain ⟨hrequired, hlisted⟩ := of_decide_eq_true hflag
      exact ⟨hlisted, s, hs, hrequired⟩
    · rintro ⟨hlisted, s, hs, hrequired⟩
      exact ⟨s, List.mem_filter.2 ⟨hs, decide_eq_true ⟨hrequired, hlisted⟩⟩⟩
  declared := by
    intro name hname
    rw [← hdeclared] at hname
    obtain ⟨e, he, rfl⟩ := List.mem_map.1 hname
    exact ⟨e.2, (Keyed.mem_of_mem_select he).1⟩

/-! ## Fields -/

/-- The field for the body of a method's requests: required, but no request parameter. It holds the
model that the request refers to. -/
def Method.bodyField (n : Naming) (m : Method) : Option Field :=
  m.request.map fun target => {
    identifier := ⟨"content"⟩
    type := .named (.topLevel n.modelPackage target)
    required := true }

/-- The fields are one for each parameter that is not in `names`, in the order of the names, then
those in `names` as they stand there, then the one for the body. All but the last are sent as
request parameters. -/
structure Method.HasFields (n : Naming) (m : Method) (names : List String)
    (optional required : List Field) (c : Class) : Prop where
  fields : c.fields = optional ++ required ++ (m.bodyField n).toList
  optionalNames : optional.map (·.identifier.wireName) = m.parameters.keys.filter (· ∉ names)
  optionalOrdered : (optional.map (·.identifier.wireName)).Pairwise (· < ·)
  optionalKind : ∀ f ∈ optional, f.key = true ∧ f.required = false
  requiredNames : required.map (·.identifier.wireName) = names
  requiredKind : ∀ f ∈ required, f.key = true ∧ f.required = true

variable {n : Naming} {site : MethodSite}

/-- The fields of the optional parameters of a method. -/
def MethodSite.optionalFields (n : Naming) (site : MethodSite) : List Field :=
  (site.method.optionalParameters.typed n.modelPackage site.type).map Typing.optionalField

/-- The fields of the required parameters of a method. -/
def MethodSite.requiredFields (n : Naming) (site : MethodSite) : List Field :=
  (methodSpec n site).required.map (paramField true)

/-- Fields for optional parameters are called on the wire what the parameters are. -/
theorem wireNames_typed (package : List String) (owner : QualifiedName)
    (parameters : Keyed Schema) :
    ((parameters.typed package owner).map Typing.optionalField).map (·.identifier.wireName) =
      parameters.keys := by
  rw [Keyed.typed, List.map_map, List.map_map]
  rfl

theorem wireNames_optionalFields (n : Naming) (site : MethodSite) :
    (site.optionalFields n).map (·.identifier.wireName) = site.method.optionalParameters.keys :=
  wireNames_typed _ _ _

theorem wireNames_requiredFields (n : Naming) (site : MethodSite) :
    (site.requiredFields n).map (·.identifier.wireName) = site.method.requiredParameters.keys := by
  rw [MethodSite.requiredFields, methodSpec, Keyed.typed, List.map_map, List.map_map, List.map_map]
  rfl

/-- The names of the optional parameters are the other declared ones. -/
theorem keys_optionalParameters (m : Method) :
    m.optionalParameters.keys = m.parameters.keys.filter (· ∉ m.requiredNames) := by
  rw [Method.optionalParameters_eq, Method.requiredNames_eq, Keyed.keys_without]

theorem bodyField_eq (n : Naming) (m : Method) :
    (m.bodyField n).toList = (bodyParam n m).toList.map (paramField false) := by
  rw [Method.bodyField, bodyParam]
  cases m.request with
  | none => rfl
  | some target => rfl

/-- The fields of the request type are those of the parameters of the API. -/
theorem fields_request (n : Naming) (d : Description) :
    (requestClass n (d.globals n)).fields =
      (d.parameters.typed n.modelPackage n.request).map Typing.optionalField := rfl

/-- The fields of a method are those of its parameters, and then that of the body. -/
theorem fields_method (n : Naming) (site : MethodSite) :
    (methodDraft n site).finish.fields =
      site.optionalFields n ++ site.requiredFields n ++ (site.method.bodyField n).toList := by
  rw [bodyField_eq, List.append_assoc]
  rfl

theorem hasFields_method (hordered : site.method.parameters.Ordered)
    (hdeclared : site.method.requiredParameters.keys = site.method.requiredNames) :
    site.method.HasFields n site.method.requiredNames (site.optionalFields n)
      (site.requiredFields n) (methodDraft n site).finish where
  fields := fields_method n site
  optionalNames := by
    rw [wireNames_optionalFields, keys_optionalParameters]
  optionalOrdered := by
    rw [wireNames_optionalFields]
    exact hordered.keys_filter _
  optionalKind := by
    intro f hf
    obtain ⟨t, -, rfl⟩ := List.mem_map.1 hf
    exact ⟨rfl, rfl⟩
  requiredNames := by
    rw [wireNames_requiredFields, hdeclared]
  requiredKind := by
    intro f hf
    obtain ⟨p, -, rfl⟩ := List.mem_map.1 hf
    exact ⟨rfl, rfl⟩

/-! ## What is passed on -/

/-- The type of a method's responses: the model that its response refers to, or nothing. -/
def Method.answer (n : Naming) (m : Method) : TypeRef :=
  (m.response.map fun target => .named (.topLevel n.modelPackage target)).getD .void

/-- What a method passes to the constructor of the request type. -/
def Method.passed (n : Naming) (m : Method) : List Expr :=
  [.client, .type (m.answer n), .verb m.httpMethod, .constant "REST_PATH",
    if m.request.isSome then .param ⟨"content"⟩ else .absent]

/-- What is passed on is of the kind that the parameter is for. -/
def Expr.Fits : Expr → Param → Prop
  | .client, p => p.type = .runtime .client
  | .type _, p => ∃ response, p.type = .applied (.runtime .responseType) [response]
  | .verb _, p => p.type = .runtime .httpMethod
  | .constant _, p => p.type = .primitive .string
  | .param _, p => p.type = .runtime .content
  | .absent, p => p.type = .runtime .content

theorem arguments_eq_passed (n : Naming) (m : Method) :
    baseRequest.primary.arguments (methodCall n m) = m.passed n := by
  have hcontent : (methodCall n m).argument .content =
      if m.request.isSome then .param ⟨"content"⟩ else .absent := by
    rw [MethodCall.argument, methodCall]
    cases m.request with
    | none => rfl
    | some target => rfl
  rw [Method.passed, ← hcontent]
  rfl

/-- Position by position, what a method passes on fits the one constructor of the request type. -/
theorem passed_fit (n : Naming) (m : Method) (o : Optionals) :
    ∃ base, (requestClass n o).constructors = [base] ∧
      List.Forall₂ Expr.Fits (m.passed n) base.params := by
  refine ⟨_, rfl, .cons rfl (.cons ⟨_, rfl⟩ (.cons rfl (.cons rfl (.cons ?_ .nil))))⟩
  cases m.request with
  | none => rfl
  | some target => rfl

/-! ## The whole class -/

/-- The class is that of the method: its fields, its one constructor, the constant that it keeps its
path in, and the request type it is built on, with the type of its responses. -/
structure MethodSite.IsClass (n : Naming) (request : Class) (site : MethodSite)
    (names : List String) (optional required : List Field) (c : Class) : Prop where
  name : c.name = site.type
  inCallOrder : site.method.InCallOrder names
  hasFields : site.method.HasFields n names optional required c
  /-- The constructor takes the required parameters and the body, passes on what the request type
  asks for, and refuses a missing value for each of its parameters. -/
  init : ∃ init, c.constructors = [init] ∧
    init.params = (required ++ (site.method.bodyField n).toList).map
      (fun f => ⟨f.identifier, f.type⟩) ∧
    init.body = .forward (site.method.passed n) :: init.params.map fun p =>
      .require p.identifier s!"Required parameter {p.identifier.name} must be specified."
  passed : ∃ base, request.constructors = [base] ∧
    List.Forall₂ Expr.Fits (site.method.passed n) base.params
  constants : c.constants = [⟨"REST_PATH", .literal site.method.path⟩]
  superType : c.superType = some (.applied (.named request.name) [site.method.answer n])

/-- The constructor takes what the fields of required parameters and of the body hold. -/
theorem params_method (n : Naming) (site : MethodSite) :
    (methodSpec n site).params =
      (site.requiredFields n ++ (site.method.bodyField n).toList).map
        fun f => ⟨f.identifier, f.type⟩ := by
  rw [bodyField_eq, MethodSite.requiredFields, List.map_append, List.map_map, List.map_map]
  show _ = (methodSpec n site).required.map id ++ (bodyParam n site.method).toList.map id
  rw [List.map_id, List.map_id]
  rfl

/-- If all required parameters are declared, the class of a method is as it should be. -/
theorem isClass_method (htyped : site.Typed n) (hordered : site.method.parameters.Ordered)
    (o : Optionals) :
    site.IsClass n (requestClass n o) site.method.requiredNames (site.optionalFields n)
      (site.requiredFields n) (methodDraft n site).finish where
  name := rfl
  inCallOrder := inCallOrder_requiredNames hordered htyped.declared
  hasFields := hasFields_method hordered htyped.declared
  init := by
    refine ⟨_, rfl, params_method n site, ?_⟩
    rw [← arguments_eq_passed]
    rfl
  passed := passed_fit n site.method o
  constants := rfl
  superType := rfl

theorem parameters_ordered (node : Resource) (owner : QualifiedName) (h : node.Ordered) :
    ∀ site ∈ node.methodSites owner, site.method.parameters.Ordered :=
  fun site hsite => (Resource.parameters_ordered node owner h site hsite).1

/-- **The classes of methods.** In the client and in every resource, the class of each method has
its fields, its constructor, its checks and what it passes on in agreement with the required
parameters in call order, whatever is listed, flagged or declared. The maps of a description that is
read are always in order, `ordered_of_ofText`. -/
theorem method_classes {d : Description} {settings : Settings} {api : Api} (hordered : d.Ordered)
    (h : (d.generate settings).result = .ok api) :
    Mirrors
      (fun site p => ∃ names optional required,
        site.IsClass (d.naming settings) api.request names optional required p.type)
      (fun _ _ _ => True) api.client d.tree := by
  have hgenerates := generates_of_generate h
  rw [hgenerates.request]
  refine mirrors_of_generates hgenerates hordered ?_ fun _ _ _ => trivial
  intro site hsite
  exact ⟨_, _, _, isClass_method (hgenerates.methods site hsite)
    (parameters_ordered d.tree _ hordered.tree site hsite) _⟩

theorem method_classes_shelves :
    ∃ api, (Description.shelves.generate {}).result = .ok api ∧ Mirrors
      (fun site p => ∃ names optional required,
        site.IsClass (Description.shelves.naming {}) api.request names optional required p.type)
      (fun _ _ _ => True) api.client Description.shelves.tree := by
  obtain ⟨api, h⟩ := shelves_generate
  exact ⟨api, h, method_classes shelves_ordered h⟩

end ClientGen
