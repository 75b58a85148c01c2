import ClientGen.Proofs.Api.Failure
import ClientGen.Proofs.Batch.Disk
import ClientGen.Proofs.Source.Apart

/-!
# Runs that are refused

A run over several APIs reads and generates all of them, and compares their packages, before it
writes anything. So if a document is missing or broken, or cannot be generated from, or if two APIs
would share a package, then the disk is as it was before. The error says, once, in which API
something is wrong, or it names the two APIs. Any other error is one of writing.

* `SelectorFault` — what can be wrong with a selector, given a disk, and the error for it.
* `collision?_eq_some` — two APIs that would share a package.
* `WriteErrors` — computations that fail only at writing.
* `all_or_nothing` — what comes of a run.
-/

namespace ClientGen

/-- The error says in which API it was met. -/
def Error.isApi : Error → Bool
  | .api .. => true
  | _ => false

theorem Error.forApi_of_not_isApi {e : Error} (h : e.isApi = false) (selector : String) :
    e.forApi selector = .api selector e := by
  cases e <;> first | rfl | cases h

/-- A generation that fails says so once. -/
theorem error_of_generate {d : Description} {settings : Settings} {e : Error}
    (h : (d.generate settings).result = .error e) :
    ∃ cause, cause.isApi = false ∧ e = .api d.selector cause := by
  obtain ⟨cause, hcause, rfl⟩ := Traced.mapError_result_eq_error.1 h
  have hbare : cause.isApi = false := by
    rcases fault_of_build hcause with - | ⟨-, - | - | -⟩ | - <;> rfl
  exact ⟨cause, hbare, Error.forApi_of_not_isApi hbare _⟩

namespace Batch

open Disk

/-! ## Selectors on a disk -/

section

variable (read : String → Except FileFailure ByteArray) (directory : String) (settings : Settings)
  (s : Selector)

/-- The document of a selector is there and holds the text. -/
def Holds (text : String) : Prop :=
  ∃ bytes, read (documentPath directory s) = .ok bytes ∧ String.fromUTF8? bytes = some text

/-- The API is what is generated for a selector. -/
def Selects (a : Api) : Prop :=
  ∃ text d, Holds read directory s text ∧ Description.ofText text = .ok d ∧
    (d.generate settings).result = .ok a

/-- What can be wrong with a selector, and the error for it. -/
inductive SelectorFault : Error → Prop
  /-- The document cannot be read. -/
  | unreadable (failure : FileFailure) (h : read (documentPath directory s) = .error failure) :
    SelectorFault (.api s.text (.io failure))
  /-- What is read is not text. -/
  | invalidText (bytes : ByteArray) (hread : read (documentPath directory s) = .ok bytes)
    (h : String.fromUTF8? bytes = none) : SelectorFault (.api s.text (.io .invalidText))
  /-- The text is not that of a description. -/
  | unparsable (text : String) (htext : Holds read directory s text) (failure : Json.Failure)
    (h : Description.ofText text = .error failure) : SelectorFault (.api s.text (.json failure))
  /-- Nothing can be generated for the description, which the error calls by its own name and
  version. -/
  | ungenerated (text : String) (htext : Holds read directory s text) (d : Description)
    (hparse : Description.ofText text = .ok d) (cause : Error) (hcause : cause.isApi = false)
    (h : (d.generate settings).result = .error (.api (d.name ++ ":" ++ d.version) cause)) :
    SelectorFault (.api (d.name ++ ":" ++ d.version) cause)

/-- What a run makes of a selector. -/
def selected : Except Error Api :=
  ((read (documentPath directory s)).mapError .io >>= decode >>= parse >>= fun d =>
    (d.generate settings).result).mapError (Error.forApi s.text)

variable {read directory settings s}

/-- What a run makes of the text of a document. -/
theorem selected_of_holds {text : String} (h : Holds read directory s text) :
    selected read directory settings s =
      (parse text >>= fun d => (d.generate settings).result).mapError (Error.forApi s.text) := by
  obtain ⟨bytes, hread, htext⟩ := h
  have hdecode : decode bytes = .ok text := by rw [decode, htext]
  rw [selected, hread]
  show (decode bytes >>= parse >>= fun d => (d.generate settings).result).mapError _ = _
  rw [hdecode]
  rfl

/-- What a run makes of a description. -/
theorem selected_of_parse {text : String} {d : Description} (h : Holds read directory s text)
    (hparse : Description.ofText text = .ok d) :
    selected read directory settings s =
      (d.generate settings).result.mapError (Error.forApi s.text) := by
  rw [selected_of_holds h, parse, hparse]
  rfl

theorem Selects.selected_eq {a : Api} (h : Selects read directory settings s a) :
    selected read directory settings s = .ok a := by
  obtain ⟨text, d, htext, hparse, hgenerate⟩ := h
  rw [selected_of_parse htext hparse, hgenerate]
  rfl

theorem SelectorFault.selected_eq {e : Error} (h : SelectorFault read directory settings s e) :
    selected read directory settings s = .error e := by
  cases h with
  | unreadable failure h =>
    rw [selected, h]
    rfl
  | invalidText bytes hread h =>
    have hdecode : decode bytes = .error (.io .invalidText) := by rw [decode, h]
    rw [selected, hread]
    show (decode bytes >>= parse >>= fun d => (d.generate settings).result).mapError _ = _
    rw [hdecode]
    rfl
  | unparsable text htext failure h =>
    rw [selected_of_holds htext, parse, h]
    rfl
  | ungenerated text htext d hparse cause hcause h =>
    rw [selected_of_parse htext hparse, h]
    rfl

/-- The error for a selector says once that it is about an API. -/
theorem SelectorFault.once {e : Error} (h : SelectorFault read directory settings s e) :
    ∃ name cause, e = .api name cause ∧ cause.isApi = false := by
  cases h with
  | unreadable failure h => exact ⟨_, _, rfl, rfl⟩
  | invalidText bytes hread h => exact ⟨_, _, rfl, rfl⟩
  | unparsable text htext failure h => exact ⟨_, _, rfl, rfl⟩
  | ungenerated text htext d hparse cause hcause h => exact ⟨_, _, rfl, hcause⟩

/-- A selector stands for an API, or there is something wrong with it. -/
theorem selects_or_fault (read : String → Except FileFailure ByteArray) (directory : String)
    (settings : Settings) (s : Selector) :
    (∃ a, Selects read directory settings s a) ∨
      ∃ e, SelectorFault read directory settings s e := by
  cases hread : read (documentPath directory s) with
  | error failure => exact .inr ⟨_, .unreadable failure hread⟩
  | ok bytes =>
    cases htext : String.fromUTF8? bytes with
    | none => exact .inr ⟨_, .invalidText bytes hread htext⟩
    | some text =>
      have hholds : Holds read directory s text := ⟨bytes, hread, htext⟩
      cases hparse : Description.ofText text with
      | error failure => exact .inr ⟨_, .unparsable text hholds failure hparse⟩
      | ok d =>
        cases hgenerate : (d.generate settings).result with
        | ok a => exact .inl ⟨a, text, d, hholds, hparse, hgenerate⟩
        | error e =>
          obtain ⟨cause, hcause, rfl⟩ := error_of_generate hgenerate
          exact .inr ⟨_, .ungenerated text hholds d hparse cause hcause hgenerate⟩

theorem selected_eq_ok {a : Api} :
    selected read directory settings s = .ok a ↔ Selects read directory settings s a := by
  refine ⟨fun h => ?_, Selects.selected_eq⟩
  rcases selects_or_fault read directory settings s with ⟨b, hb⟩ | ⟨e, he⟩
  · cases hb.selected_eq.symm.trans h
    exact hb
  · cases he.selected_eq.symm.trans h

theorem selected_eq_error {e : Error} :
    selected read directory settings s = .error e ↔ SelectorFault read directory settings s e := by
  refine ⟨fun h => ?_, SelectorFault.selected_eq⟩
  rcases selects_or_fault read directory settings s with ⟨a, ha⟩ | ⟨e', he⟩
  · cases ha.selected_eq.symm.trans h
  · cases he.selected_eq.symm.trans h
    exact he

/-- Several selectors, one after the other, stand for APIs if each of them does. -/
theorem mapM_selected_eq_ok {selectors : List Selector} {apis : List Api} :
    selectors.mapM (selected read directory settings) = .ok apis ↔
      List.Forall₂ (Selects read directory settings) selectors apis := by
  induction selectors generalizing apis with
  | nil =>
    rw [List.mapM_nil, List.forall₂_nil_left_iff]
    exact ⟨fun h => (Except.ok.inj h).symm, fun h => h ▸ rfl⟩
  | cons s rest ih =>
    rw [List.mapM_cons, List.forall₂_cons_left_iff, bind_eq_ok]
    constructor
    · rintro ⟨a, ha, h⟩
      obtain ⟨others, hothers, h⟩ := bind_eq_ok.1 h
      cases h
      exact ⟨a, others, selected_eq_ok.1 ha, ih.1 hothers, rfl⟩
    · rintro ⟨a, others, ha, hothers, rfl⟩
      exact ⟨a, ha.selected_eq, bind_eq_ok.2 ⟨others, ih.2 hothers, rfl⟩⟩

/-- They fail at one with which something is wrong. -/
theorem fault_of_mapM_selected {selectors : List Selector} {e : Error}
    (h : selectors.mapM (selected read directory settings) = .error e) :
    ∃ s ∈ selectors, SelectorFault read directory settings s e := by
  induction selectors with
  | nil => cases h
  | cons s rest ih =>
    rw [List.mapM_cons] at h
    rcases bind_eq_error.1 h with hs | ⟨a, -, h⟩
    · exact ⟨s, List.mem_cons_self, selected_eq_error.1 hs⟩
    · rcases bind_eq_error.1 h with hrest | ⟨others, -, h⟩
      · obtain ⟨other, hother, hfault⟩ := ih hrest
        exact ⟨other, List.mem_cons_of_mem _ hother, hfault⟩
      · cases h

/-- Each of them stands for an API. -/
theorem exists_selects {selectors : List Selector} {apis : List Api}
    (h : List.Forall₂ (Selects read directory settings) selectors apis) (hs : s ∈ selectors) :
    ∃ a, Selects read directory settings s a := by
  induction h with
  | nil => cases hs
  | cons ha _ ih =>
    rcases List.mem_cons.1 hs with rfl | hs
    · exact ⟨_, ha⟩
    · exact ih hs

end

section

variable {σ δ : Type} [Files (StateM σ)]

theorem asks_generateSelected (D : Disk σ δ) (directory : String) (settings : Settings)
    (s : Selector) :
    D.Asks (generateSelected directory settings s) fun d =>
      selected (D.read d) directory settings s :=
  ((asks_load _).bind fun d => asks_run (d.generate settings)).adapt _

/-- The first part of a run, which reads and generates, leaves the disk alone. -/
theorem asks_selectors (D : Disk σ δ) (directory : String) (settings : Settings)
    (selectors : List Selector) :
    D.Asks (selectors.mapM (generateSelected directory settings)) fun d =>
      selectors.mapM (selected (D.read d) directory settings) :=
  asks_mapM (asks_generateSelected D directory settings) selectors

end

/-! ## APIs that would share a package -/

/-- An API is refused for one before it that has the same package; the error names them in their
order. -/
theorem collision?_eq_some {before apis : List Api} {e : Error}
    (h : collision? before apis = some e) :
    ∃ first second, [first, second].Sublist (before.reverse ++ apis) ∧
      first.package = second.package ∧
      e = .packageCollision (".".intercalate second.package) first.selector second.selector := by
  induction apis generalizing before with
  | nil => cases h
  | cons a rest ih =>
    rw [collision?] at h
    cases hfind : before.find? (·.package == a.package) with
    | some first =>
      rw [hfind] at h
      cases h
      have hfirst : [first].Sublist before.reverse :=
        List.singleton_sublist.2 (List.mem_reverse.2 (List.mem_of_find?_eq_some hfind))
      have hsecond : [a].Sublist (a :: rest) := List.singleton_sublist.2 List.mem_cons_self
      exact ⟨first, a, hfirst.append hsecond, by simpa using List.find?_some hfind, rfl⟩
    | none =>
      rw [hfind] at h
      obtain ⟨first, second, hsublist, hpair⟩ := ih h
      rw [List.reverse_cons, List.append_assoc] at hsublist
      exact ⟨first, second, hsublist, hpair⟩

/-! ## Writing -/

section

variable {σ α β : Type}

/-- If the computation fails, then at writing. -/
def WriteErrors (x : ExceptT Error (StateM σ) α) : Prop :=
  ∀ s e, (outcome x s).1 = .error e → ∃ path failure, e = .write path failure

theorem writeErrors_pure (a : α) : WriteErrors (pure a : ExceptT Error (StateM σ) α) :=
  fun _ _ h => nomatch h

theorem WriteErrors.bind {x : ExceptT Error (StateM σ) α} {f : α → ExceptT Error (StateM σ) β}
    (hx : WriteErrors x) (hf : ∀ a, WriteErrors (f a)) : WriteErrors (x >>= f) := by
  intro s e h
  rw [outcome_bind] at h
  cases hreached : outcome x s with
  | mk result s' =>
    rw [hreached] at h
    cases result with
    | ok a => exact hf a s' e h
    | error e' =>
      cases h
      exact hx s e (congrArg Prod.fst hreached)

theorem writeErrors_orFail (path : String) (x : StateM σ (Except FileFailure α)) :
    WriteErrors (Files.orFail (.write path) x) := by
  intro s e h
  rw [outcome_orFail] at h
  cases hresult : (x.run s).1 with
  | ok a =>
    rw [hresult] at h
    cases h
  | error failure =>
    rw [hresult] at h
    cases h
    exact ⟨path, failure, rfl⟩

variable [Files (StateM σ)]

theorem writeErrors_note (e : Event) : WriteErrors (Files.note e : ExceptT Error (StateM σ) Unit) :=
  fun _ _ h => nomatch h

theorem writeErrors_ensureParents (path : String) :
    WriteErrors (Files.ensureParents path : ExceptT Error (StateM σ) Unit) := by
  unfold Files.ensureParents
  cases Path.parents path with
  | nil => exact writeErrors_pure ()
  | cons parent above => exact writeErrors_orFail parent _

theorem writeErrors_writeAtomic (path text : String) :
    WriteErrors (Files.writeAtomic path text : ExceptT Error (StateM σ) Unit) :=
  (writeErrors_ensureParents path).bind fun _ =>
    (writeErrors_orFail _ _).bind fun _ => writeErrors_orFail _ _

theorem writeErrors_writeUnits (directory : String) (us : List Source.SourceUnit) :
    WriteErrors (writeUnits directory us : ExceptT Error (StateM σ) _) := by
  induction us with
  | nil => exact writeErrors_pure []
  | cons u rest ih =>
    exact (writeErrors_writeAtomic _ _).bind fun _ => (writeErrors_note _).bind fun _ =>
      ih.bind fun _ => writeErrors_pure _

theorem writeErrors_writeApis (settings : Settings) (apis : List Api) :
    WriteErrors (writeApis settings apis : ExceptT Error (StateM σ) _) := by
  induction apis with
  | nil => exact writeErrors_pure []
  | cons a rest ih =>
    exact (writeErrors_writeUnits _ _).bind fun _ => ih.bind fun _ => writeErrors_pure _

/-- The second part of a run. -/
theorem writeErrors_write (settings : Settings) (apis : List Api) :
    WriteErrors (do
      let written ← writeApis settings apis
      return written ++ (← writeBaseIndex settings apis) : ExceptT Error (StateM σ) _) :=
  (writeErrors_writeApis settings apis).bind fun _ =>
    (writeErrors_writeUnits _ _).bind fun _ => writeErrors_pure _

end

/-! ## What comes of a run -/

section

variable {σ δ : Type} [Files (StateM σ)]

/-- What comes of a run over several APIs that starts in a state: what it gives, and the state that
it ends in. -/
structure AllOrNothing (D : Disk σ δ) (directory : String) (settings : Settings)
    (selectors : List Selector) (start : σ) (reached : Except Error (List String) × σ) : Prop where
  /-- If a selector stands for no API, then the disk is as before. The error is that for a selector
  with which something is wrong, and says so once. -/
  faulty :
    (∃ s ∈ selectors, ¬∃ a, Selects (D.read (D.view start)) directory settings s a) →
      D.view reached.2 = D.view start ∧
      ∃ s ∈ selectors, ∃ name cause, reached.1 = .error (.api name cause) ∧ cause.isApi = false ∧
        SelectorFault (D.read (D.view start)) directory settings s (.api name cause)
  /-- If two of the APIs would share a package, then the disk is as before. The error names two that
  would, in their order. -/
  colliding :
    ∀ apis, List.Forall₂ (Selects (D.read (D.view start)) directory settings) selectors apis →
      (∃ a b, [a, b].Sublist apis ∧ a.package = b.package) →
      D.view reached.2 = D.view start ∧
      ∃ a b, [a, b].Sublist apis ∧ a.package = b.package ∧
        reached.1 = .error (.packageCollision (".".intercalate b.package) a.selector b.selector)
  /-- Otherwise the APIs are written, and an error is one of writing. -/
  writing :
    ∀ apis, List.Forall₂ (Selects (D.read (D.view start)) directory settings) selectors apis →
      apis.Pairwise (fun a b => a.package ≠ b.package) →
      ∀ e, reached.1 = .error e → ∃ path failure, e = .write path failure

variable {D : Disk σ δ} {directory : String} {settings : Settings} {selectors : List Selector}
  {start : σ}

/-- A run ends with the error of a selector, if there is one. -/
theorem outcome_of_selected_error {e : Error}
    (h : selectors.mapM (selected (D.read (D.view start)) directory settings) = .error e) :
    (outcome (generateAll directory selectors settings) start).1 = .error e ∧
      D.view (outcome (generateAll directory selectors settings) start).2 = D.view start := by
  obtain ⟨hresult, hview⟩ := asks_selectors D directory settings selectors start
  have hresult : _ = Except.error e := hresult.trans h
  unfold generateAll
  rw [outcome_bind]
  generalize outcome (selectors.mapM _) start = reached at hresult hview
  obtain ⟨result, s'⟩ := reached
  cases hresult
  exact ⟨rfl, hview⟩

/-- A run that has generated its APIs refuses or writes them. -/
theorem outcome_of_selected {apis : List Api}
    (h : selectors.mapM (selected (D.read (D.view start)) directory settings) = .ok apis) :
    ∃ s', D.view s' = D.view start ∧
      outcome (generateAll directory selectors settings) start =
        match collision? [] apis with
        | some e => (.error e, s')
        | none => outcome (do
            let written ← writeApis settings apis
            return written ++ (← writeBaseIndex settings apis)) s' := by
  obtain ⟨hresult, hview⟩ := asks_selectors D directory settings selectors start
  have hresult : _ = Except.ok apis := hresult.trans h
  unfold generateAll
  rw [outcome_bind]
  generalize outcome (selectors.mapM _) start = reached at hresult hview
  obtain ⟨result, s'⟩ := reached
  cases hresult
  refine ⟨s', hview, ?_⟩
  dsimp only
  cases collision? [] apis with
  | some e => rfl
  | none => rfl

end

/-- **A run that is refused leaves the disk as it was.** -/
theorem all_or_nothing {σ δ : Type} [Files (StateM σ)] (D : Disk σ δ) (directory : String)
    (selectors : List Selector) (settings : Settings) (start : σ) :
    AllOrNothing D directory settings selectors start
      (outcome (generateAll directory selectors settings) start) where
  faulty := by
    rintro ⟨s, hs, hnone⟩
    cases hselected : selectors.mapM (selected (D.read (D.view start)) directory settings) with
    | ok apis =>
      exact absurd (exists_selects (mapM_selected_eq_ok.1 hselected) hs) hnone
    | error e =>
      obtain ⟨herror, hview⟩ := outcome_of_selected_error hselected
      obtain ⟨other, hother, hfault⟩ := fault_of_mapM_selected hselected
      obtain ⟨name, cause, rfl, hcause⟩ := hfault.once
      exact ⟨hview, other, hother, name, cause, herror, hcause, hfault⟩
  colliding := by
    rintro apis hapis ⟨a, b, hsublist, hpackage⟩
    obtain ⟨s', hview, hreached⟩ := outcome_of_selected (mapM_selected_eq_ok.2 hapis)
    cases hcollision : collision? [] apis with
    | none =>
      have hpairwise := (Source.collision?_eq_none.1 hcollision).2
      exact absurd hpackage (List.pairwise_pair.1 (hpairwise.sublist hsublist))
    | some e =>
      rw [hcollision] at hreached
      obtain ⟨first, second, hfound, hshared, rfl⟩ := collision?_eq_some hcollision
      rw [hreached]
      exact ⟨hview, first, second, hfound, hshared, rfl⟩
  writing := by
    intro apis hapis hpairwise e he
    obtain ⟨s', -, hreached⟩ := outcome_of_selected (mapM_selected_eq_ok.2 hapis)
    have hcollision : collision? [] apis = none :=
      Source.collision?_eq_none.2 ⟨fun _ _ _ hb => (List.not_mem_nil hb).elim, hpairwise⟩
    rw [hcollision] at hreached
    rw [hreached] at he
    exact writeErrors_write settings apis s' e he

/-- The documents of two versions of an API. -/
def versions : Workspace where
  root := .directory
    [("books.v1.json", .file "\x7b\"name\": \"books\", \"version\": \"v1\"\x7d".toUTF8),
      ("books.v2.json", .file "\x7b\"name\": \"books\", \"version\": \"v2\"\x7d".toUTF8)]

theorem selects_versions :
    ∀ version ∈ ["v1", "v2"], ∃ a, Selects versions.root.readFile "/" {} ⟨"books", version⟩ a ∧
      a.package = ["generated", "books"] ∧ a.selector = "books:" ++ version := by
  have hselected : ∀ version ∈ ["v1", "v2"],
      (selected versions.root.readFile "/" {} ⟨"books", version⟩).toOption.any (fun a =>
        a.package == ["generated", "books"] && a.selector == "books:" ++ version) = true := by
    decide +kernel
  intro version hversion
  have hany := hselected version hversion
  cases hresult : selected versions.root.readFile "/" {} ⟨"books", version⟩ with
  | error e =>
    rw [hresult] at hany
    cases hany
  | ok a =>
    rw [hresult] at hany
    have hnames : (a.package == ["generated", "books"] && a.selector == "books:" ++ version) =
        true := hany
    exact ⟨a, selected_eq_ok.1 hresult, by simpa using hnames⟩

/-- Two versions of an API share a package. -/
theorem all_or_nothing_versions :
    ∃ reached, outcome (generateAll "/" [⟨"books", "v1"⟩, ⟨"books", "v2"⟩] {}) versions = reached ∧
      reached.1 = .error (.packageCollision "generated.books" "books:v1" "books:v2") ∧
      reached.2.root = versions.root := by
  obtain ⟨a, ha, hpackage, hselector⟩ := selects_versions "v1" (by simp)
  obtain ⟨b, hb, hpackage', hselector'⟩ := selects_versions "v2" (by simp)
  obtain ⟨hroot, first, second, hsublist, -, herror⟩ :=
    (all_or_nothing OnTree.disk "/" [⟨"books", "v1"⟩, ⟨"books", "v2"⟩] {} versions).colliding
      [a, b] (.cons ha (.cons hb .nil)) ⟨a, b, .refl _, hpackage.trans hpackage'.symm⟩
  cases hsublist.eq_of_length rfl
  rw [hpackage', hselector, hselector'] at herror
  exact ⟨_, rfl, herror, hroot⟩

end Batch

end ClientGen
