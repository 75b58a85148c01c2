import ClientGen.Proofs.Component.Growth

/-!
# Using a stack with its handles

A handle only knows how many components were open with it, and the same number comes again after
every close. This module follows a stack through arbitrary calls, in any order: components are
opened, the current class and constructor are edited, and handles are used, each of them at most
once. A `Ledger` keeps the books by identity: which components are open, as which they were opened,
and what was done in each of them.

* `Session.run` — the stack, the handles that are left and the ledger after a list of commands.
* `Sound`, `sound_run` — the stack is the one in the books, and every handle that is left counts the
  components from its own one down.
* `closings_after` — what came of a handle is not forgotten.
* `handles_close_their_own` — what closing and finishing do, in terms of the ledger.
-/

namespace ClientGen.Component

/-! ## The books -/

/-- Something done in a class while it is the innermost one. -/
inductive Edit
  | type (f : Class → Class)
  | init (f : Constructor → Constructor)
  /-- A component that was opened in it is closed. -/
  | nest (d : Draft)

namespace Edit

/-- The class after the edit. -/
def onType : Edit → Class → Class
  | .type f, c => f c
  | .init _, c => c
  | .nest d, c => d.nestIn c

/-- The constructor after the edit. -/
def onInit : Edit → Constructor → Constructor
  | .init f, i => f i
  | .type _, i | .nest _, i => i

/-- The stack after the edit. -/
def onStack : Edit → Stack → Stack
  | .type f, s => s.modifyCurrent f
  | .init f, s => s.modifyConstructor f
  | .nest d, s => s.modifyCurrent d.nestIn

/-- The class after one edit and then the next. -/
def allOnType (edits : List Edit) (c : Class) : Class :=
  edits.foldl (fun c e => e.onType c) c

/-- The constructor after one edit and then the next. -/
def allOnInit (edits : List Edit) (i : Constructor) : Constructor :=
  edits.foldl (fun i e => e.onInit i) i

@[simp] theorem allOnType_concat (edits : List Edit) (e : Edit) (c : Class) :
    allOnType (edits ++ [e]) c = e.onType (allOnType edits c) := by
  simp [allOnType]

@[simp] theorem allOnInit_concat (edits : List Edit) (e : Edit) (i : Constructor) :
    allOnInit (edits ++ [e]) i = e.onInit (allOnInit edits i) := by
  simp [allOnInit]

end Edit

/-- An open component: the how manieth one it is, the name and description that it was opened with,
and what was done in it since. -/
structure Opening where
  number : Nat
  name : QualifiedName
  spec : Spec
  edits : List Edit := []

/-- The component as it is now: as it was opened, with its edits. -/
def Opening.draft (o : Opening) : Draft where
  spec := o.spec
  type := Edit.allOnType o.edits (Draft.new o.name o.spec).type
  init := Edit.allOnInit o.edits (Draft.new o.name o.spec).init

namespace Opening

variable (o : Opening)

/-- The fields that the component gets when it is closed: a key field for each required parameter,
and a field that is no key for the body. -/
def paramFields : List Field :=
  (o.spec.required.map fun p =>
      { identifier := p.identifier, type := p.type, required := true, key := true }) ++
    o.spec.body.toList.map fun p =>
      { identifier := p.identifier, type := p.type, required := true, key := false }

/-- The component once it is closed: the class that was opened, with its edits, then the fields for
the parameters, and a constructor that after its own steps asks for each of these fields. -/
def finished : Class :=
  let type := Edit.allOnType o.edits { name := o.name, kind := .component }
  let init := Edit.allOnInit o.edits
    { name := "new", params := o.spec.required ++ o.spec.body.toList }
  { type with
    fields := type.fields ++ o.paramFields
    constructors := type.constructors ++
      [{ init with
        body := init.body ++ o.paramFields.map fun f =>
          .require f.identifier
            s!"Required parameter {f.identifier.name} must be specified." }] }

/-- The factory method that the class below gets for the component. -/
def factory : Factory where
  identifier := o.spec.identifier
  params := o.spec.required ++ o.spec.body.toList
  returns := o.finished.name
  documentation := o.spec.documentation.map escapeDoc

/-- Closing the component adds its class and its factory method to the class below, and no more. -/
theorem nestIn_draft : o.draft.nestIn = fun parent =>
    { parent with
      nested := parent.nested ++ [.ofClass o.finished]
      factories := parent.factories ++ [o.factory] } := by
  have hfields : o.draft.paramFields = o.paramFields := rfl
  have hbody : o.spec.params.map requirement = o.paramFields.map fun f =>
      .require f.identifier s!"Required parameter {f.identifier.name} must be specified." := by
    rw [Spec.params, paramFields, List.map_append, List.map_append, List.map_map, List.map_map]
    rfl
  have hfinish : o.draft.finish = o.finished := by
    rw [Draft.finish, hfields, show o.draft.spec.params = o.spec.params from rfl, hbody]
    rfl
  have hfactory : o.draft.factory = o.factory := rfl
  funext parent
  rw [Draft.nestIn, hfinish, hfactory]

end Opening

/-- The books on a stack. -/
structure Ledger where
  /-- The root class at the start, and what was done in it since. -/
  root : Class
  edits : List Edit := []
  /-- The components that are open, innermost first. -/
  openings : List Opening := []
  /-- How many components were opened so far. -/
  count : Nat := 0

namespace Ledger

variable (l : Ledger)

/-- The numbers of the open components, innermost first. -/
def numbers : List Nat :=
  l.openings.map (·.number)

/-- Who is open, innermost first: the number and the name of each. -/
def labels : List (Nat × QualifiedName) :=
  l.openings.map fun o => (o.number, o.name)

/-- The root class as it is now. -/
def rootNow : Class :=
  Edit.allOnType l.edits l.root

/-- The stack that is in the books. -/
def stack : Stack where
  root := l.rootNow
  drafts := l.openings.map (·.draft)

/-- Notes what is done in the innermost class. -/
def edit (e : Edit) : Ledger :=
  match l.openings with
  | [] => { l with edits := l.edits ++ [e] }
  | o :: below => { l with openings := { o with edits := o.edits ++ [e] } :: below }

/-- Notes a component that is opened. -/
def openChild (spec : Spec) : Ledger :=
  { l with
    openings := ⟨l.count, l.stack.childName spec.identifier, spec, []⟩ :: l.openings
    count := l.count + 1 }

/-- Notes that the component with the given number is closed, if it is the innermost one. -/
def close (number : Nat) : Ledger :=
  match l.openings with
  | [] => l
  | o :: below => if o.number = number then { l with openings := below }.edit (.nest o.draft) else l

/-! ### The stack in the books -/

@[simp] theorem count_edit (e : Edit) : (l.edit e).count = l.count := by
  unfold edit
  split <;> rfl

/-- Who is open is not a matter of edits. -/
@[simp] theorem labels_edit (e : Edit) : (l.edit e).labels = l.labels := by
  unfold edit
  split
  · rfl
  · rename_i h
    simp [labels, h]

theorem numbers_eq : l.numbers = l.labels.map Prod.fst := by
  simp [numbers, labels]

@[simp] theorem numbers_edit (e : Edit) : (l.edit e).numbers = l.numbers := by
  rw [numbers_eq, labels_edit, ← numbers_eq]

/-- An edit in the books is the edit on the stack. -/
theorem stack_edit (e : Edit) : (l.edit e).stack = e.onStack l.stack := by
  obtain ⟨root, edits, openings, count⟩ := l
  cases openings with
  | nil =>
    cases e <;>
      simp [edit, stack, rootNow, Edit.onStack, Stack.modifyCurrent, Stack.modifyConstructor,
        Edit.onType]
  | cons o below =>
    cases e <;>
      simp [edit, stack, rootNow, Edit.onStack, Stack.modifyCurrent, Stack.modifyConstructor,
        Opening.draft, Edit.onType, Edit.onInit]

theorem stack_openChild (spec : Spec) :
    (l.openChild spec).stack = (l.stack.openChild spec).1 := rfl

theorem labels_openChild (spec : Spec) :
    (l.openChild spec).labels = (l.count, l.stack.childName spec.identifier) :: l.labels := rfl

theorem depth_stack : l.stack.depth = l.openings.length := by
  simp [Stack.depth, stack]

end Ledger

/-! ## Sessions -/

/-- A call on a stack. -/
inductive Command
  | openChild (spec : Spec)
  /-- The current class is edited. -/
  | editType (f : Class → Class)
  /-- The constructor of the innermost component is edited. -/
  | editInit (f : Constructor → Constructor)
  /-- The handle is used that the component with this number was opened with. -/
  | close (number : Nat)

/-- A stack in use. -/
structure Session where
  stack : Stack
  /-- The handles that are not yet used, each with the number of its component. -/
  handles : List (Nat × Handle) := []
  /-- The handles that were used, by number, and what came of it. -/
  closings : List (Nat × Except Error Unit) := []
  ledger : Ledger

namespace Session

/-- The session after one more call. A handle that is used up, or that there never was, cannot be
used: nothing happens. -/
def step (s : Session) : Command → Session
  | .openChild spec =>
    let (opened, handle) := s.stack.openChild spec
    { s with
      stack := opened
      handles := (s.ledger.count, handle) :: s.handles
      ledger := s.ledger.openChild spec }
  | .editType f =>
    { s with stack := s.stack.modifyCurrent f, ledger := s.ledger.edit (.type f) }
  | .editInit f =>
    { s with stack := s.stack.modifyConstructor f, ledger := s.ledger.edit (.init f) }
  | .close number =>
    match s.handles.lookup number with
    | none => s
    | some handle =>
      let done := Work.close handle s.stack
      { s with
        stack := done.stack
        handles := s.handles.filter (·.1 ≠ number)
        closings := s.closings ++ [(number, done.result)]
        ledger := s.ledger.close number }

/-- The session after more calls. -/
def after (s : Session) (commands : List Command) : Session :=
  commands.foldl step s

/-- A session that begins with a root class and no components. -/
def start (root : Class) : Session where
  stack := { root }
  ledger := { root }

/-- The session after a list of calls on a new stack. -/
def run (root : Class) (commands : List Command) : Session :=
  (start root).after commands

/-! ## What holds after every call -/

/-- The session agrees with its books. -/
structure Sound (s : Session) : Prop where
  stack_eq : s.stack = s.ledger.stack
  /-- A handle that is left counts the components from its own one down. Depths come again after a
  close, numbers do not: this is what ties the two together. -/
  handles_own : ∀ n h, (n, h) ∈ s.handles → ∃ above below,
    s.ledger.labels = above ++ (n, h.name) :: below ∧ h.depth = below.length + 1
  numbers_sorted : s.ledger.numbers.Pairwise (· > ·)
  numbers_lt : ∀ n ∈ s.ledger.numbers, n < s.ledger.count
  closings_lt : ∀ n result, (n, result) ∈ s.closings → n < s.ledger.count
  /-- Open are those that were opened and not yet closed with their own handle. -/
  mem_numbers_iff : ∀ n < s.ledger.count, n ∈ s.ledger.numbers ↔ (n, .ok ()) ∉ s.closings
  /-- The handle of a component that once refused to close is gone, and the component is open. -/
  refused_open : ∀ n e, (n, .error e) ∈ s.closings →
    n ∈ s.ledger.numbers ∧ ∀ h, (n, h) ∉ s.handles

variable {s : Session}

theorem sound_start (root : Class) : (start root).Sound where
  stack_eq := rfl
  handles_own := by simp [start]
  numbers_sorted := by simp [start, Ledger.numbers]
  numbers_lt := by simp [start, Ledger.numbers]
  closings_lt := by simp [start]
  mem_numbers_iff := by simp [start]
  refused_open := by simp [start]

theorem Sound.openChild (hs : s.Sound) (spec : Spec) : (s.step (.openChild spec)).Sound := by
  have hnumbers : (s.ledger.openChild spec).numbers = s.ledger.count :: s.ledger.numbers := rfl
  have hcount : (s.ledger.openChild spec).count = s.ledger.count + 1 := rfl
  constructor
  case stack_eq =>
    show (s.stack.openChild spec).1 = (s.ledger.openChild spec).stack
    rw [Ledger.stack_openChild, hs.stack_eq]
  case handles_own =>
    intro n h hmem
    obtain hnew | hold := List.mem_cons.mp hmem
    · cases hnew
      refine ⟨[], s.ledger.labels, ?_, ?_⟩
      · show (s.ledger.openChild spec).labels = _
        rw [Ledger.labels_openChild, ← hs.stack_eq]
        rfl
      · show s.stack.depth + 1 = _
        rw [hs.stack_eq, Ledger.depth_stack, Ledger.labels, List.length_map]
    · obtain ⟨above, below, hlabels, hdepth⟩ := hs.handles_own n h hold
      refine ⟨(s.ledger.count, s.ledger.stack.childName spec.identifier) :: above, below, ?_,
        hdepth⟩
      show (s.ledger.openChild spec).labels = _
      rw [Ledger.labels_openChild, hlabels, List.cons_append]
  case numbers_sorted =>
    show (s.ledger.openChild spec).numbers.Pairwise _
    rw [hnumbers]
    exact List.pairwise_cons.mpr ⟨hs.numbers_lt, hs.numbers_sorted⟩
  case numbers_lt =>
    intro n hn
    obtain rfl | hn := List.mem_cons.mp hn
    · exact Nat.lt_succ_self _
    · exact Nat.lt_succ_of_lt (hs.numbers_lt n hn)
  case closings_lt =>
    intro n result hmem
    exact Nat.lt_succ_of_lt (hs.closings_lt n result hmem)
  case mem_numbers_iff =>
    intro n hn
    show n ∈ (s.ledger.openChild spec).numbers ↔ (n, .ok ()) ∉ s.closings
    rw [hnumbers, List.mem_cons]
    by_cases hnew : n = s.ledger.count
    · have hunused : (n, .ok ()) ∉ s.closings := fun hmem => by
        have := hs.closings_lt n _ hmem
        omega
      simp [hnew ▸ hunused, hnew]
    · have hlt : n < s.ledger.count := by
        have : n < s.ledger.count + 1 := hn
        omega
      rw [← hs.mem_numbers_iff n hlt]
      simp [hnew]
  case refused_open =>
    intro n e hmem
    obtain ⟨hopen, hgone⟩ := hs.refused_open n e hmem
    refine ⟨List.mem_cons_of_mem _ hopen, fun h hh => ?_⟩
    obtain hnew | hold := List.mem_cons.mp hh
    · have := hs.numbers_lt n hopen
      cases hnew
      omega
    · exact hgone h hold

/-- An edit is not noticed by the handles, as nobody is opened or closed. -/
theorem Sound.edit (hs : s.Sound) {stack : Stack} {e : Edit}
    (hstack : stack = (s.ledger.edit e).stack) :
    Sound { s with stack, ledger := s.ledger.edit e } where
  stack_eq := hstack
  handles_own := by simpa using hs.handles_own
  numbers_sorted := by simpa using hs.numbers_sorted
  numbers_lt := by simpa using hs.numbers_lt
  closings_lt := by simpa using hs.closings_lt
  mem_numbers_iff := by simpa using hs.mem_numbers_iff
  refused_open := by simpa using hs.refused_open

/-! ### Using a handle -/

theorem mem_handles_of_lookup {handles : List (Nat × Handle)} {n : Nat} {h : Handle}
    (hlookup : handles.lookup n = some h) : (n, h) ∈ handles := by
  obtain ⟨l₁, l₂, rfl, _⟩ := List.lookup_eq_some_iff.mp hlookup
  simp

/-- A handle that is left belongs to one of the open components, and to no other. -/
theorem Sound.opening_of_handle (hs : s.Sound) {n : Nat} {h : Handle} (hmem : (n, h) ∈ s.handles) :
    ∃ above o below, s.ledger.openings = above ++ o :: below ∧ o.number = n ∧
      (∀ a ∈ above, n < a.number) ∧ h = ⟨below.length + 1, o.name⟩ := by
  obtain ⟨later, earlier, hlabels, hdepth⟩ := hs.handles_own n h hmem
  obtain ⟨above, rest, hsplit, rfl, hrest⟩ := List.map_eq_append_iff.mp hlabels
  obtain ⟨o, below, rfl, ho, rfl⟩ := List.map_eq_cons_iff.mp hrest
  have hnumber : o.number = n := congrArg Prod.fst ho
  have hname : o.name = h.name := congrArg Prod.snd ho
  refine ⟨above, o, below, hsplit, hnumber, fun a ha => ?_, ?_⟩
  · have hsorted := hs.numbers_sorted
    rw [Ledger.numbers, hsplit, List.map_append, List.pairwise_append] at hsorted
    have hgt := hsorted.2.2 a.number (List.mem_map_of_mem ha) o.number (by simp)
    omega
  · obtain ⟨depth, name⟩ := h
    simp_all

/-- With the handle of the innermost component, it is taken off and nested in the class below. -/
theorem close_innermost {l : Ledger} {o : Opening} {below : List Opening}
    (h : l.openings = o :: below) :
    Work.close ⟨below.length + 1, o.name⟩ l.stack =
      ⟨[.closing o.name], { l with openings := below : Ledger }.stack.modifyCurrent o.draft.nestIn,
        .ok ()⟩ := by
  have hstack : l.stack = { l with openings := below : Ledger }.stack.push o.draft := by
    simp [Ledger.stack, Ledger.rootNow, Stack.push, h]
  have hclose := Stack.close_push { l with openings := below : Ledger }.stack o.draft o.name
  rw [Ledger.depth_stack] at hclose
  rw [Work.close, hstack, hclose]

/-- With the handle of a component that others were opened above, nothing happens. -/
theorem close_covered {l : Ledger} {a o : Opening} {above below : List Opening}
    (h : l.openings = a :: above ++ o :: below) :
    Work.close ⟨below.length + 1, o.name⟩ l.stack =
      ⟨[], l.stack, .error (.handleOutOfOrder o.name.dotted (above.length + 1))⟩ := by
  have hdepth : l.stack.depth = (above.length + 1) + (below.length + 1) := by
    rw [Ledger.depth_stack, h, List.length_append, List.length_cons, List.length_cons]
  have hdrafts : l.stack.drafts = a.draft :: (above ++ o :: below).map (·.draft) := by
    simp [Ledger.stack, h]
  have hother : ¬ below.length + 1 = l.stack.depth := by omega
  have hcount : l.stack.depth - (below.length + 1) = above.length + 1 := by omega
  have hclose : l.stack.close ⟨below.length + 1, o.name⟩ =
      .error (.handleOutOfOrder o.name.dotted (above.length + 1)) := by
    unfold Stack.close
    rw [hdrafts]
    simp only [if_neg hother, hcount]
  rw [Work.close, hclose]

/-- A handle that is no longer there cannot be used. -/
theorem step_close_none {n : Nat} (h : s.handles.lookup n = none) : s.step (.close n) = s := by
  simp [step, h]

/-- What using the handle of the innermost component makes of the session. -/
theorem step_close_innermost {n : Nat} {h : Handle} {o : Opening} {below : List Opening}
    (hstack : s.stack = s.ledger.stack) (hlookup : s.handles.lookup n = some h)
    (hopenings : s.ledger.openings = o :: below) (hnumber : o.number = n)
    (hhandle : h = ⟨below.length + 1, o.name⟩) :
    s.step (.close n) =
      { stack := ({ s.ledger with openings := below : Ledger }.edit (.nest o.draft)).stack
        handles := s.handles.filter (·.1 ≠ n)
        closings := s.closings ++ [(n, .ok ())]
        ledger := { s.ledger with openings := below : Ledger }.edit (.nest o.draft) } := by
  have hledger : s.ledger.close n =
      { s.ledger with openings := below : Ledger }.edit (.nest o.draft) := by
    simp [Ledger.close, hopenings, hnumber]
  simp only [step, hlookup, hhandle, hstack, close_innermost hopenings, hledger,
    Ledger.stack_edit, Edit.onStack]

/-- What using the handle of another component makes of the session. -/
theorem step_close_covered {n : Nat} {h : Handle} {a o : Opening} {above below : List Opening}
    (hstack : s.stack = s.ledger.stack) (hlookup : s.handles.lookup n = some h)
    (hopenings : s.ledger.openings = a :: above ++ o :: below) (hnumber : a.number ≠ n)
    (hhandle : h = ⟨below.length + 1, o.name⟩) :
    s.step (.close n) =
      { s with
        handles := s.handles.filter (·.1 ≠ n)
        closings := s.closings ++
          [(n, .error (.handleOutOfOrder o.name.dotted (above.length + 1)))] } := by
  have hledger : s.ledger.close n = s.ledger := by
    simp [Ledger.close, hopenings, hnumber]
  simp only [step, hlookup, hhandle, hstack, close_covered hopenings, hledger]

theorem mem_filter_handles {handles : List (Nat × Handle)} {n m : Nat} {h : Handle} :
    (m, h) ∈ handles.filter (·.1 ≠ n) ↔ (m, h) ∈ handles ∧ m ≠ n := by
  simp

/-- The component whose handle is used is taken out of the books: whoever is left was open below it.
-/
theorem Sound.popped (hs : s.Sound) {o : Opening} {below : List Opening} {handle : Handle}
    (hopenings : s.ledger.openings = o :: below) (hmem : (o.number, handle) ∈ s.handles) :
    Sound
      { stack := ({ s.ledger with openings := below : Ledger }.edit (.nest o.draft)).stack
        handles := s.handles.filter (·.1 ≠ o.number)
        closings := s.closings ++ [(o.number, .ok ())]
        ledger := { s.ledger with openings := below : Ledger }.edit (.nest o.draft) } := by
  have hnumbers : s.ledger.numbers = o.number :: below.map (·.number) := by
    simp [Ledger.numbers, hopenings]
  have hlabels : s.ledger.labels =
      (o.number, o.name) :: { s.ledger with openings := below : Ledger }.labels := by
    simp [Ledger.labels, hopenings]
  have hsorted := hs.numbers_sorted
  rw [hnumbers, List.pairwise_cons] at hsorted
  have hcount : o.number < s.ledger.count := hs.numbers_lt _ (by simp [hnumbers])
  have hothers : ∀ n ≠ o.number, n ∈ s.ledger.numbers ↔ n ∈ below.map (·.number) := by
    intro n hn
    simp [hnumbers, hn]
  constructor
  case stack_eq => rfl
  case handles_own =>
    intro n h hmem
    obtain ⟨hmem, hn⟩ := mem_filter_handles.mp hmem
    obtain ⟨later, earlier, hsplit, hdepth⟩ := hs.handles_own n h hmem
    rw [hlabels] at hsplit
    cases later with
    | nil => exact absurd (congrArg Prod.fst (List.cons.inj hsplit).1).symm hn
    | cons a later =>
      refine ⟨later, earlier, ?_, hdepth⟩
      rw [Ledger.labels_edit]
      exact (List.cons.inj hsplit).2
  case numbers_sorted =>
    rw [Ledger.numbers_edit]
    exact hsorted.2
  case numbers_lt =>
    intro n hn
    rw [Ledger.numbers_edit] at hn
    rw [Ledger.count_edit]
    exact hs.numbers_lt n (hnumbers ▸ List.mem_cons_of_mem _ hn)
  case closings_lt =>
    intro n result hmem
    rw [Ledger.count_edit]
    obtain hold | hnew := List.mem_append.mp hmem
    · exact hs.closings_lt n result hold
    · cases List.mem_singleton.mp hnew
      exact hcount
  case mem_numbers_iff =>
    intro n hn
    rw [Ledger.count_edit] at hn
    rw [Ledger.numbers_edit]
    show n ∈ below.map (·.number) ↔ _
    by_cases hclosed : n = o.number
    · have hgone : o.number ∉ below.map (·.number) := fun h => by
        have := hsorted.1 o.number h
        omega
      simp [hclosed, hgone]
    · rw [← hothers n hclosed, hs.mem_numbers_iff n hn]
      simp [hclosed]
  case refused_open =>
    intro n e herror
    have hold : (n, .error e) ∈ s.closings := by simpa using herror
    obtain ⟨hopen, hgone⟩ := hs.refused_open n e hold
    have hn : n ≠ o.number := fun h => hgone handle (h ▸ hmem)
    refine ⟨?_, fun h hh => hgone h (mem_filter_handles.mp hh).1⟩
    rw [Ledger.numbers_edit]
    exact (hothers n hn).mp hopen

theorem Sound.refused (hs : s.Sound) {n : Nat} (hopen : n ∈ s.ledger.numbers) (e : Error) :
    Sound
      { s with
        handles := s.handles.filter (·.1 ≠ n)
        closings := s.closings ++ [(n, .error e)] } where
  stack_eq := hs.stack_eq
  handles_own m h hmem := hs.handles_own m h (mem_filter_handles.mp hmem).1
  numbers_sorted := hs.numbers_sorted
  numbers_lt := hs.numbers_lt
  closings_lt := by
    intro m result hmem
    obtain hold | hnew := List.mem_append.mp hmem
    · exact hs.closings_lt m result hold
    · cases List.mem_singleton.mp hnew
      exact hs.numbers_lt n hopen
  mem_numbers_iff := by simpa using hs.mem_numbers_iff
  refused_open := by
    intro m e' hmem
    obtain hold | hnew := List.mem_append.mp hmem
    · obtain ⟨hm, hgone⟩ := hs.refused_open m e' hold
      exact ⟨hm, fun h hh => hgone h (mem_filter_handles.mp hh).1⟩
    · cases List.mem_singleton.mp hnew
      exact ⟨hopen, fun h hh => (mem_filter_handles.mp hh).2 rfl⟩

theorem Sound.close (hs : s.Sound) (n : Nat) : (s.step (.close n)).Sound := by
  cases hlookup : s.handles.lookup n with
  | none => rwa [step_close_none hlookup]
  | some h =>
    have hmem := mem_handles_of_lookup hlookup
    obtain ⟨above, o, below, hopenings, rfl, habove, hhandle⟩ := hs.opening_of_handle hmem
    cases above with
    | nil =>
      rw [step_close_innermost hs.stack_eq hlookup hopenings rfl hhandle]
      exact hs.popped hopenings hmem
    | cons a above =>
      have hother : a.number ≠ o.number := Nat.ne_of_gt (habove a (by simp))
      have hopen : o.number ∈ s.ledger.numbers := by simp [Ledger.numbers, hopenings]
      rw [step_close_covered hs.stack_eq hlookup hopenings hother hhandle]
      exact hs.refused hopen _

theorem Sound.step (hs : s.Sound) (command : Command) : (s.step command).Sound := by
  cases command with
  | openChild spec => exact hs.openChild spec
  | editType f => exact hs.edit (by rw [hs.stack_eq, Ledger.stack_edit, Edit.onStack])
  | editInit f => exact hs.edit (by rw [hs.stack_eq, Ledger.stack_edit, Edit.onStack])
  | close n => exact hs.close n

theorem Sound.after (hs : s.Sound) (commands : List Command) : (s.after commands).Sound := by
  induction commands generalizing s with
  | nil => exact hs
  | cons command rest ih => exact ih (hs.step command)

theorem sound_run (root : Class) (commands : List Command) : (run root commands).Sound :=
  (sound_start root).after commands

/-! ## A refusal cannot be made good -/

/-- What came of a handle is not forgotten. -/
theorem closings_step {p : Nat × Except Error Unit} (hmem : p ∈ s.closings) (command : Command) :
    p ∈ (s.step command).closings := by
  cases command with
  | openChild spec => exact hmem
  | editType f => exact hmem
  | editInit f => exact hmem
  | close n =>
    cases hlookup : s.handles.lookup n with
    | none => rwa [step_close_none hlookup]
    | some h => simp [Session.step, hlookup, hmem]

theorem closings_after {p : Nat × Except Error Unit} (hmem : p ∈ s.closings)
    (commands : List Command) : p ∈ (s.after commands).closings := by
  induction commands generalizing s with
  | nil => exact hmem
  | cons command rest ih => exact ih (closings_step hmem command)

theorem Sound.openings_eq_nil_iff (hs : s.Sound) :
    s.ledger.openings = [] ↔ ∀ n < s.ledger.count, (n, .ok ()) ∈ s.closings := by
  have hnumbers : s.ledger.openings = [] ↔ s.ledger.numbers = [] := by simp [Ledger.numbers]
  rw [hnumbers, List.eq_nil_iff_forall_not_mem]
  constructor
  · intro hnone n hn
    have hgone := mt (hs.mem_numbers_iff n hn).mpr (hnone n)
    exact Classical.not_not.mp hgone
  · intro hall n hn
    have hlt := hs.numbers_lt n hn
    exact (hs.mem_numbers_iff n hlt).mp hn (hall n hlt)

/-- The stack gives its root class once nothing is open, and tells else how many are. -/
theorem Sound.finish_eq (hs : s.Sound) :
    s.stack.finish =
      if s.ledger.openings = [] then .ok s.ledger.rootNow
      else .error (.unclosedHandles s.ledger.openings.length) := by
  rw [hs.stack_eq, Stack.finish, Ledger.depth_stack]
  simp [Ledger.stack]

/-! ## Each handle and its component -/

/-- Each handle that is left does for its own component what a handle is for. -/
structure Kept (s : Session) : Prop where
  /-- The stack is made of the components that are open, each with its own edits. -/
  stack_eq : s.stack = s.ledger.stack
  numbers_nodup : s.ledger.numbers.Nodup
  /-- The component of a handle is open. If it is the innermost one, then the handle closes it, and
  it is the class below that gets the finished class and a factory method. If others were opened
  above it and are open, the error counts them, and nothing happens. -/
  close_eq : ∀ n h, (n, h) ∈ s.handles → ∃ above o below,
    s.ledger.openings = above ++ o :: below ∧ o.number = n ∧
      (above = [] → Work.close h s.stack =
        ⟨[.closing o.name],
          { s.stack with drafts := s.stack.drafts.tail }.modifyCurrent fun parent =>
            { parent with
              nested := parent.nested ++ [DeclarationOf.ofClass o.finished]
              factories := parent.factories ++ [o.factory] },
          .ok ()⟩) ∧
      (above ≠ [] → Work.close h s.stack =
        ⟨[], s.stack, .error (.handleOutOfOrder o.name.dotted above.length)⟩)
  /-- The root class is there once each component was closed with its own handle. -/
  finish_iff : ∀ c, s.stack.finish = .ok c ↔
    c = s.ledger.rootNow ∧ ∀ n < s.ledger.count, (n, .ok ()) ∈ s.closings
  /-- After a refusal the root class is out of reach, whatever is called. -/
  finish_after_refusal : ∀ n e, (n, .error e) ∈ s.closings → ∀ more,
    ∃ k, (s.after more).stack.finish = .error (.unclosedHandles k)

/-- In every use of a stack, whatever the order of the calls, each handle closes the component that
it was handed out for, or nothing. -/
theorem handles_close_their_own (root : Class) (commands : List Command) :
    (run root commands).Kept := by
  have hs := sound_run root commands
  generalize run root commands = s at hs
  constructor
  case stack_eq => exact hs.stack_eq
  case numbers_nodup =>
    exact hs.numbers_sorted.imp fun h => Nat.ne_of_gt h
  case close_eq =>
    intro n h hmem
    obtain ⟨above, o, below, hopenings, hnumber, -, rfl⟩ := hs.opening_of_handle hmem
    refine ⟨above, o, below, hopenings, hnumber, ?_, ?_⟩
    · rintro rfl
      rw [hs.stack_eq, close_innermost hopenings, Opening.nestIn_draft]
      simp [Ledger.stack, Ledger.rootNow, hopenings]
    · intro habove
      obtain ⟨a, above, rfl⟩ := List.exists_cons_of_ne_nil habove
      rw [hs.stack_eq, close_covered hopenings, List.length_cons]
  case finish_iff =>
    intro c
    rw [hs.finish_eq, ← hs.openings_eq_nil_iff]
    by_cases hnone : s.ledger.openings = []
    · simp [hnone, eq_comm]
    · simp [hnone]
  case finish_after_refusal =>
    intro n e hrefused more
    have hafter := hs.after more
    have hopen := (hafter.refused_open n e (closings_after hrefused more)).1
    refine ⟨(s.after more).ledger.openings.length, ?_⟩
    have hsome : (s.after more).ledger.openings ≠ [] := fun hnone => by
      simp [Ledger.numbers, hnone] at hopen
    rw [hafter.finish_eq, if_neg hsome]

/-- A handle that is used too early is lost, and its component open for good. -/
example :
    (run { name := .topLevel ["generated"] "Shelves", kind := .client }
      [.openChild { identifier := ⟨"books"⟩ }, .openChild { identifier := ⟨"list"⟩ },
        .close 0, .close 1, .close 0]).stack.finish = .error (.unclosedHandles 1) := rfl

end Session

end ClientGen.Component
