import ClientGen.Proofs.Component.Session

/-!
# Components that are closed in any case

`Work.within` opens a component, has other work done inside it, and closes it with its handle, which
nobody else gets. The work inside can be anything that is done with calls on the same stack: it can
leave components open, use handles from outside, and fail.

* `Inside` — who is open at a moment of the work: the scoped component is, below it everyone who was
  open before, and above it those that the work itself has opened.
* `Inside.closes` — when the scoped component is closed in the end, and with which result.
* `makes_within` — from outside a scope is a sequence of calls, so that scopes can be inside scopes.
* `keeps_scope` — all of this for every use of a stack.
-/

namespace ClientGen.Component

/-- An edit is noted at the innermost component. -/
theorem Ledger.edit_of_cons {l : Ledger} {o : Opening} {below : List Opening}
    (h : l.openings = o :: below) (e : Edit) :
    l.edit e = { l with openings := { o with edits := o.edits ++ [e] } :: below } := by
  rw [Ledger.edit, h]

/-- The call uses the handle of the component with this number. -/
def Command.uses (n : Nat) : Command → Bool
  | .close m => m = n
  | _ => false

namespace Session

/-! ## Scopes -/

/-- A component is opened, and its handle is kept back. -/
def enter (s : Session) (spec : Spec) : Session :=
  { s.step (.openChild spec) with handles := s.handles }

/-- What the work does to the stack of the session is what the calls do, one after the other.
Whether the work fails, and with what, is left open. -/
def Makes {α : Type} (s : Session) (work : Work α) (calls : List Command) : Prop :=
  (work s.stack).stack = (s.after calls).stack

/-- Session `t` is inside the component `held`, which was opened in session `s`. -/
structure Inside (s : Session) (spec : Spec) (own : List Opening) (held : Opening) (t : Session) :
    Prop where
  /-- Above it are components of its own. -/
  openings_eq : t.ledger.openings = own ++ held :: s.ledger.openings
  rootNow_eq : t.ledger.rootNow = s.ledger.rootNow
  held_eq : held.number = s.ledger.count ∧ held.spec = spec ∧
    held.name = s.stack.childName spec.identifier
  /-- They were opened later. -/
  own_later : ∀ o ∈ own, s.ledger.count < o.number
  count_lt : s.ledger.count < t.ledger.count
  /-- Nobody has its handle. -/
  withheld : ∀ h, (s.ledger.count, h) ∉ t.handles

variable {s t u : Session} {spec : Spec} {own : List Opening} {held : Opening}

theorem Sound.enter (hs : s.Sound) (spec : Spec) : (s.enter spec).Sound := by
  have hopened := hs.openChild spec
  exact {
    stack_eq := hopened.stack_eq
    handles_own := fun n h hmem => hopened.handles_own n h (List.mem_cons_of_mem _ hmem)
    numbers_sorted := hopened.numbers_sorted
    numbers_lt := hopened.numbers_lt
    closings_lt := hopened.closings_lt
    mem_numbers_iff := hopened.mem_numbers_iff
    refused_open := fun n e hmem =>
      have ⟨hopen, hgone⟩ := hopened.refused_open n e hmem
      ⟨hopen, fun h hh => hgone h (List.mem_cons_of_mem _ hh)⟩ }

/-! ## From one call to the next -/

theorem inside_enter (hs : s.Sound) (spec : Spec) :
    Inside s spec [] ⟨s.ledger.count, s.ledger.stack.childName spec.identifier, spec, []⟩
      (s.enter spec) where
  openings_eq := rfl
  rootNow_eq := rfl
  held_eq := ⟨rfl, rfl, by rw [hs.stack_eq]⟩
  own_later := nofun
  count_lt := Nat.lt_succ_self _
  withheld h hmem := by
    obtain ⟨above, o, below, hopenings, hnumber, -, -⟩ := hs.opening_of_handle hmem
    have hlt := hs.numbers_lt o.number (by simp [Ledger.numbers, hopenings])
    omega

/-- Handles can only become fewer. -/
theorem Inside.of_subset (h : Inside s spec own held t) (hledger : u.ledger = t.ledger)
    (hhandles : ∀ p ∈ u.handles, p ∈ t.handles) : Inside s spec own held u where
  openings_eq := by rw [hledger, h.openings_eq]
  rootNow_eq := by rw [hledger, h.rootNow_eq]
  held_eq := h.held_eq
  own_later := h.own_later
  count_lt := by rw [hledger]; exact h.count_lt
  withheld hd hmem := h.withheld hd (hhandles _ hmem)

theorem Inside.openChild (h : Inside s spec own held t) (inner : Spec) :
    ∃ own, Inside s spec own held (t.step (.openChild inner)) := by
  refine ⟨⟨t.ledger.count, t.ledger.stack.childName inner.identifier, inner, []⟩ :: own, ?_⟩
  exact {
    openings_eq := congrArg _ h.openings_eq
    rootNow_eq := h.rootNow_eq
    held_eq := h.held_eq
    own_later := List.forall_mem_cons.2 ⟨h.count_lt, h.own_later⟩
    count_lt := Nat.lt_succ_of_lt h.count_lt
    withheld := fun hd hmem => by
      rcases List.mem_cons.1 hmem with hnew | hold
      · have hlt := h.count_lt
        have heq : s.ledger.count = t.ledger.count := congrArg Prod.fst hnew
        omega
      · exact h.withheld hd hold }

/-- What is edited is the scoped component, or one of its own above it. -/
theorem Inside.edit (h : Inside s spec own held t) {e : Edit} (hledger : u.ledger = t.ledger.edit e)
    (hhandles : u.handles = t.handles) : ∃ own held, Inside s spec own held u := by
  have hwithheld : ∀ hd, (s.ledger.count, hd) ∉ u.handles := by
    rw [hhandles]
    exact h.withheld
  have hcount : s.ledger.count < u.ledger.count := by
    rw [hledger, Ledger.count_edit]
    exact h.count_lt
  cases own with
  | nil =>
    rw [Ledger.edit_of_cons h.openings_eq] at hledger
    refine ⟨[], { held with edits := held.edits ++ [e] }, ?_, ?_, h.held_eq, nofun, hcount,
      hwithheld⟩
    · rw [hledger]
      rfl
    · rw [hledger]
      exact h.rootNow_eq
  | cons o above =>
    rw [Ledger.edit_of_cons h.openings_eq] at hledger
    obtain ⟨hlater, habove⟩ := List.forall_mem_cons.1 h.own_later
    refine ⟨{ o with edits := o.edits ++ [e] } :: above, held, ?_, ?_, h.held_eq,
      List.forall_mem_cons.2 ⟨hlater, habove⟩, hcount, hwithheld⟩
    · rw [hledger]
      rfl
    · rw [hledger]
      exact h.rootNow_eq

/-- No handle closes the scoped component, and none closes another one below it. -/
theorem Inside.close (ht : t.Sound) (h : Inside s spec own held t) (n : Nat) :
    ∃ own held, Inside s spec own held (t.step (.close n)) := by
  cases hlookup : t.handles.lookup n with
  | none =>
    rw [step_close_none hlookup]
    exact ⟨own, held, h⟩
  | some hd =>
    have hmem := mem_handles_of_lookup hlookup
    obtain ⟨above, o, below, hopenings, rfl, habove, hhandle⟩ := ht.opening_of_handle hmem
    have hfewer : ∀ p ∈ t.handles.filter (·.1 ≠ o.number), p ∈ t.handles := fun p hp =>
      (List.mem_filter.1 hp).1
    cases above with
    | cons a above =>
      have hother : a.number ≠ o.number := Nat.ne_of_gt (habove a List.mem_cons_self)
      rw [step_close_covered ht.stack_eq hlookup hopenings hother hhandle]
      exact ⟨own, held, h.of_subset rfl hfewer⟩
    | nil =>
      rw [step_close_innermost ht.stack_eq hlookup hopenings rfl hhandle]
      have hsplit := hopenings.symm.trans h.openings_eq
      cases own with
      | nil =>
        -- the innermost one is the scoped component, and its handle is kept back
        obtain ⟨rfl, -⟩ := List.cons.inj hsplit
        exact absurd (h.held_eq.1 ▸ hmem) (h.withheld hd)
      | cons own₀ own =>
        obtain ⟨rfl, hbelow⟩ := List.cons.inj hsplit
        have hpopped : Inside s spec own held
            { t with
              handles := t.handles.filter (·.1 ≠ o.number)
              ledger := { t.ledger with openings := below } } := {
          openings_eq := hbelow
          rootNow_eq := h.rootNow_eq
          held_eq := h.held_eq
          own_later := (List.forall_mem_cons.1 h.own_later).2
          count_lt := h.count_lt
          withheld := fun hd hmem => h.withheld hd (hfewer _ hmem) }
        exact hpopped.edit rfl rfl

theorem Inside.step (ht : t.Sound) (h : Inside s spec own held t) (c : Command) :
    ∃ own held, Inside s spec own held (t.step c) := by
  cases c with
  | openChild inner =>
    obtain ⟨own, h⟩ := h.openChild inner
    exact ⟨own, held, h⟩
  | editType f => exact h.edit rfl rfl
  | editInit f => exact h.edit rfl rfl
  | close n => exact h.close ht n

/-- Whatever is called inside a scope, one is still inside. -/
theorem Inside.after (ht : t.Sound) (h : Inside s spec own held t) (calls : List Command) :
    ∃ own held, Inside s spec own held (t.after calls) := by
  induction calls generalizing t own held with
  | nil => exact ⟨own, held, h⟩
  | cons c rest ih =>
    obtain ⟨own, held, h⟩ := h.step ht c
    exact ih (ht.step c) h

/-! ## The stack inside -/

/-- The root class and the components that were open before are as they were. -/
theorem Inside.stack_eq (hs : s.Sound) (ht : t.Sound) (h : Inside s spec own held t) :
    t.stack =
      { root := s.stack.root, drafts := own.map (·.draft) ++ held.draft :: s.stack.drafts } := by
  rw [ht.stack_eq, hs.stack_eq, Ledger.stack, Ledger.stack, h.openings_eq, h.rootNow_eq,
    List.map_append, List.map_cons]

/-! ## Closing the scope -/

/-- What there was to a scope in the end. -/
structure Closes {α : Type} (s : Session) (spec : Spec) (inside : Work α) (own : List Opening)
    (held : Opening) : Prop where
  /-- The scoped component is finished and nested in the class below it, which gets its class and
  its factory method and no more, exactly if none of its own components is left. -/
  nested_iff : (Work.within spec inside s.stack).stack = s.stack.modifyCurrent (fun parent =>
      { parent with
        nested := parent.nested ++ [DeclarationOf.ofClass held.finished]
        factories := parent.factories ++ [held.factory] }) ↔ own = []
  /-- Only then as many components are open as before. -/
  depth_iff : (Work.within spec inside s.stack).stack.depth = s.stack.depth ↔ own = []
  /-- Otherwise the stack stays as the work has left it. -/
  left : own ≠ [] →
    (Work.within spec inside s.stack).stack = (inside (s.stack.openChild spec).1).stack
  /-- An error of the work comes first. -/
  result_eq : (Work.within spec inside s.stack).result =
    match (inside (s.stack.openChild spec).1).result with
    | .error e => .error e
    | .ok a =>
      if own = [] then .ok a
      else .error (.handleOutOfOrder (s.stack.childName spec.identifier).dotted own.length)

/-- The handle of the scoped component. -/
def heldHandle (s : Session) (spec : Spec) : Handle :=
  ⟨s.stack.depth + 1, s.stack.childName spec.identifier⟩

/-- Opening, working and closing with the handle. -/
theorem within_stack_eq {α : Type} (spec : Spec) (inside : Work α) :
    (Work.within spec inside s.stack).stack =
      (Work.close (s.heldHandle spec) (inside (s.stack.openChild spec).1).stack).stack := rfl

theorem within_result_eq {α : Type} (spec : Spec) (inside : Work α) :
    (Work.within spec inside s.stack).result = (do
      let a ← (inside (s.stack.openChild spec).1).result
      (Work.close (s.heldHandle spec) (inside (s.stack.openChild spec).1).stack).result
      return a) := rfl

theorem Inside.heldHandle_eq (hs : s.Sound) (h : Inside s spec own held t) :
    s.heldHandle spec = ⟨s.ledger.openings.length + 1, held.name⟩ := by
  rw [heldHandle, h.held_eq.2.2, hs.stack_eq, Ledger.depth_stack]

/-- With no component above it the scoped one is closed. -/
theorem Inside.close_held (hs : s.Sound) (ht : t.Sound) (h : Inside s spec [] held t) :
    Work.close (s.heldHandle spec) t.stack =
      ⟨[.closing held.name], s.stack.modifyCurrent held.draft.nestIn, .ok ()⟩ := by
  have hbelow : { t.ledger with openings := s.ledger.openings : Ledger }.stack = s.stack := by
    rw [hs.stack_eq]
    exact congrArg (Stack.mk · _) h.rootNow_eq
  rw [h.heldHandle_eq hs, ht.stack_eq, close_innermost h.openings_eq, hbelow]

/-- Below others it stays open. -/
theorem Inside.close_covered (hs : s.Sound) (ht : t.Sound) (h : Inside s spec own held t)
    (hown : own ≠ []) :
    Work.close (s.heldHandle spec) t.stack =
      ⟨[], t.stack, .error (.handleOutOfOrder held.name.dotted own.length)⟩ := by
  obtain ⟨a, above, rfl⟩ := List.exists_cons_of_ne_nil hown
  rw [h.heldHandle_eq hs, ht.stack_eq, Session.close_covered h.openings_eq, List.length_cons]

theorem Inside.depth_eq (hs : s.Sound) (ht : t.Sound) (h : Inside s spec own held t) :
    t.stack.depth = own.length + (s.stack.depth + 1) := by
  rw [h.stack_eq hs ht, Stack.depth, Stack.depth, List.length_append, List.length_map,
    List.length_cons]

theorem Inside.closes {α : Type} {inside : Work α} (hs : s.Sound) (ht : t.Sound)
    (h : Inside s spec own held t) (hstack : (inside (s.stack.openChild spec).1).stack = t.stack) :
    s.Closes spec inside own held := by
  by_cases hown : own = []
  · subst hown
    have hclose := h.close_held hs ht
    rw [Opening.nestIn_draft] at hclose
    constructor
    case nested_iff => simp [within_stack_eq, hstack, hclose]
    case depth_iff => simp [within_stack_eq, hstack, hclose]
    case left => exact fun hne => absurd rfl hne
    case result_eq =>
      rw [within_result_eq, hstack, hclose]
      cases (inside (s.stack.openChild spec).1).result <;> rfl
  · have hclose := h.close_covered hs ht hown
    have hdepth : (Work.within spec inside s.stack).stack.depth ≠ s.stack.depth := by
      rw [within_stack_eq, hstack, hclose, h.depth_eq hs ht]
      omega
    constructor
    case nested_iff =>
      refine ⟨fun heq => absurd ?_ hdepth, fun hnil => absurd hnil hown⟩
      rw [heq, Stack.depth_modifyCurrent]
    case depth_iff => exact ⟨fun heq => absurd heq hdepth, fun hnil => absurd hnil hown⟩
    case left =>
      intro _
      rw [within_stack_eq, hstack, hclose]
    case result_eq =>
      rw [within_result_eq, hstack, hclose, h.held_eq.2.2]
      simp only [if_neg hown]
      cases (inside (s.stack.openChild spec).1).result <;> rfl

/-! ## Scopes inside scopes -/

/-- A scope as a sequence of calls. What is called with the handle inside, which is kept back, does
nothing. -/
def scopeCalls (s : Session) (spec : Spec) (calls : List Command) : List Command :=
  .openChild spec :: calls.filter (fun c => !c.uses s.ledger.count) ++ [.close s.ledger.count]

/-- Session `u` is session `t`, but for a handle that is kept back in `t`. -/
structure Lends (n : Nat) (held : Handle) (t u : Session) : Prop where
  stack_eq : u.stack = t.stack
  ledger_eq : u.ledger = t.ledger
  handles_eq : t.handles = u.handles.filter (·.1 ≠ n)
  lookup_eq : u.handles.lookup n = some held

theorem lookup_filter {handles : List (Nat × Handle)} {n m : Nat} (h : m ≠ n) :
    (handles.filter (·.1 ≠ n)).lookup m = handles.lookup m := by
  induction handles with
  | nil => rfl
  | cons p rest ih =>
    obtain ⟨k, hd⟩ := p
    by_cases hk : k = n
    · rw [List.filter_cons_of_neg (by simp [hk]), ih, List.lookup_cons,
        beq_false_of_ne (hk ▸ h)]
    · rw [List.filter_cons_of_pos (by simp [hk]), List.lookup_cons, List.lookup_cons, ih]

theorem lookup_filter_self {handles : List (Nat × Handle)} {n : Nat} :
    (handles.filter (·.1 ≠ n)).lookup n = none := by
  rw [List.lookup_eq_none_iff]
  rintro p hp
  simpa using Ne.symm (by simpa using (List.mem_filter.1 hp).2)

variable {n : Nat} {handle : Handle}

theorem Lends.step (h : Lends n handle t u) (hn : n < t.ledger.count) {c : Command}
    (hc : c.uses n = false) : Lends n handle (t.step c) (u.step c) := by
  cases c with
  | openChild inner =>
    have hnew : t.ledger.count ≠ n := Nat.ne_of_gt hn
    constructor
    case stack_eq => simp only [Session.step, h.stack_eq]
    case ledger_eq => simp only [Session.step, h.ledger_eq]
    case handles_eq => simp [Session.step, h.stack_eq, h.ledger_eq, h.handles_eq, hnew]
    case lookup_eq =>
      simp only [Session.step, h.ledger_eq, List.lookup_cons, beq_false_of_ne hnew.symm,
        h.lookup_eq]
  | editType f =>
    exact ⟨congrArg (Stack.modifyCurrent · f) h.stack_eq,
      congrArg (Ledger.edit · (.type f)) h.ledger_eq, h.handles_eq, h.lookup_eq⟩
  | editInit f =>
    exact ⟨congrArg (Stack.modifyConstructor · f) h.stack_eq,
      congrArg (Ledger.edit · (.init f)) h.ledger_eq, h.handles_eq, h.lookup_eq⟩
  | close m =>
    have hm : m ≠ n := by simpa [Command.uses] using hc
    have hsame : t.handles.lookup m = u.handles.lookup m := by
      rw [h.handles_eq]
      exact lookup_filter hm
    cases hlookup : u.handles.lookup m with
    | none => rwa [step_close_none (hsame.trans hlookup), step_close_none hlookup]
    | some used =>
      simp only [Session.step, hsame, hlookup]
      constructor
      case stack_eq => simp only [h.stack_eq]
      case ledger_eq => simp only [h.ledger_eq]
      case handles_eq =>
        simp only [h.handles_eq, List.filter_filter]
        exact List.filter_congr fun p _ => Bool.and_comm _ _
      case lookup_eq => exact (lookup_filter hm.symm).trans h.lookup_eq

/-- Whoever calls with the handle that is kept back has no handle. -/
theorem Lends.step_uses (h : Lends n handle t u) {c : Command} (hc : c.uses n = true) :
    t.step c = t := by
  cases c with
  | close m =>
    have hm : m = n := by simpa [Command.uses] using hc
    refine step_close_none ?_
    rw [h.handles_eq, hm]
    exact lookup_filter_self
  | openChild | editType | editInit => cases hc

theorem stack_step_close (h : s.handles.lookup n = some handle) :
    (s.step (.close n)).stack = (Work.close handle s.stack).stack := by
  simp only [Session.step, h]

theorem Lends.after (h : Lends s.ledger.count handle t u) (ht : t.Sound)
    (hinside : Inside s spec own held t) (calls : List Command) :
    Lends s.ledger.count handle (t.after calls)
      (u.after (calls.filter fun c => !c.uses s.ledger.count)) := by
  induction calls generalizing t u own held with
  | nil => exact h
  | cons c rest ih =>
    obtain ⟨own, held, hnext⟩ := hinside.step ht c
    cases hc : c.uses s.ledger.count with
    | true =>
      rw [List.filter_cons_of_neg (by simp [hc])]
      refine ih ?_ (ht.step c) hnext
      rwa [h.step_uses hc]
    | false =>
      rw [List.filter_cons_of_pos (by simp [hc])]
      exact ih (h.step hinside.count_lt hc) (ht.step c) hnext

theorem lends_enter (hs : s.Sound) (spec : Spec) :
    Lends s.ledger.count (s.heldHandle spec) (s.enter spec) (s.step (.openChild spec)) where
  stack_eq := rfl
  ledger_eq := rfl
  handles_eq := by
    have hothers : ∀ p ∈ s.handles, p.1 ≠ s.ledger.count := fun p hp heq =>
      (inside_enter hs spec).withheld p.2 (heq ▸ hp)
    have hkept : s.handles.filter (·.1 ≠ s.ledger.count) = s.handles :=
      List.filter_eq_self.2 fun p hp => decide_eq_true (hothers p hp)
    exact hkept.symm.trans (List.filter_cons_of_neg (by simp)).symm
  lookup_eq := List.lookup_cons_self

/-- **A scope is a sequence of calls**, if what is done inside is one. -/
theorem makes_within {α : Type} {inside : Work α} {calls : List Command} (hs : s.Sound)
    (h : (s.enter spec).Makes inside calls) :
    s.Makes (Work.within spec inside) (s.scopeCalls spec calls) := by
  have hlends := (lends_enter hs spec).after (hs.enter spec) (inside_enter hs spec) calls
  have hwork : (inside (s.stack.openChild spec).1).stack = ((s.enter spec).after calls).stack := h
  have hcalls : s.after (s.scopeCalls spec calls) = ((s.step (.openChild spec)).after
      (calls.filter fun c => !c.uses s.ledger.count)).step (.close s.ledger.count) :=
    List.foldl_append
  rw [Makes, within_stack_eq, hwork, hcalls, stack_step_close hlends.lookup_eq, hlends.stack_eq]

/-! ## What a scope does -/

/-- What there is to a scope, where the work inside makes the calls. -/
structure KeepsScope {α : Type} (s : Session) (spec : Spec) (inside : Work α)
    (calls : List Command) : Prop where
  /-- After each call the root class and the components that were open before are as they were.
  Above them are the scoped component and those that the work itself has opened. -/
  frame : ∀ done, done <+: calls → ∃ own held, s.Inside spec own held ((s.enter spec).after done) ∧
    ((s.enter spec).after done).stack =
      { root := s.stack.root, drafts := own.map (·.draft) ++ held.draft :: s.stack.drafts }
  /-- What is left of them decides whether the scoped component is closed. -/
  closes : ∃ own held, s.Inside spec own held ((s.enter spec).after calls) ∧
    s.Closes spec inside own held
  /-- The scope as a whole is a sequence of calls. -/
  makes : s.Makes (Work.within spec inside) (s.scopeCalls spec calls)

/-- Work in a scope, whatever it calls and whether or not it fails, leaves alone what was open
before, and its component is closed unless it has left others open above it. -/
theorem keeps_scope {α : Type} (root : Class) (history : List Command) (spec : Spec)
    (inside : Work α) (calls : List Command)
    (h : ((run root history).enter spec).Makes inside calls) :
    (run root history).KeepsScope spec inside calls := by
  have hs := sound_run root history
  generalize run root history = s at hs h
  have hstart := inside_enter hs spec
  constructor
  case frame =>
    intro done _
    obtain ⟨own, held, hinside⟩ := hstart.after (hs.enter spec) done
    exact ⟨own, held, hinside, hinside.stack_eq hs ((hs.enter spec).after done)⟩
  case closes =>
    obtain ⟨own, held, hinside⟩ := hstart.after (hs.enter spec) calls
    exact ⟨own, held, hinside, hinside.closes hs ((hs.enter spec).after calls) h⟩
  case makes => exact makes_within hs h

/-- A session with one open component. -/
def shelf : Session :=
  run { name := .topLevel ["generated"] "Books", kind := .client }
    [.openChild { identifier := ⟨"shelf"⟩ }]

/-- Work that opens a component, leaves it open, and uses the handle of the one around the scope. -/
def careless : Work Unit := do
  let _ ← Work.openChild { identifier := ⟨"page"⟩ }
  Work.close ⟨1, .nested (.topLevel ["generated"] "Books") "Shelf"⟩

/-- It fails for the handle, and of the three components none is closed. -/
theorem keeps_scope_careless :
    (shelf.enter { identifier := ⟨"book"⟩ }).Makes careless
        [.openChild { identifier := ⟨"page"⟩ }, .close 0] ∧
      ((Work.within { identifier := ⟨"book"⟩ } careless shelf.stack).stack.depth = 3 ∧
        (Work.within { identifier := ⟨"book"⟩ } careless shelf.stack).result =
          .error (.handleOutOfOrder "generated.Books.Shelf" 2)) ∧
      shelf.KeepsScope { identifier := ⟨"book"⟩ } careless
        [.openChild { identifier := ⟨"page"⟩ }, .close 0] :=
  ⟨rfl, ⟨rfl, rfl⟩, keeps_scope _ _ _ _ _ rfl⟩

end Session

end ClientGen.Component
