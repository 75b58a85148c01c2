import Mathlib.Logic.Function.Basic
import ClientGen.Proofs.Component.Session

/-!
# Stacks side by side

All stacks hand out handles of one kind, and a handle does not say which stack it is from. This
module follows any number of stacks in any interleaving of calls, where every handle can be used on
every stack, at most once. The books again go by identity: a component is known by its stack and by
its number there.

* `Stacks.run` — the stacks, the handles that are left and what came of the others, after a list of
  calls.
* `Stacks.Sound`, `Stacks.sound_run` — what every call preserves.
* `closed_by_count` — a handle closes what is innermost on any stack on which the right number of
  components is open. As long as no handle was used up on a stack that it is not from, this is its
  own component.
* `closed_across_stacks` — with two stacks, a handle of one closes a component of the other.
-/

namespace ClientGen.Component

/-! ## The books -/

/-- A handle, with the stack that handed it out and the number of its component there. -/
structure Ticket (ι : Type) where
  issuer : ι
  number : Nat
  handle : Handle

/-- What the handle is for: a stack, and the number of a component there. -/
def Ticket.component {ι : Type} (t : Ticket ι) : ι × Nat :=
  (t.issuer, t.number)

/-- A handle that was used. -/
structure Use (ι : Type) where
  ticket : Ticket ι
  /-- The stack that it was used on. -/
  place : ι
  /-- The number of the component that was innermost there, if one was open. -/
  innermost : Option Nat
  result : Except Error Unit

namespace Use

variable {ι : Type} (u : Use ι)

/-- A component was closed. -/
def Succeeds : Prop :=
  u.result = .ok ()

/-- The handle was used on the stack that it is from. -/
def AtHome : Prop :=
  u.place = u.ticket.issuer

/-- The handle was used on the stack that it is from, while its component was the innermost one. -/
def Rightful : Prop :=
  u.AtHome ∧ u.innermost = some u.ticket.number

end Use

/-- Stacks in use side by side. -/
structure Stacks (ι : Type) where
  stack : ι → Stack
  /-- The numbers of the open components of each stack, innermost first. -/
  opened : ι → List Nat := fun _ => []
  /-- How many components were opened on each stack so far. -/
  count : ι → Nat := fun _ => 0
  /-- The handles that are not yet used. -/
  tickets : List (Ticket ι) := []
  uses : List (Use ι) := []

/-- A call on one of the stacks. -/
inductive Call (ι : Type)
  | openChild (i : ι) (spec : Spec)
  /-- The current class of a stack is edited. -/
  | editType (i : ι) (f : Class → Class)
  /-- The constructor of the innermost component of a stack is edited. -/
  | editInit (i : ι) (f : Constructor → Constructor)
  /-- The handle of the component with this number on the stack `issuer` is used on `place`. -/
  | close (issuer : ι) (number : Nat) (place : ι)

theorem Stack.depth_modifyConstructor (s : Stack) (f : Constructor → Constructor) :
    (s.modifyConstructor f).depth = s.depth := by
  obtain ⟨root, drafts⟩ := s
  cases drafts <;> rfl

namespace Stacks

variable {ι : Type} [DecidableEq ι]

/-- A component is opened on a stack. -/
def openChild (s : Stacks ι) (i : ι) (spec : Spec) : Stacks ι :=
  let (opened, handle) := (s.stack i).openChild spec
  { s with
    stack := Function.update s.stack i opened
    opened := Function.update s.opened i (s.count i :: s.opened i)
    count := Function.update s.count i (s.count i + 1)
    tickets := ⟨i, s.count i, handle⟩ :: s.tickets }

/-- One stack is edited. -/
def edit (s : Stacks ι) (i : ι) (f : Stack → Stack) : Stacks ι :=
  { s with stack := Function.update s.stack i (f (s.stack i)) }

/-- A handle is used on a stack. -/
def close (s : Stacks ι) (t : Ticket ι) (place : ι) : Stacks ι :=
  let done := Work.close t.handle (s.stack place)
  { s with
    stack := Function.update s.stack place done.stack
    opened :=
      match done.result with
      | .ok _ => Function.update s.opened place (s.opened place).tail
      | .error _ => s.opened
    tickets := s.tickets.filter (·.component ≠ t.component)
    uses := s.uses ++ [⟨t, place, (s.opened place).head?, done.result⟩] }

/-- The handle of a component, if it is not yet used. -/
def ticket? (s : Stacks ι) (issuer : ι) (number : Nat) : Option (Ticket ι) :=
  s.tickets.find? (·.component = (issuer, number))

/-- The stacks after one more call. A handle that is used up, or that there never was, cannot be
used: nothing happens. -/
def step (s : Stacks ι) : Call ι → Stacks ι
  | .openChild i spec => s.openChild i spec
  | .editType i f => s.edit i (·.modifyCurrent f)
  | .editInit i f => s.edit i (·.modifyConstructor f)
  | .close issuer number place =>
    match s.ticket? issuer number with
    | none => s
    | some t => s.close t place

/-- The stacks after a list of calls on new stacks with the given root classes. -/
def run (roots : ι → Class) (calls : List (Call ι)) : Stacks ι :=
  calls.foldl step { stack := fun i => { root := roots i } }

/-! ## Using a handle -/

variable {s : Stacks ι} {t : Ticket ι} {place : ι}

/-- With as many components open as it counts, a handle closes the innermost one. -/
theorem close_of_depth_eq {stack : Stack} {h : Handle} (hpos : 0 < h.depth)
    (hdepth : h.depth = stack.depth) :
    ∃ d below, stack.drafts = d :: below ∧
      Work.close h stack =
        ⟨[.closing h.name], { stack with drafts := below }.modifyCurrent d.nestIn, .ok ()⟩ := by
  obtain ⟨root, drafts⟩ := stack
  cases drafts with
  | nil =>
    have hnone : h.depth = 0 := hdepth
    omega
  | cons d below =>
    refine ⟨d, below, rfl, ?_⟩
    simp only [Work.close, Stack.close, if_pos hdepth]

/-- With another number of components open, it is refused, and nothing happens. -/
theorem close_of_depth_ne {stack : Stack} {h : Handle} (hdepth : h.depth ≠ stack.depth) :
    Work.close h stack =
      ⟨[], stack, .error (.handleOutOfOrder h.name.dotted (stack.depth - h.depth))⟩ := by
  obtain ⟨root, drafts⟩ := stack
  cases drafts with
  | nil =>
    have hzero : (Stack.mk root []).depth - h.depth = 0 := Nat.zero_sub _
    rw [hzero]
    rfl
  | cons d below => simp only [Work.close, Stack.close, if_neg hdepth]

/-- Every component that was closed was closed with a handle of its stack. -/
def AllAtHome (s : Stacks ι) : Prop :=
  ∀ u ∈ s.uses, u.Succeeds → u.AtHome

/-! ## What holds after every call -/

/-- The stacks agree with their books. -/
structure Sound (s : Stacks ι) : Prop where
  depth_eq : ∀ i, (s.stack i).depth = (s.opened i).length
  opened_sorted : ∀ i, (s.opened i).Pairwise (· > ·)
  opened_lt : ∀ i, ∀ n ∈ s.opened i, n < s.count i
  depth_pos : ∀ t ∈ s.tickets, 0 < t.handle.depth
  /-- A handle that is left counts the components from its own one down. It is closing across stacks
  that can take its component away. -/
  tickets_own : s.AllAtHome → ∀ t ∈ s.tickets, ∃ above below,
    s.opened t.issuer = above ++ t.number :: below ∧ t.handle.depth = below.length + 1
  uses_rightful : s.AllAtHome → ∀ u ∈ s.uses, u.Succeeds → u.Rightful

omit [DecidableEq ι] in
theorem sound_start (roots : ι → Class) : Sound { stack := fun i => { root := roots i } } where
  depth_eq _ := rfl
  opened_sorted _ := List.Pairwise.nil
  opened_lt _ := by simp
  depth_pos := by simp
  tickets_own := by simp
  uses_rightful := by simp

theorem Sound.openChild (hs : s.Sound) (i : ι) (spec : Spec) : (s.openChild i spec).Sound := by
  have hopened : (s.openChild i spec).opened i = s.count i :: s.opened i := Function.update_self ..
  have hcount : (s.openChild i spec).count i = s.count i + 1 := Function.update_self ..
  have hstack : (s.openChild i spec).stack i = ((s.stack i).openChild spec).1 :=
    Function.update_self ..
  have hothers : ∀ j ≠ i, (s.openChild i spec).opened j = s.opened j ∧
      (s.openChild i spec).count j = s.count j ∧ (s.openChild i spec).stack j = s.stack j :=
    fun j hj => ⟨Function.update_of_ne hj .., Function.update_of_ne hj ..,
      Function.update_of_ne hj ..⟩
  constructor
  case depth_eq =>
    intro j
    by_cases hj : j = i
    · rw [hj, hopened, hstack, List.length_cons, ← hs.depth_eq i]
      rfl
    · obtain ⟨ho, -, hst⟩ := hothers j hj
      rw [ho, hst, hs.depth_eq j]
  case opened_sorted =>
    intro j
    by_cases hj : j = i
    · rw [hj, hopened]
      exact List.pairwise_cons.mpr ⟨hs.opened_lt i, hs.opened_sorted i⟩
    · rw [(hothers j hj).1]
      exact hs.opened_sorted j
  case opened_lt =>
    intro j n hn
    by_cases hj : j = i
    · rw [hj, hopened] at hn
      rw [hj, hcount]
      obtain rfl | hn := List.mem_cons.mp hn
      · exact Nat.lt_succ_self _
      · exact Nat.lt_succ_of_lt (hs.opened_lt i n hn)
    · rw [(hothers j hj).1] at hn
      rw [(hothers j hj).2.1]
      exact hs.opened_lt j n hn
  case depth_pos =>
    intro t ht
    obtain rfl | ht := List.mem_cons.mp ht
    · exact Nat.succ_pos _
    · exact hs.depth_pos t ht
  case tickets_own =>
    intro hhome t ht
    obtain rfl | ht := List.mem_cons.mp ht
    · refine ⟨[], s.opened i, hopened, ?_⟩
      show (s.stack i).depth + 1 = _
      rw [hs.depth_eq i]
    · obtain ⟨above, below, hsplit, hdepth⟩ := hs.tickets_own hhome t ht
      by_cases hi : t.issuer = i
      · refine ⟨s.count i :: above, below, ?_, hdepth⟩
        rw [hi, hopened, ← hi, hsplit, List.cons_append]
      · refine ⟨above, below, ?_, hdepth⟩
        rw [(hothers _ hi).1, hsplit]
  case uses_rightful => exact hs.uses_rightful

/-- An edit is not noticed by the handles, as nothing is opened or closed. -/
theorem Sound.edit (hs : s.Sound) (i : ι) (f : Stack → Stack)
    (hf : ∀ stack, (f stack).depth = stack.depth) : (s.edit i f).Sound where
  depth_eq := by
    intro j
    by_cases hj : j = i
    · have hstack : (s.edit i f).stack i = f (s.stack i) := Function.update_self ..
      rw [hj, hstack, hf]
      exact hs.depth_eq i
    · have hstack : (s.edit i f).stack j = s.stack j := Function.update_of_ne hj ..
      rw [hstack]
      exact hs.depth_eq j
  opened_sorted := hs.opened_sorted
  opened_lt := hs.opened_lt
  depth_pos := hs.depth_pos
  tickets_own := hs.tickets_own
  uses_rightful := hs.uses_rightful

/-! ### Closing -/

theorem mem_tickets_close {u : Ticket ι} :
    u ∈ (s.close t place).tickets ↔ u ∈ s.tickets ∧ u.component ≠ t.component := by
  simp [close]

theorem AllAtHome.of_close (h : (s.close t place).AllAtHome) : s.AllAtHome :=
  fun u hu => h u (List.mem_append_left _ hu)

/-- What closing makes of the stacks if the handle is refused. -/
theorem close_eq_of_ne (hs : s.Sound) (hdepth : t.handle.depth ≠ (s.opened place).length) :
    s.close t place =
      { s with
        tickets := s.tickets.filter (·.component ≠ t.component)
        uses := s.uses ++ [⟨t, place, (s.opened place).head?,
          .error (.handleOutOfOrder t.handle.name.dotted
            ((s.opened place).length - t.handle.depth))⟩] } := by
  have hrefused := close_of_depth_ne (hs.depth_eq place ▸ hdepth)
  rw [hs.depth_eq place] at hrefused
  simp only [close, hrefused, Function.update_eq_self]

/-- What closing makes of the stacks if it succeeds. -/
theorem close_eq_of_depth_eq (hs : s.Sound) (ht : t ∈ s.tickets)
    (hdepth : t.handle.depth = (s.opened place).length) :
    ∃ d below, (s.stack place).drafts = d :: below ∧ s.close t place =
      { s with
        stack := Function.update s.stack place
          ({ s.stack place with drafts := below }.modifyCurrent d.nestIn)
        opened := Function.update s.opened place (s.opened place).tail
        tickets := s.tickets.filter (·.component ≠ t.component)
        uses := s.uses ++ [⟨t, place, (s.opened place).head?, .ok ()⟩] } := by
  obtain ⟨d, below, hdrafts, hclose⟩ :=
    close_of_depth_eq (hs.depth_pos t ht) (hs.depth_eq place ▸ hdepth)
  refine ⟨d, below, hdrafts, ?_⟩
  simp only [close, hclose]

omit [DecidableEq ι] in
/-- As long as components were closed at home, a handle that fits its own stack belongs to the
component that is innermost there. -/
theorem Sound.opened_of_depth_eq (hs : s.Sound) (hhome : s.AllAtHome) (ht : t ∈ s.tickets)
    (hdepth : t.handle.depth = (s.opened t.issuer).length) :
    ∃ below, s.opened t.issuer = t.number :: below := by
  obtain ⟨above, below, hsplit, hown⟩ := hs.tickets_own hhome t ht
  rw [hsplit, List.length_append, List.length_cons] at hdepth
  have hnone : above = [] := List.eq_nil_of_length_eq_zero (by omega)
  exact ⟨below, by rw [hsplit, hnone, List.nil_append]⟩

theorem Sound.closed (hs : s.Sound) (ht : t ∈ s.tickets)
    (hdepth : t.handle.depth = (s.opened place).length) : (s.close t place).Sound := by
  obtain ⟨d, below, hdrafts, hclose⟩ := close_eq_of_depth_eq hs ht hdepth
  have hopened : (s.close t place).opened place = (s.opened place).tail := by
    rw [hclose]
    exact Function.update_self ..
  have hstack : (s.close t place).stack place =
      ({ s.stack place with drafts := below }.modifyCurrent d.nestIn) := by
    rw [hclose]
    exact Function.update_self ..
  have hothers : ∀ j ≠ place, (s.close t place).opened j = s.opened j ∧
      (s.close t place).stack j = s.stack j := by
    intro j hj
    rw [hclose]
    exact ⟨Function.update_of_ne hj .., Function.update_of_ne hj ..⟩
  have hhead : (s.close t place).AllAtHome →
      place = t.issuer ∧ ∃ rest, s.opened place = t.number :: rest := by
    intro hhome
    have hplace : place = t.issuer :=
      hhome ⟨t, place, (s.opened place).head?, .ok ()⟩ (by simp [hclose]) rfl
    subst hplace
    exact ⟨rfl, hs.opened_of_depth_eq hhome.of_close ht hdepth⟩
  constructor
  case depth_eq =>
    intro j
    by_cases hj : j = place
    · have hlength := hs.depth_eq place
      rw [Stack.depth, hdrafts, List.length_cons] at hlength
      rw [hj, hopened, hstack, Stack.depth_modifyCurrent, List.length_tail, ← hlength]
      rfl
    · rw [(hothers j hj).1, (hothers j hj).2, hs.depth_eq j]
  case opened_sorted =>
    intro j
    by_cases hj : j = place
    · rw [hj, hopened]
      exact (hs.opened_sorted place).sublist (List.tail_sublist _)
    · rw [(hothers j hj).1]
      exact hs.opened_sorted j
  case opened_lt =>
    intro j n hn
    by_cases hj : j = place
    · rw [hj, hopened] at hn
      exact hj ▸ hs.opened_lt place n (List.mem_of_mem_tail hn)
    · rw [(hothers j hj).1] at hn
      exact hs.opened_lt j n hn
  case depth_pos => exact fun u hu => hs.depth_pos u (mem_tickets_close.mp hu).1
  case tickets_own =>
    intro hhome u hu
    obtain ⟨hunused, hother⟩ := mem_tickets_close.mp hu
    obtain ⟨rfl, rest, hrest⟩ := hhead hhome
    obtain ⟨above, below, hsplit, hown⟩ := hs.tickets_own hhome.of_close u hunused
    by_cases hissuer : u.issuer = t.issuer
    · rw [hissuer, hrest] at hsplit
      cases above with
      | nil =>
        have hnumber : t.number = u.number := (List.cons.inj hsplit).1
        exact absurd (Prod.ext hissuer hnumber.symm) hother
      | cons a above =>
        refine ⟨above, below, ?_, hown⟩
        rw [hissuer, hopened, hrest]
        exact (List.cons.inj hsplit).2
    · exact ⟨above, below, by rw [(hothers _ hissuer).1, hsplit], hown⟩
  case uses_rightful =>
    intro hhome u hu hsucceeds
    rw [hclose] at hu
    obtain hu | hu := List.mem_append.mp hu
    · exact hs.uses_rightful hhome.of_close u hu hsucceeds
    · obtain ⟨hplace, rest, hrest⟩ := hhead hhome
      cases List.mem_singleton.mp hu
      refine ⟨hplace, ?_⟩
      rw [hrest]
      rfl

theorem Sound.refused (hs : s.Sound) (hdepth : t.handle.depth ≠ (s.opened place).length) :
    (s.close t place).Sound := by
  have hclose := close_eq_of_ne hs hdepth
  have hopened : (s.close t place).opened = s.opened := by rw [hclose]
  constructor
  case depth_eq => rw [hclose]; exact hs.depth_eq
  case opened_sorted => rw [hclose]; exact hs.opened_sorted
  case opened_lt => rw [hclose]; exact hs.opened_lt
  case depth_pos => exact fun u hu => hs.depth_pos u (mem_tickets_close.mp hu).1
  case tickets_own =>
    intro hhome u hu
    rw [hopened]
    exact hs.tickets_own hhome.of_close u (mem_tickets_close.mp hu).1
  case uses_rightful =>
    intro hhome u hu hsucceeds
    rw [hclose] at hu
    obtain hu | hu := List.mem_append.mp hu
    · exact hs.uses_rightful hhome.of_close u hu hsucceeds
    · cases List.mem_singleton.mp hu
      cases hsucceeds

theorem mem_of_ticket? {issuer : ι} {number : Nat} (h : s.ticket? issuer number = some t) :
    t ∈ s.tickets :=
  List.mem_of_find?_eq_some h

theorem Sound.step (hs : s.Sound) (call : Call ι) : (s.step call).Sound := by
  cases call with
  | openChild i spec => exact hs.openChild i spec
  | editType i f => exact hs.edit i _ fun stack => stack.depth_modifyCurrent f
  | editInit i f => exact hs.edit i _ fun stack => stack.depth_modifyConstructor f
  | close issuer number place =>
    show (match s.ticket? issuer number with
      | none => s
      | some t => s.close t place).Sound
    cases hticket : s.ticket? issuer number with
    | none => exact hs
    | some t =>
      by_cases hdepth : t.handle.depth = (s.opened place).length
      · exact hs.closed (mem_of_ticket? hticket) hdepth
      · exact hs.refused hdepth

theorem sound_run (roots : ι → Class) (calls : List (Call ι)) : (run roots calls).Sound := by
  suffices h : ∀ s : Stacks ι, s.Sound → (calls.foldl Stacks.step s).Sound from
    h _ (sound_start roots)
  induction calls with
  | nil => exact fun s hs => hs
  | cons call rest ih => exact fun s hs => ih _ (hs.step call)

/-! ## What closing comes to -/

/-- How closing goes by the number of open components, and when this is the right component. -/
structure ClosedByCount (s : Stacks ι) : Prop where
  /-- On every stack on which as many components are open as the handle counts, it closes the
  innermost one. The other stacks stay as they are. -/
  closes : ∀ t ∈ s.tickets, ∀ place, t.handle.depth = (s.stack place).depth →
    ∃ d below, (s.stack place).drafts = d :: below ∧
      (s.close t place).stack = Function.update s.stack place
        ({ s.stack place with drafts := below }.modifyCurrent d.nestIn) ∧
      (s.close t place).uses = s.uses ++ [⟨t, place, (s.opened place).head?, .ok ()⟩]
  /-- On every other stack it is refused, and all stacks stay as they are. -/
  refuses : ∀ t ∈ s.tickets, ∀ place, t.handle.depth ≠ (s.stack place).depth →
    (s.close t place).stack = s.stack ∧
      (s.close t place).uses = s.uses ++ [⟨t, place, (s.opened place).head?,
        .error (.handleOutOfOrder t.handle.name.dotted
          ((s.stack place).depth - t.handle.depth))⟩]
  /-- Each handle that closed a component closed its own, while it was the innermost one of its
  stack, exactly if none was used up on a stack that it is not from. -/
  rightful_iff : (∀ u ∈ s.uses, u.Succeeds → u.Rightful) ↔ s.AllAtHome
  /-- As long as that is so, a handle fits the stack that it is from exactly if its component is the
  innermost one there. -/
  fits_home_iff : s.AllAtHome → ∀ t ∈ s.tickets,
    (t.handle.depth = (s.stack t.issuer).depth ↔ (s.opened t.issuer).head? = some t.number)

omit [DecidableEq ι] in
theorem Sound.fits_home_iff (hs : s.Sound) (hhome : s.AllAtHome) (ht : t ∈ s.tickets) :
    t.handle.depth = (s.stack t.issuer).depth ↔ (s.opened t.issuer).head? = some t.number := by
  rw [hs.depth_eq]
  constructor
  · intro hdepth
    obtain ⟨below, hopened⟩ := hs.opened_of_depth_eq hhome ht hdepth
    rw [hopened]
    rfl
  · intro hhead
    obtain ⟨above, below, hsplit, hown⟩ := hs.tickets_own hhome t ht
    cases above with
    | nil => rw [hown, hsplit, List.nil_append, List.length_cons]
    | cons a above =>
      -- its number would be there twice
      have hsorted := hs.opened_sorted t.issuer
      rw [hsplit, List.cons_append] at hhead hsorted
      have ha : a = t.number := Option.some.inj hhead
      have hlt := (List.pairwise_cons.mp hsorted).1 t.number (by simp)
      omega

/-- **Closing goes by the count alone.** For any number of stacks and any interleaving of calls, a
handle closes what is innermost on whatever stack it fits. No handle closes a component that it is
not for, unless one is used up on a stack that it is not from. -/
theorem closed_by_count (roots : ι → Class) (calls : List (Call ι)) :
    (run roots calls).ClosedByCount := by
  have hs := sound_run roots calls
  generalize run roots calls = s at hs
  constructor
  case closes =>
    intro t ht place hdepth
    rw [hs.depth_eq] at hdepth
    obtain ⟨d, below, hdrafts, hclose⟩ := close_eq_of_depth_eq hs ht hdepth
    exact ⟨d, below, hdrafts, by rw [hclose], by rw [hclose]⟩
  case refuses =>
    intro t _ place hdepth
    rw [hs.depth_eq] at hdepth ⊢
    rw [close_eq_of_ne hs hdepth]
    exact ⟨rfl, rfl⟩
  case rightful_iff =>
    constructor
    · exact fun h u hu hsucceeds => (h u hu hsucceeds).1
    · exact hs.uses_rightful
  case fits_home_iff => exact fun hhome t ht => hs.fits_home_iff hhome ht

/-- Two clients, side by side. -/
def twoRoots : Bool → Class
  | false => { name := .topLevel ["generated"] "Books", kind := .client }
  | true => { name := .topLevel ["generated"] "Films", kind := .client }

/-- With the handle of a component of the one stack, although another one was opened above it, the
component of the other stack is closed. -/
theorem closed_across_stacks :
    ¬ ∀ calls, ∀ u ∈ (run twoRoots calls).uses, u.Succeeds → u.Rightful := by
  intro h
  have hused := h [.openChild false { identifier := ⟨"shelves"⟩ },
    .openChild false { identifier := ⟨"list"⟩ },
    .openChild true { identifier := ⟨"reels"⟩ }, .close false 0 true]
    ⟨⟨false, 0, 1, ⟨["generated"], ["Books"], "Shelves"⟩⟩, true, some 0, .ok ()⟩
    (List.mem_singleton.mpr rfl) rfl
  have hhome : true = false := hused.1
  cases hhome

/-- A handle whose component was closed like that is left over. It closes, on its own stack, another
component. -/
example :
    ((run twoRoots [.openChild false { identifier := ⟨"shelves"⟩ },
        .openChild true { identifier := ⟨"reels"⟩ }, .close false 0 true,
        .openChild true { identifier := ⟨"tapes"⟩ }, .close true 0 true]).uses.map fun u =>
          (u.ticket.component, u.place, u.innermost, u.result.isOk)) =
      [((false, 0), true, some 0, true), ((true, 0), true, some 1, true)] := rfl

end Stacks

end ClientGen.Component
