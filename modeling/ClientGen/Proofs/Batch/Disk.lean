import ClientGen.Batch
import ClientGen.Files.Tree

/-!
# Reading from a disk

The outcome of a computation that works on files is a value or an error, and the state that it ends
in. A `Disk` is a place to work of which it is known what reading gives, and that neither reading
nor reporting changes it; the operations that write may do and refuse what they like. A computation
that only reads is known by what it gives for a disk, `Disk.Asks`: so are those that read a
document, `asks_load`, that run a traced computation, `asks_run`, and several of them one after the
other, `asks_mapM`.
-/

namespace ClientGen

/-! ## Disks -/

/-- A place to work, seen as a disk to read from. -/
structure Disk (σ δ : Type) [Files (StateM σ)] where
  view : σ → δ
  read : δ → String → Except FileFailure ByteArray
  readFile_fst : ∀ path s, ((Files.readFile path : StateM σ _).run s).1 = read (view s) path
  view_readFile : ∀ path s, view ((Files.readFile path : StateM σ _).run s).2 = view s
  view_report : ∀ e s, view ((Files.report e : StateM σ _).run s).2 = view s

/-- A tree of files, seen as a disk. -/
def OnTree.disk : Disk Workspace FileNode where
  view := Workspace.root
  read := FileNode.readFile
  readFile_fst _ _ := rfl
  view_readFile _ _ := rfl
  view_report _ _ := rfl

namespace Batch

/-! ## Outcomes -/

variable {σ α β : Type}

/-- What a computation gives, and the state that it ends in. -/
def outcome (x : ExceptT Error (StateM σ) α) (s : σ) : Except Error α × σ :=
  x.run.run s

theorem outcome_bind (x : ExceptT Error (StateM σ) α) (f : α → ExceptT Error (StateM σ) β)
    (s : σ) :
    outcome (x >>= f) s =
      match outcome x s with
      | (.ok a, s') => outcome (f a) s'
      | (.error e, s') => (.error e, s') := by
  have hrun : outcome (x >>= f) s =
      (ExceptT.bindCont f (outcome x s).1).run (outcome x s).2 := rfl
  rw [hrun]
  obtain ⟨e | a, s'⟩ := outcome x s <;> rfl

theorem outcome_adapt (f : Error → Error) (x : ExceptT Error (StateM σ) α) (s : σ) :
    outcome (ExceptT.adapt f x) s = ((outcome x s).1.mapError f, (outcome x s).2) := rfl

theorem outcome_orFail (wrap : FileFailure → Error) (x : StateM σ (Except FileFailure α)) (s : σ) :
    outcome (Files.orFail wrap x) s = ((x.run s).1.mapError wrap, (x.run s).2) := by
  have hlift : outcome (liftM x : ExceptT Error (StateM σ) _) s = (.ok (x.run s).1, (x.run s).2) :=
    rfl
  unfold Files.orFail
  rw [outcome_bind, hlift]
  obtain ⟨failure | a, s'⟩ := x.run s <;> rfl

end Batch

/-! ## Reading only -/

open Batch

variable {σ δ α β : Type} [Files (StateM σ)] {D : Disk σ δ}

/-- The computation gives what the function gives for the disk, and leaves the disk alone. -/
def Disk.Asks (D : Disk σ δ) (x : ExceptT Error (StateM σ) α) (given : δ → Except Error α) : Prop :=
  ∀ s, (outcome x s).1 = given (D.view s) ∧ D.view (outcome x s).2 = D.view s

namespace Disk

theorem asks_pure (a : α) : D.Asks (pure a) fun _ => .ok a :=
  fun _ => ⟨rfl, rfl⟩

theorem asks_throw (e : Error) : D.Asks (throw e : ExceptT Error (StateM σ) α) fun _ => .error e :=
  fun _ => ⟨rfl, rfl⟩

theorem Asks.bind {x : ExceptT Error (StateM σ) α} {given : δ → Except Error α}
    {f : α → ExceptT Error (StateM σ) β} {next : α → δ → Except Error β} (hx : D.Asks x given)
    (hf : ∀ a, D.Asks (f a) (next a)) :
    D.Asks (x >>= f) fun d => given d >>= fun a => next a d := by
  intro s
  obtain ⟨hgiven, hview⟩ := hx s
  rw [outcome_bind]
  show _ = (given (D.view s) >>= fun a => next a (D.view s)) ∧ _
  rw [← hgiven]
  generalize outcome x s = reached at hview
  obtain ⟨e | a, s'⟩ := reached
  · exact ⟨rfl, hview⟩
  · have hview : D.view s' = D.view s := hview
    rw [← hview]
    exact hf a s'

theorem Asks.adapt {x : ExceptT Error (StateM σ) α} {given : δ → Except Error α}
    (hx : D.Asks x given) (f : Error → Error) :
    D.Asks (ExceptT.adapt f x) fun d => (given d).mapError f := by
  intro s
  rw [outcome_adapt, (hx s).1]
  exact ⟨rfl, (hx s).2⟩

theorem asks_note (e : Event) : D.Asks (Files.note e) fun _ => .ok () :=
  fun s => ⟨rfl, D.view_report e s⟩

theorem asks_notes (events : List Event) :
    D.Asks (events.forM (Files.note (m := StateM σ))) fun _ => .ok () := by
  induction events with
  | nil => exact asks_pure ()
  | cons e rest ih => exact (asks_note e).bind fun _ => ih

/-- A traced computation is asked for its result. -/
theorem asks_run (x : Traced α) : D.Asks x.run fun _ => x.result := by
  obtain ⟨events, e | a⟩ := x
  · exact (asks_notes events).bind fun _ => asks_throw e
  · exact (asks_notes events).bind fun _ => asks_pure a

theorem asks_mapM {γ : Type} {f : γ → ExceptT Error (StateM σ) α} {given : γ → δ → Except Error α}
    (hf : ∀ c, D.Asks (f c) (given c)) (l : List γ) :
    D.Asks (l.mapM f) fun d => l.mapM (given · d) := by
  induction l with
  | nil =>
    simp only [List.mapM_nil]
    exact asks_pure []
  | cons c rest ih =>
    simp only [List.mapM_cons]
    exact (hf c).bind fun a => ih.bind fun as => asks_pure (a :: as)

/-! ### Documents -/

/-- The text that bytes are, if they are text. -/
def decode (bytes : ByteArray) : Except Error String :=
  match String.fromUTF8? bytes with
  | some text => .ok text
  | none => .error (.io .invalidText)

theorem asks_readText (path : String) :
    D.Asks (Files.readText path) fun d => (D.read d path).mapError .io >>= decode := by
  have hread : D.Asks (Files.orFail .io (Files.readFile path)) fun d =>
      (D.read d path).mapError .io := by
    intro s
    rw [outcome_orFail, D.readFile_fst]
    exact ⟨rfl, D.view_readFile path s⟩
  refine hread.bind fun bytes => ?_
  unfold decode
  cases String.fromUTF8? bytes with
  | some text => exact asks_pure text
  | none => exact asks_throw _

theorem asks_load (path : String) :
    D.Asks (load path) fun d => (D.read d path).mapError .io >>= decode >>= parse := by
  refine (asks_readText path).bind fun text => ?_
  cases parse text with
  | ok d => exact asks_pure d
  | error e => exact asks_throw e

end Disk

end ClientGen
