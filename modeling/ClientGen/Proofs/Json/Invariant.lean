import ClientGen.Json.Record

/-!
# What holds of everything that is read

A map that is read has its keys in order, and what holds of every value that its reader gives holds
of its values: `readMap_ok`. A record that is read starts from its defaults and takes in one field
after the other, so what the defaults have and every field keeps, the record has: `read_invariant`.
-/

namespace ClientGen

namespace Json

variable {α β : Type}

/-! ## Steps that succeed -/

theorem Reading.bind_eq_ok {x : Reading α} {f : α → Reading β} {b : β} :
    (x >>= f) = .ok b ↔ ∃ a, x = .ok a ∧ f a = .ok b := by
  cases x with
  | error e =>
    constructor
    · intro h
      cases h
    · rintro ⟨a, h, -⟩
      cases h
  | ok a =>
    constructor
    · intro h
      exact ⟨a, rfl, h⟩
    · rintro ⟨a', h, hb⟩
      cases h
      exact hb

theorem Reading.pure_eq_ok {a b : α} : (pure a : Reading α) = .ok b ↔ a = b :=
  ⟨fun h => Except.ok.inj h, fun h => congrArg _ h⟩

/-- A value that is read and then stored. -/
theorem Reading.stored_eq_ok {x : Reading α} {f : α → β} {b : β} :
    (x >>= fun a => pure (f a)) = .ok b ↔ ∃ a, x = .ok a ∧ f a = b := by
  rw [Reading.bind_eq_ok]
  simp only [Reading.pure_eq_ok]

/-- What comes after a check counts if the check lets it pass. -/
theorem Reading.ok_of_check {c : Prop} [Decidable c] {failure : Failure} {f : Unit → Reading α}
    {a : α} (h : (if c then throw failure >>= f else f ()) = .ok a) : f () = .ok a := by
  split at h
  · cases h
  · exact h

/-- Whatever was read for a list of items, was read for one of them. -/
theorem mem_of_mapM_ok {f : α → Reading β} {l : List α} {values : List β}
    (h : l.mapM f = .ok values) : ∀ b ∈ values, ∃ a ∈ l, f a = .ok b := by
  induction l generalizing values with
  | nil =>
    rw [List.mapM_nil, Reading.pure_eq_ok] at h
    subst h
    intro b hb
    cases hb
  | cons a rest ih =>
    rw [List.mapM_cons] at h
    obtain ⟨first, hfirst, h⟩ := Reading.bind_eq_ok.1 h
    obtain ⟨others, hothers, h⟩ := Reading.bind_eq_ok.1 h
    rw [Reading.pure_eq_ok] at h
    subst h
    intro b hb
    rcases List.mem_cons.1 hb with rfl | hb
    · exact ⟨a, List.mem_cons_self, hfirst⟩
    · obtain ⟨a', ha', hb⟩ := ih hothers b hb
      exact ⟨a', List.mem_cons_of_mem _ ha', hb⟩

theorem refuse_ne_ok (wanted : String) (json : Json) (a : α) : refuse wanted json ≠ .ok a := by
  intro h
  unfold refuse at h
  split at h <;> cases h

/-! ## Options and maps -/

/-- A value that may be `null` was read by its reader, if it is there. -/
theorem readOptional_ok {read : Json → Reading α} {json : Json} {a : α}
    (h : readOptional read json = .ok (some a)) : ∃ json, read json = .ok a := by
  unfold readOptional at h
  split at h
  · cases h
  · refine ⟨json, ?_⟩
    cases hread : read json with
    | error e => rw [hread] at h; cases h
    | ok b => rw [hread] at h; cases h; rfl

end Json

/-- The entries of a map made of a list are entries of the list. -/
theorem Keyed.mem_of_mem_ofList {α : Type} {entries : List (String × α)} {e : String × α}
    (h : e ∈ Keyed.ofList entries) : e ∈ entries := by
  suffices ∀ m : Keyed α, e ∈ entries.foldl (fun m (x : String × α) => Keyed.insert x.1 x.2 m) m →
      e ∈ m ∨ e ∈ entries from (this [] h).resolve_left List.not_mem_nil
  clear h
  induction entries with
  | nil => exact fun m h => .inl h
  | cons x rest ih =>
    intro m h
    rcases ih _ h with h | h
    · rcases Keyed.mem_insert h with rfl | h
      · exact .inr List.mem_cons_self
      · exact .inl h
    · exact .inr (List.mem_cons_of_mem _ h)

namespace Json

variable {α : Type}

/-- A map that is read has its keys in order, and its values come from the reader. -/
theorem readMap_ok {levels : Nat} {read : Json → Reading α} {json : Json} {m : Keyed α}
    (h : readMap levels read json = .ok m) :
    m.Ordered ∧ ∀ e ∈ m, ∃ json, read json = .ok e.2 := by
  unfold readMap at h
  split at h
  · replace h := Reading.ok_of_check h
    obtain ⟨entries, hentries, h⟩ := Reading.bind_eq_ok.1 h
    obtain ⟨-, -, h⟩ := Reading.bind_eq_ok.1 h
    rw [Reading.pure_eq_ok] at h
    subst h
    refine ⟨Keyed.ordered_ofList entries, ?_⟩
    intro e he
    obtain ⟨⟨key, json⟩, -, hentry⟩ := mem_of_mapM_ok hentries e (Keyed.mem_of_mem_ofList he)
    obtain ⟨name, -, hentry⟩ := Reading.bind_eq_ok.1 hentry
    obtain ⟨value, hvalue, hentry⟩ := Reading.bind_eq_ok.1 hentry
    rw [Reading.pure_eq_ok] at hentry
    subst hentry
    exact ⟨json, hvalue⟩
  · exact absurd h (refuse_ne_ok _ _ _)

/-! ## Records -/

namespace RecordKind

variable {kind : RecordKind α} {P : α → Prop}

/-- Every field that is stored keeps the property of records. -/
def Keeps (kind : RecordKind α) (P : α → Prop) : Prop :=
  ∀ key json a b, kind.store key json a = .ok b → P a → P b

theorem takeMember_invariant (hkeeps : kind.Keeps P) {state next : List String × α}
    {member : Except Break String × Json} (h : kind.takeMember state member = .ok next)
    (hstate : P state.2) : P next.2 := by
  obtain ⟨seen, record⟩ := state
  obtain ⟨key, -, h⟩ := Reading.bind_eq_ok.1 h
  split at h
  · replace h := Reading.ok_of_check h
    obtain ⟨stored, hstored, h⟩ := Reading.bind_eq_ok.1 h
    rw [Reading.pure_eq_ok] at h
    subst h
    exact hkeeps _ _ _ _ hstored hstate
  · obtain ⟨-, -, h⟩ := Reading.bind_eq_ok.1 h
    rw [Reading.pure_eq_ok] at h
    subst h
    exact hstate

theorem takeMembers_invariant (hkeeps : kind.Keeps P) {state last : List String × α}
    {members : List (Except Break String × Json)}
    (h : members.foldlM kind.takeMember state = .ok last) (hstate : P state.2) : P last.2 := by
  induction members generalizing state with
  | nil =>
    rw [List.foldlM_nil, Reading.pure_eq_ok] at h
    exact h ▸ hstate
  | cons member rest ih =>
    rw [List.foldlM_cons] at h
    obtain ⟨next, hnext, h⟩ := Reading.bind_eq_ok.1 h
    exact ih h (takeMember_invariant hkeeps hnext hstate)

theorem takeItems_invariant (hkeeps : kind.Keeps P) {broken : Option Fault} {keys : List String} :
    ∀ {items : List Json} {record a : α} {position : Nat},
      kind.takeItems broken record position keys items = .ok a → P record → P a := by
  induction keys with
  | nil =>
    intro items record a position h hrecord
    cases items with
    | nil =>
      obtain ⟨-, -, h⟩ := Reading.bind_eq_ok.1 h
      rw [Reading.pure_eq_ok] at h
      exact h ▸ hrecord
    | cons item rest => cases h
  | cons key keys ih =>
    intro items record a position h hrecord
    cases items with
    | nil =>
      obtain ⟨-, -, h⟩ := Reading.bind_eq_ok.1 h
      exact ih (Reading.ok_of_check h) hrecord
    | cons item rest =>
      obtain ⟨stored, hstored, h⟩ := Reading.bind_eq_ok.1 h
      exact ih h (hkeeps _ _ _ _ hstored hrecord)

/-- What the defaults have and every field keeps, a record has that is read. -/
theorem read_invariant (hkeeps : kind.Keeps P) {levels : Nat} {empty a : α} (hempty : P empty)
    {json : Json} (h : kind.read levels empty json = .ok a) : P a := by
  unfold read at h
  split at h
  · replace h := Reading.ok_of_check h
    obtain ⟨⟨seen, record⟩, hrecord, h⟩ := Reading.bind_eq_ok.1 h
    obtain ⟨-, -, h⟩ := Reading.bind_eq_ok.1 h
    have hlast := takeMembers_invariant hkeeps hrecord hempty
    split at h
    · cases h
    · rw [Reading.pure_eq_ok] at h
      exact h ▸ hlast
  · exact takeItems_invariant hkeeps (Reading.ok_of_check h) hempty
  · exact absurd h (refuse_ne_ok _ _ _)

end RecordKind

end Json

end ClientGen
