/-!
# Maps with text keys

A finite map from text to values, held as its entries in the order of their keys. The order of text
is that of its code points, which is also the order of its UTF-8 bytes. Entering a key that is
already there replaces its value, so of several entries with one key the last one counts.
-/

namespace ClientGen

/-- The entries of a map, each with its key. -/
abbrev Keyed (α : Type) := List (String × α)

namespace Keyed

variable {α : Type}

/-! ## Operations -/

/-- The keys, in order. -/
def keys (m : Keyed α) : List String :=
  m.map Prod.fst

/-- The value at a key. -/
def find? (m : Keyed α) (key : String) : Option α :=
  m.lookup key

/-- The map with `value` at `key`, in the place that its key has in the order. -/
def insert (key : String) (value : α) : Keyed α → Keyed α
  | [] => [(key, value)]
  | (k, v) :: rest =>
    if key < k then (key, value) :: (k, v) :: rest
    else if key = k then (key, value) :: rest
    else (k, v) :: insert key value rest

/-- The map without the entry at `key`. -/
def erase (key : String) (m : Keyed α) : Keyed α :=
  m.filter fun entry => entry.1 ≠ key

/-- The map of a list of entries. -/
def ofList (entries : List (String × α)) : Keyed α :=
  entries.foldl (fun m (key, value) => insert key value m) []

/-! ## The order of the keys -/

/-- The keys strictly increase. -/
def Ordered (m : Keyed α) : Prop :=
  m.Pairwise fun a b => a.1 < b.1

theorem mem_insert {key : String} {value : α} {m : Keyed α} {entry : String × α}
    (h : entry ∈ insert key value m) : entry = (key, value) ∨ entry ∈ m := by
  induction m with
  | nil => simpa [insert] using h
  | cons head rest ih =>
    obtain ⟨k, v⟩ := head
    simp only [insert] at h
    split at h
    · simpa using h
    · split at h
      · rcases List.mem_cons.1 h with h | h
        · exact .inl h
        · exact .inr (List.mem_cons_of_mem _ h)
      · rcases List.mem_cons.1 h with h | h
        · exact .inr (h ▸ List.mem_cons_self)
        · exact (ih h).imp_right (List.mem_cons_of_mem _)

theorem Ordered.insert {m : Keyed α} (h : m.Ordered) (key : String) (value : α) :
    (Keyed.insert key value m).Ordered := by
  induction m with
  | nil => simp [Keyed.insert, Ordered]
  | cons head rest ih =>
    obtain ⟨k, v⟩ := head
    obtain ⟨hk, hrest⟩ := List.pairwise_cons.1 h
    simp only [Keyed.insert]
    split
    case isTrue hlt =>
      refine List.pairwise_cons.2 ⟨fun e he => ?_, h⟩
      rcases List.mem_cons.1 he with rfl | he
      · exact hlt
      · exact String.lt_trans hlt (hk e he)
    case isFalse hlt =>
      split
      case isTrue heq => exact List.pairwise_cons.2 ⟨fun e he => heq ▸ hk e he, hrest⟩
      case isFalse hne =>
        refine List.pairwise_cons.2 ⟨fun e he => ?_, ih hrest⟩
        rcases mem_insert he with rfl | he
        · exact Std.lt_of_le_of_ne (String.not_lt.1 hlt) (Ne.symm hne)
        · exact hk e he

/-- Every map made of a list of entries has its keys in order. -/
theorem ordered_ofList (entries : List (String × α)) : (ofList entries).Ordered := by
  suffices ∀ m : Keyed α, m.Ordered →
      (entries.foldl (fun m (e : String × α) => insert e.1 e.2 m) m).Ordered from
    this [] List.Pairwise.nil
  induction entries with
  | nil => exact fun _ h => h
  | cons e rest ih => exact fun m h => ih _ (h.insert e.1 e.2)

end Keyed

end ClientGen
