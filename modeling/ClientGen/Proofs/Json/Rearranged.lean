import ClientGen.Proofs.Json.Invariant
import Mathlib.Data.List.Perm.Basic

/-!
# Documents that say the same

The members of an object come in some order, and a record skips those that it does not know. Neither
should count. A `Grammar` says which records a document is made of, with the keys of each and what
stands at them, and `Rearranged` relates two documents if one becomes the other by reordering the
members of objects, anywhere, and by adding and dropping unknown members of records. A reader that
`Respects` a format gives the same on both.

* `same_iff` — whether two documents are equal can be decided.
* `respects_readString`, `respects_readList`, … — the readers of plain values, lists and options.
* `respects_readMap` — a map has its keys in an order of its own, so if no key comes twice the order
  in which they come does not matter.
* `RecordKind.respects_read` — neither does it for a record whose fields are stored independently.
-/

namespace ClientGen

/-! ## Maps -/

namespace Keyed

variable {α : Type}

/-- A new key is added, and no entry is dropped. -/
theorem perm_insert {key : String} {value : α} {m : Keyed α} (h : key ∉ m.keys) :
    (insert key value m).Perm ((key, value) :: m) := by
  induction m with
  | nil => exact List.Perm.refl _
  | cons head rest ih =>
    obtain ⟨k, v⟩ := head
    have hk : key ≠ k := fun heq => h (heq ▸ List.mem_cons_self)
    have hrest : key ∉ Keyed.keys rest := fun hmem => h (List.mem_cons_of_mem _ hmem)
    rw [insert]
    by_cases hlt : key < k
    · rw [if_pos hlt]
    · rw [if_neg hlt, if_neg hk]
      exact ((ih hrest).cons _).trans (List.Perm.swap _ _ _)

/-- The map of entries with different keys holds just these. -/
theorem perm_ofList {entries : List (String × α)} (h : (entries.map Prod.fst).Nodup) :
    (ofList entries).Perm entries := by
  suffices ∀ m : Keyed α, (m.keys ++ entries.map Prod.fst).Nodup →
      (entries.foldl (fun m (e : String × α) => insert e.1 e.2 m) m).Perm (m ++ entries) from
    this [] h
  clear h
  induction entries with
  | nil =>
    intro m _
    rw [List.append_nil]
    exact List.Perm.refl _
  | cons e rest ih =>
    intro m h
    have hfresh : e.1 ∉ m.keys := by
      intro hmem
      exact (List.nodup_append.1 h).2.2 _ hmem _ List.mem_cons_self rfl
    have hinsert := @perm_insert _ _ e.2 _ hfresh
    have hkeys : ((insert e.1 e.2 m).keys ++ rest.map Prod.fst).Perm
        (m.keys ++ (e :: rest).map Prod.fst) :=
      ((hinsert.map Prod.fst).append_right _).trans List.perm_middle.symm
    exact (ih _ (hkeys.nodup_iff.2 h)).trans
      ((hinsert.append_right rest).trans List.perm_middle.symm)

/-- Entries with different keys make the same map in every order. -/
theorem ofList_eq_of_perm {entries others : List (String × α)} (h : entries.Perm others)
    (hkeys : (entries.map Prod.fst).Nodup) : ofList entries = ofList others := by
  have hothers : (others.map Prod.fst).Nodup := (h.map Prod.fst).nodup_iff.1 hkeys
  have hperm := (perm_ofList hkeys).trans (h.trans (perm_ofList hothers).symm)
  refine hperm.eq_of_pairwise ?_ (ordered_ofList entries) (ordered_ofList others)
  intro a b _ _ hab hba
  exact absurd (String.lt_trans hab hba) (String.lt_irrefl _)

end Keyed

namespace Json

/-! ## Equality of documents -/

deriving instance DecidableEq for Exponent

deriving instance DecidableEq for Numeral

mutual

/-- Whether two trees are the same. -/
def same : Json → Json → Bool
  | .null, .null => true
  | .bool a, .bool b => a = b
  | .number a, .number b => a = b
  | .text a, .text b => a = b
  | .array items broken, .array items' broken' => sameItems items items' && broken = broken'
  | .object members broken, .object members' broken' =>
    sameMembers members members' && broken = broken'
  | .fault a, .fault b => a = b
  | _, _ => false

/-- Whether two lists of items are the same. -/
def sameItems : List Json → List Json → Bool
  | [], [] => true
  | a :: rest, b :: rest' => same a b && sameItems rest rest'
  | _, _ => false

/-- Whether two lists of members are the same. -/
def sameMembers :
    List (Except Break String × Json) → List (Except Break String × Json) → Bool
  | [], [] => true
  | (key, a) :: rest, (key', b) :: rest' => key = key' && same a b && sameMembers rest rest'
  | _, _ => false

end

theorem same_iff (a b : Json) : same a b = true ↔ a = b := by
  induction a, b using same.induct
    (motive_2 := fun members others => sameMembers members others = true ↔ members = others)
    (motive_3 := fun items others => sameItems items others = true ↔ items = others) with
  -- two trees, two lists of items or two lists of members that begin in different ways
  | case8 a b => cases a <;> cases b <;> grind [same]
  | case11 items others => cases items <;> cases others <;> grind [sameItems]
  | case14 members others => cases members <;> cases others <;> grind [sameMembers]
  | _ => simp_all [same, sameItems, sameMembers]

instance : DecidableEq Json := fun a b => decidable_of_iff _ (same_iff a b)

deriving instance DecidableEq for Document

/-! ## Documents without repeated keys -/

/-- The keys that can be read. -/
def keysOf (members : List (Except Break String × Json)) : List String :=
  members.filterMap (·.1.toOption)

mutual

/-- No object anywhere in the document has a key twice. -/
def DistinctKeys : Json → Prop
  | .array items _ => DistinctInItems items
  | .object members _ => (keysOf members).Nodup ∧ DistinctInMembers members
  | _ => True

/-- No object anywhere in the items has a key twice. -/
def DistinctInItems : List Json → Prop
  | [] => True
  | item :: rest => DistinctKeys item ∧ DistinctInItems rest

/-- No object anywhere in the values of the members has a key twice. -/
def DistinctInMembers : List (Except Break String × Json) → Prop
  | [] => True
  | (_, value) :: rest => DistinctKeys value ∧ DistinctInMembers rest

end

theorem distinctKeys_array {items : List Json} {broken : Option Fault} :
    DistinctKeys (.array items broken) ↔ ∀ item ∈ items, item.DistinctKeys := by
  rw [DistinctKeys]
  induction items with
  | nil => simp [DistinctInItems]
  | cons item rest ih => simp [DistinctInItems, ih]

theorem distinctKeys_object {members : List (Except Break String × Json)}
    {broken : Option Fault} :
    DistinctKeys (.object members broken) ↔
      (keysOf members).Nodup ∧ ∀ m ∈ members, m.2.DistinctKeys := by
  have hbelow : DistinctInMembers members ↔ ∀ m ∈ members, m.2.DistinctKeys := by
    induction members with
    | nil => simp [DistinctInMembers]
    | cons m rest ih => rw [DistinctInMembers, ih, List.forall_mem_cons]
  rw [DistinctKeys, hbelow]

/-! ## Formats -/

/-- What is expected at a place in a document, if its records are named by `R`. -/
inductive Format (R : Type)
  /-- No records: neither there nor below. -/
  | plain
  | record (r : R)
  /-- A map whose values are records. -/
  | map (r : R)

/-- What the records of a document are made of. -/
structure Grammar (R : Type) where
  keys : R → List String
  field : R → String → Format R

variable {R : Type} {g : Grammar R}

namespace Grammar

/-- What is expected at a key that a record knows; nothing is, at other keys. -/
def known (g : Grammar R) (r : R) (key : String) : Format R :=
  if key ∈ g.keys r then g.field r key else .plain

/-- What is expected at a member of an object. -/
def member (g : Grammar R) : Format R → Except Break String → Format R
  | .record r, .ok key => g.known r key
  | .map r, _ => .record r
  | _, _ => .plain

/-- What is expected at a place in an array: records may be written as arrays of their fields. -/
def item (g : Grammar R) : Format R → Nat → Format R
  | .record r, i => ((g.keys r)[i]?).elim .plain (g.field r)
  | _, _ => .plain

/-- The member has a key that the record expected there does not know, and its value is whole. -/
def Ignores (g : Grammar R) (f : Format R) (m : Except Break String × Json) : Prop :=
  ∃ r key, f = .record r ∧ m.1 = .ok key ∧ key ∉ g.keys r ∧ m.2.skipBreak? = none

end Grammar

/-- One document becomes the other, where `f` is expected, by reordering the members of objects and
by adding and dropping members that their records do not know. A member that is `kept` is given by
its key and its values in both. -/
inductive Rearranged (g : Grammar R) : Format R → Json → Json → Prop
  | same (f : Format R) (j : Json) : Rearranged g f j j
  | array {f : Format R} {items items' : List Json} (hlength : items.length = items'.length)
    (hitems : ∀ i x y, items[i]? = some x → items'[i]? = some y → Rearranged g (g.item f i) x y) :
    Rearranged g f (.array items none) (.array items' none)
  | object {f : Format R} {members members' : List (Except Break String × Json)}
    (kept : List (Except Break String × Json × Json))
    (dropped added : List (Except Break String × Json))
    (hmembers : members.Perm (kept.map (fun k => (k.1, k.2.1)) ++ dropped))
    (hmembers' : members'.Perm (kept.map (fun k => (k.1, k.2.2)) ++ added))
    (hkept : ∀ k ∈ kept, Rearranged g (g.member f k.1) k.2.1 k.2.2)
    (hdropped : ∀ m ∈ dropped, g.Ignores f m) (hadded : ∀ m ∈ added, g.Ignores f m) :
    Rearranged g f (.object members none) (.object members' none)

theorem Rearranged.symm {f : Format R} {j j' : Json} (h : Rearranged g f j j') :
    Rearranged g f j' j := by
  induction h with
  | same f j => exact .same f j
  | array hlength _ ih => exact .array hlength.symm fun i x y hx hy => ih i y x hy hx
  | object kept dropped added hmembers hmembers' _ hdropped hadded ih =>
    have hswap : ∀ side : Except Break String × Json × Json → Except Break String × Json,
        (kept.map fun k => (k.1, k.2.2, k.2.1)).map side =
          kept.map fun k => side (k.1, k.2.2, k.2.1) := fun _ => List.map_map
    refine .object (kept.map fun k => (k.1, k.2.2, k.2.1)) added dropped ?_ ?_ ?_ hadded hdropped
    · rwa [hswap]
    · rwa [hswap]
    · intro k hk
      obtain ⟨k, hmem, rfl⟩ := List.mem_map.1 hk
      exact ih k hmem

/-! ## Readers -/

/-- The reader gives the same for every two documents that say the same. -/
def Respects {α : Type} (g : Grammar R) (f : Format R) (read : Json → Reading α) : Prop :=
  ∀ j j', Rearranged g f j j' → j.DistinctKeys → j'.DistinctKeys →
    ∀ a, read j = .ok a → read j' = .ok a

variable {f : Format R} {α β : Type}

theorem respects_readString : Respects g f readString := by
  intro j j' h _ _ a ha
  cases h with
  | same => exact ha
  | array | object => cases ha

theorem respects_readBool : Respects g f readBool := by
  intro j j' h _ _ a ha
  cases h with
  | same => exact ha
  | array | object => cases ha

theorem respects_error (failure : Failure) :
    Respects g f (fun _ => .error failure : Json → Reading α) := by
  intro j j' _ _ _ a ha
  cases ha

theorem Respects.optional {read : Json → Reading α} (h : Respects g f read) :
    Respects g f (readOptional read) := by
  intro j j' hj hd hd' a ha
  have hmap : ∀ {j j'}, Rearranged g f j j' → j.DistinctKeys → j'.DistinctKeys →
      (read j).map some = .ok a → (read j').map some = .ok a := by
    intro j j' hj hd hd' ha
    cases hread : read j with
    | error e => rw [hread] at ha; cases ha
    | ok b => rw [h j j' hj hd hd' b hread, ← ha, hread]
  cases hj with
  | same => exact ha
  | array hlength hitems => exact hmap (.array hlength hitems) hd hd' ha
  | object kept dropped added hm hm' hkept hdropped hadded =>
    exact hmap (.object kept dropped added hm hm' hkept hdropped hadded) hd hd' ha

/-- What is stored after it was read. -/
theorem Respects.stored {read : Json → Reading α} (h : Respects g f read) (set : α → β) :
    Respects g f (fun j => do return set (← read j)) := by
  intro j j' hj hd hd' b hb
  obtain ⟨a, ha, rfl⟩ := Reading.stored_eq_ok.1 hb
  exact Reading.stored_eq_ok.2 ⟨a, h j j' hj hd hd' a ha, rfl⟩

/-! ## Lists -/

theorem mapM_eq_ok_iff {f : α → Reading β} {l : List α} {values : List β} :
    l.mapM f = .ok values ↔ List.Forall₂ (fun a b => f a = .ok b) l values := by
  induction l generalizing values with
  | nil =>
    rw [List.mapM_nil, Reading.pure_eq_ok, List.forall₂_nil_left_iff]
    exact eq_comm
  | cons a rest ih =>
    rw [List.mapM_cons, Reading.bind_eq_ok]
    constructor
    · rintro ⟨b, hb, h⟩
      obtain ⟨others, hothers, rfl⟩ := Reading.stored_eq_ok.1 h
      exact .cons hb (ih.1 hothers)
    · intro h
      obtain ⟨b, others, hb, hothers, rfl⟩ := List.forall₂_cons_left_iff.1 h
      exact ⟨b, hb, Reading.stored_eq_ok.2 ⟨others, ih.2 hothers, rfl⟩⟩

/-- Items at the same places give the same list, if each gives the same value. -/
theorem mapM_eq_ok_of_items {read : Json → Reading α} {items items' : List Json} {values : List α}
    (hlength : items.length = items'.length)
    (h : ∀ (i : Nat) x y, items[i]? = some x → items'[i]? = some y →
      ∀ a, read x = .ok a → read y = .ok a)
    (hvalues : items.mapM read = .ok values) : items'.mapM read = .ok values := by
  rw [mapM_eq_ok_iff] at hvalues ⊢
  induction hvalues generalizing items' with
  | nil =>
    rw [List.eq_nil_of_length_eq_zero hlength.symm]
    exact .nil
  | cons hfirst _ ih =>
    cases items' with
    | nil => cases hlength
    | cons y rest =>
      refine .cons (h 0 _ y rfl rfl _ hfirst) (ih (Nat.succ.inj hlength) ?_)
      exact fun i x y hx hy => h (i + 1) x y hx hy

/-- What comes after a check counts if, and only if, the check lets it pass. -/
theorem Reading.unless_eq_ok {c : Prop} [Decidable c] {failure : Failure} {f : Unit → Reading α}
    {a : α} : (if c then throw failure >>= f else f ()) = .ok a ↔ ¬c ∧ f () = .ok a := by
  by_cases h : c
  · rw [if_pos h]
    constructor
    · intro hthrown
      cases hthrown
    · exact fun hnot => absurd h hnot.1
  · rw [if_neg h]
    exact (and_iff_right h).symm

theorem readList_array_eq_ok {levels : Nat} {read : Json → Reading α} {items : List Json}
    {values : List α} :
    readList levels read (.array items none) = .ok values ↔
      levels ≠ 0 ∧ items.mapM read = .ok values := by
  rw [readList]
  refine Reading.unless_eq_ok.trans (and_congr_right fun _ => ?_)
  cases items.mapM read <;> rfl

/-- A list of plain values is read from what says the same. -/
theorem respects_readList {levels : Nat} {read : Json → Reading α} (h : Respects g .plain read) :
    Respects g .plain (readList levels read) := by
  intro j j' hj hd hd' values hvalues
  cases hj with
  | same => exact hvalues
  | object => cases hvalues
  | array hlength hitems =>
    rw [readList_array_eq_ok] at hvalues ⊢
    refine ⟨hvalues.1, mapM_eq_ok_of_items hlength (fun i x y hx hy => ?_) hvalues.2⟩
    have hdx := distinctKeys_array.1 hd x (List.mem_of_getElem? hx)
    have hdy := distinctKeys_array.1 hd' y (List.mem_of_getElem? hy)
    exact h x y (hitems i x y hx hy) hdx hdy

/-! ## Maps -/

/-- Reads a member of a map. -/
def readMember (read : Json → Reading α) (m : Except Break String × Json) :
    Reading (String × α) := do
  return (← Reading.ofText m.1, ← read m.2)

theorem readMember_eq_ok {read : Json → Reading α} {m : Except Break String × Json}
    {e : String × α} : readMember read m = .ok e ↔ m.1 = .ok e.1 ∧ read m.2 = .ok e.2 := by
  obtain ⟨trouble | key, value⟩ := m
  · constructor
    · intro h
      cases h
    · intro h
      cases h.1
  · obtain ⟨name, a⟩ := e
    rw [readMember, Reading.bind_eq_ok]
    constructor
    · rintro ⟨_, hname, h⟩
      obtain ⟨_, hread, heq⟩ := Reading.stored_eq_ok.1 h
      cases hname
      cases heq
      exact ⟨rfl, hread⟩
    · rintro ⟨hname, hread⟩
      cases hname
      exact ⟨name, rfl, Reading.stored_eq_ok.2 ⟨a, hread, rfl⟩⟩

theorem readMap_object_eq_ok {levels : Nat} {read : Json → Reading α}
    {members : List (Except Break String × Json)} {m : Keyed α} :
    readMap levels read (.object members none) = .ok m ↔
      levels ≠ 0 ∧ ∃ entries, List.Forall₂ (fun m e => readMember read m = .ok e) members entries ∧
        Keyed.ofList entries = m := by
  rw [readMap]
  refine Reading.unless_eq_ok.trans (and_congr_right fun _ => ?_)
  rw [Reading.bind_eq_ok]
  refine exists_congr fun entries => ?_
  rw [← mapM_eq_ok_iff]
  exact and_congr_right fun _ => Reading.pure_eq_ok

/-- The keys of members that could all be read. -/
theorem keysOf_eq_of_forall₂ {read : Json → Reading α}
    {members : List (Except Break String × Json)} {entries : List (String × α)}
    (h : List.Forall₂ (fun m e => readMember read m = .ok e) members entries) :
    keysOf members = entries.map Prod.fst := by
  induction h with
  | nil => rfl
  | cons hfirst _ ih =>
    have hkey := (readMember_eq_ok.1 hfirst).1
    rw [keysOf, List.filterMap_cons, hkey]
    exact congrArg _ ih

/-- A map is read from what says the same, if no key comes twice. -/
theorem respects_readMap {levels : Nat} {read : Json → Reading α} {r : R}
    (h : Respects g (.record r) read) : Respects g (.map r) (readMap levels read) := by
  intro j j' hj hd hd' m hm
  cases hj with
  | same => exact hm
  | array => cases hm
  | object kept dropped added hmembers hmembers' hkept hdropped hadded =>
    -- a map skips no members
    have hnone : ∀ l : List (Except Break String × Json), (∀ m ∈ l, g.Ignores (.map r) m) →
        l = [] := by
      intro l hl
      apply List.eq_nil_iff_forall_not_mem.2
      intro m hm
      obtain ⟨_, _, hf, -⟩ := hl m hm
      cases hf
    rw [hnone dropped hdropped, List.append_nil] at hmembers
    rw [hnone added hadded, List.append_nil] at hmembers'
    obtain ⟨hlevels, entries, hentries, rfl⟩ := readMap_object_eq_ok.1 hm
    obtain ⟨hkeys, hvalues⟩ := distinctKeys_object.1 hd
    obtain ⟨-, hvalues'⟩ := distinctKeys_object.1 hd'
    obtain ⟨first, hfirst, hperm⟩ := List.perm_comp_forall₂ hmembers.symm hentries
    -- each kept member gives the same entry before and after
    have hsame : ∀ k ∈ kept, ∀ e, readMember read (k.1, k.2.1) = .ok e →
        readMember read (k.1, k.2.2) = .ok e := by
      intro k hk e he
      obtain ⟨hkey, hread⟩ := readMember_eq_ok.1 he
      have hbefore := hvalues _ (hmembers.mem_iff.2 (List.mem_map_of_mem hk))
      have hafter := hvalues' _ (hmembers'.mem_iff.2 (List.mem_map_of_mem hk))
      exact readMember_eq_ok.2 ⟨hkey, h _ _ (hkept k hk) hbefore hafter e.2 hread⟩
    have hsecond : List.Forall₂ (fun m e => readMember read m = .ok e)
        (kept.map fun k => (k.1, k.2.2)) first := by
      rw [List.forall₂_map_left_iff] at hfirst ⊢
      exact ((List.forall₂_and_left _ _).2 ⟨hsame, hfirst⟩).imp fun k e hk => hk.1 e hk.2
    obtain ⟨entries', hentries', hperm'⟩ := List.perm_comp_forall₂ hmembers' hsecond
    refine readMap_object_eq_ok.2 ⟨hlevels, entries', hentries', ?_⟩
    refine (Keyed.ofList_eq_of_perm (hperm.symm.trans hperm'.symm) ?_).symm
    rwa [← keysOf_eq_of_forall₂ hentries]

/-! ## Skipping -/

theorem skipItems?_eq_none {items : List Json} :
    skipItems? items = none ↔ ∀ item ∈ items, item.skipBreak? = none := by
  induction items with
  | nil => simp [skipItems?]
  | cons item rest ih => rw [skipItems?, Option.or_eq_none_iff, ih, List.forall_mem_cons]

theorem skipMembers?_eq_none {members : List (Except Break String × Json)} :
    skipMembers? members = none ↔ ∀ m ∈ members, m.2.skipBreak? = none := by
  induction members with
  | nil => simp [skipMembers?]
  | cons m rest ih => rw [skipMembers?, Option.or_eq_none_iff, ih, List.forall_mem_cons]

theorem skipBreak?_array {items : List Json} :
    skipBreak? (.array items none) = none ↔ ∀ item ∈ items, item.skipBreak? = none := by
  rw [skipBreak?, Option.map_none, Option.or_none, skipItems?_eq_none]

theorem skipBreak?_object {members : List (Except Break String × Json)} :
    skipBreak? (.object members none) = none ↔ ∀ m ∈ members, m.2.skipBreak? = none := by
  rw [skipBreak?, Option.map_none, Option.or_none, skipMembers?_eq_none]

/-- What says the same as a whole value is whole. -/
theorem Rearranged.whole {j j' : Json} (h : Rearranged g f j j') (hj : j.skipBreak? = none) :
    j'.skipBreak? = none := by
  induction h with
  | same => exact hj
  | array hlength _ ih =>
    rw [skipBreak?_array] at hj ⊢
    intro y hy
    obtain ⟨i, hi, rfl⟩ := List.mem_iff_getElem.1 hy
    have hx := List.getElem?_eq_getElem (hlength ▸ hi)
    exact ih i _ _ hx (List.getElem?_eq_getElem hi) (hj _ (List.getElem_mem _))
  | object kept dropped added hmembers hmembers' _ _ hadded ih =>
    rw [skipBreak?_object] at hj ⊢
    intro m hm
    rcases List.mem_append.1 (hmembers'.mem_iff.1 hm) with hm | hm
    · obtain ⟨k, hk, rfl⟩ := List.mem_map.1 hm
      have hbefore : (k.1, k.2.1) ∈ kept.map (fun k => (k.1, k.2.1)) ++ dropped :=
        List.mem_append_left _ (List.mem_map_of_mem hk)
      exact ih k hk (hj _ (hmembers.mem_iff.2 hbefore))
    · obtain ⟨_, _, -, -, -, hwhole⟩ := hadded m hm
      exact hwhole

/-! ## Records -/

namespace RecordKind

variable {kind : RecordKind α}

/-- Fields with different keys can be stored in either order. -/
def Independent (kind : RecordKind α) : Prop :=
  ∀ key ∈ kind.keys, ∀ key' ∈ kind.keys, key ≠ key' → ∀ json json' a b c,
    kind.store key json a = .ok b → kind.store key' json' b = .ok c →
      ∃ b', kind.store key' json' a = .ok b' ∧ kind.store key json b' = .ok c

/-- All that one member of an object can do to a record. -/
theorem takeMember_eq_ok {state next : List String × α} {m : Except Break String × Json} :
    kind.takeMember state m = .ok next ↔ ∃ key, m.1 = .ok key ∧
      ((key ∈ kind.keys ∧ key ∉ state.1 ∧ next.1 = key :: state.1 ∧
          kind.store key m.2 state.2 = .ok next.2) ∨
        (key ∉ kind.keys ∧ m.2.skipBreak? = none ∧ next = state)) := by
  obtain ⟨seen, record⟩ := state
  obtain ⟨taken, result⟩ := next
  rw [takeMember, Reading.bind_eq_ok]
  refine exists_congr fun key => and_congr ?_ ?_
  · cases m.1 with
    | ok text =>
      constructor <;> intro h <;> cases h <;> rfl
    | error b =>
      constructor <;> intro h <;> cases h
  · by_cases hkey : key ∈ kind.keys
    · rw [if_pos hkey]
      refine Reading.unless_eq_ok.trans ?_
      rw [Reading.stored_eq_ok]
      constructor
      · rintro ⟨hfresh, stored, hstored, heq⟩
        cases heq
        exact .inl ⟨hkey, hfresh, rfl, hstored⟩
      · rintro (⟨-, hfresh, rfl, hstored⟩ | ⟨hunknown, -⟩)
        · exact ⟨hfresh, result, hstored, rfl⟩
        · exact absurd hkey hunknown
    · rw [if_neg hkey, Reading.bind_eq_ok]
      constructor
      · rintro ⟨_, hwhole, heq⟩
        cases heq
        refine .inr ⟨hkey, ?_, rfl⟩
        cases htrouble : m.2.skipBreak? with
        | none => rfl
        | some trouble => rw [htrouble] at hwhole; cases hwhole
      · rintro (⟨hknown, -⟩ | ⟨-, hwhole, heq⟩)
        · exact absurd hknown hkey
        · cases heq
          rw [hwhole]
          exact ⟨(), rfl, rfl⟩

/-- The same record, with the same fields taken, in whatever order. -/
def Alike (state state' : List String × α) : Prop :=
  state.1.Perm state'.1 ∧ state.2 = state'.2

theorem Alike.refl (state : List String × α) : Alike state state :=
  ⟨List.Perm.refl _, rfl⟩

theorem Alike.takeMember {state state' next : List String × α} {m : Except Break String × Json}
    (h : Alike state state') (hnext : kind.takeMember state m = .ok next) :
    ∃ next', kind.takeMember state' m = .ok next' ∧ Alike next next' := by
  obtain ⟨hseen, hrecord⟩ := h
  obtain ⟨key, hkey, ⟨hmem, hfresh, htaken, hstored⟩ | ⟨hmem, hwhole, rfl⟩⟩ :=
    takeMember_eq_ok.1 hnext
  · refine ⟨(key :: state'.1, next.2), takeMember_eq_ok.2 ⟨key, hkey, .inl ?_⟩, ?_, rfl⟩
    · exact ⟨hmem, fun h => hfresh (hseen.mem_iff.2 h), rfl, hrecord ▸ hstored⟩
    · rw [htaken]
      exact hseen.cons key
  · exact ⟨state', takeMember_eq_ok.2 ⟨key, hkey, .inr ⟨hmem, hwhole, rfl⟩⟩, hseen, hrecord⟩

theorem Alike.takeMembers {members : List (Except Break String × Json)} :
    ∀ {state state' next : List String × α}, Alike state state' →
      members.foldlM kind.takeMember state = .ok next →
        ∃ next', members.foldlM kind.takeMember state' = .ok next' ∧ Alike next next' := by
  induction members with
  | nil =>
    intro state state' next h hnext
    rw [List.foldlM_nil, Reading.pure_eq_ok] at hnext
    exact ⟨state', rfl, hnext ▸ h⟩
  | cons m rest ih =>
    intro state state' next h hnext
    rw [List.foldlM_cons] at hnext
    obtain ⟨first, hfirst, hnext⟩ := Reading.bind_eq_ok.1 hnext
    obtain ⟨first', hfirst', halike⟩ := h.takeMember hfirst
    obtain ⟨next', hnext', hlast⟩ := ih halike hnext
    refine ⟨next', ?_, hlast⟩
    rw [List.foldlM_cons]
    exact Reading.bind_eq_ok.2 ⟨first', hfirst', hnext'⟩

/-- Two members can be taken in either order. -/
theorem takeMember_swap (hkind : kind.Independent) {state first next : List String × α}
    {m m' : Except Break String × Json} (hfirst : kind.takeMember state m = .ok first)
    (hnext : kind.takeMember first m' = .ok next) :
    ∃ first' next', kind.takeMember state m' = .ok first' ∧ kind.takeMember first' m = .ok next' ∧
      Alike next next' := by
  obtain ⟨key, hkey, ⟨hmem, hfresh, htaken, hstored⟩ | ⟨hmem, hwhole, rfl⟩⟩ :=
    takeMember_eq_ok.1 hfirst
  · obtain ⟨key', hkey', ⟨hmem', hfresh', htaken', hstored'⟩ | ⟨hmem', hwhole', rfl⟩⟩ :=
      takeMember_eq_ok.1 hnext
    · -- two fields: not the same one, since that was taken already
      rw [htaken] at hfresh' htaken'
      have hne : key' ≠ key := fun heq => hfresh' (heq ▸ List.mem_cons_self)
      have hfree : key' ∉ state.1 := fun hmem => hfresh' (List.mem_cons_of_mem _ hmem)
      obtain ⟨between, hbefore, hafter⟩ :=
        hkind key hmem key' hmem' (Ne.symm hne) m.2 m'.2 _ _ _ hstored hstored'
      refine ⟨(key' :: state.1, between), (key :: key' :: state.1, next.2),
        takeMember_eq_ok.2 ⟨key', hkey', .inl ⟨hmem', hfree, rfl, hbefore⟩⟩,
        takeMember_eq_ok.2 ⟨key, hkey, .inl ⟨hmem, ?_, rfl, hafter⟩⟩, ?_, rfl⟩
      · simp [Ne.symm hne, hfresh]
      · rw [htaken']
        exact List.Perm.swap _ _ _
    · refine ⟨state, next, takeMember_eq_ok.2 ⟨key', hkey', .inr ⟨hmem', hwhole', rfl⟩⟩, hfirst,
        List.Perm.refl _, rfl⟩
  · obtain ⟨next', hnext', halike⟩ := (Alike.refl _).takeMember hnext
    exact ⟨next', next', hnext', takeMember_eq_ok.2 ⟨key, hkey, .inr ⟨hmem, hwhole, rfl⟩⟩, halike⟩

theorem takeMembers_perm (hkind : kind.Independent)
    {members members' : List (Except Break String × Json)} (h : members.Perm members') :
    ∀ {state state' next : List String × α}, Alike state state' →
      members.foldlM kind.takeMember state = .ok next →
        ∃ next', members'.foldlM kind.takeMember state' = .ok next' ∧ Alike next next' := by
  induction h with
  | nil =>
    intro state state' next halike hnext
    exact halike.takeMembers hnext
  | cons m _ ih =>
    intro state state' next halike hnext
    rw [List.foldlM_cons] at hnext
    obtain ⟨first, hfirst, hnext⟩ := Reading.bind_eq_ok.1 hnext
    obtain ⟨first', hfirst', hstep⟩ := halike.takeMember hfirst
    obtain ⟨next', hnext', hlast⟩ := ih hstep hnext
    refine ⟨next', ?_, hlast⟩
    rw [List.foldlM_cons]
    exact Reading.bind_eq_ok.2 ⟨first', hfirst', hnext'⟩
  | swap m m' rest =>
    intro state state' next halike hnext
    rw [List.foldlM_cons] at hnext
    obtain ⟨first, hfirst, hnext⟩ := Reading.bind_eq_ok.1 hnext
    rw [List.foldlM_cons] at hnext
    obtain ⟨second, hsecond, hnext⟩ := Reading.bind_eq_ok.1 hnext
    obtain ⟨first', second', hfirst', hsecond', hswapped⟩ := takeMember_swap hkind hfirst hsecond
    obtain ⟨next', hnext', hlast⟩ := hswapped.takeMembers hnext
    have hall : (m :: m' :: rest).foldlM kind.takeMember state = .ok next' := by
      rw [List.foldlM_cons]
      refine Reading.bind_eq_ok.2 ⟨first', hfirst', ?_⟩
      rw [List.foldlM_cons]
      exact Reading.bind_eq_ok.2 ⟨second', hsecond', hnext'⟩
    obtain ⟨last, hlast', hend⟩ := halike.takeMembers hall
    exact ⟨last, hlast', hlast.1.trans hend.1, hlast.2.trans hend.2⟩
  | trans _ _ ih ih' =>
    intro state state' next halike hnext
    obtain ⟨next', hnext', hfirst⟩ := ih halike hnext
    obtain ⟨last, hlast, hsecond⟩ := ih' (Alike.refl _) hnext'
    exact ⟨last, hlast, hfirst.1.trans hsecond.1, hfirst.2.trans hsecond.2⟩

/-- Members that the record does not know add nothing to it. -/
theorem takeMembers_ignored {r : R} (hkeys : kind.keys = g.keys r)
    {members : List (Except Break String × Json)} (h : ∀ m ∈ members, g.Ignores (.record r) m)
    (state : List String × α) : members.foldlM kind.takeMember state = .ok state := by
  induction members with
  | nil => rfl
  | cons m rest ih =>
    obtain ⟨hm, hrest⟩ := List.forall_mem_cons.1 h
    obtain ⟨r', key, hr, hkey, hunknown, hwhole⟩ := hm
    cases hr
    rw [← hkeys] at hunknown
    rw [List.foldlM_cons]
    exact Reading.bind_eq_ok.2
      ⟨state, takeMember_eq_ok.2 ⟨key, hkey, .inr ⟨hunknown, hwhole, rfl⟩⟩, ih hrest⟩

/-- Other values at the same keys give the same record, if each is stored the same. -/
theorem takeMembers_kept {kept : List (Except Break String × Json × Json)}
    (h : ∀ k ∈ kept, ∀ state next, kind.takeMember state (k.1, k.2.1) = .ok next →
      kind.takeMember state (k.1, k.2.2) = .ok next) {state next : List String × α}
    (hnext : (kept.map fun k => (k.1, k.2.1)).foldlM kind.takeMember state = .ok next) :
    (kept.map fun k => (k.1, k.2.2)).foldlM kind.takeMember state = .ok next := by
  induction kept generalizing state with
  | nil => exact hnext
  | cons k rest ih =>
    obtain ⟨hk, hrest⟩ := List.forall_mem_cons.1 h
    rw [List.map_cons, List.foldlM_cons] at hnext ⊢
    obtain ⟨first, hfirst, hnext⟩ := Reading.bind_eq_ok.1 hnext
    exact Reading.bind_eq_ok.2 ⟨first, hk state first hfirst, ih hrest hnext⟩

theorem read_object_eq_ok {levels : Nat} {empty a : α}
    {members : List (Except Break String × Json)} :
    kind.read levels empty (.object members none) = .ok a ↔ levels ≠ 0 ∧
      ∃ seen, members.foldlM kind.takeMember ([], empty) = .ok (seen, a) ∧
        ∀ key ∈ kind.required, key ∈ seen := by
  rw [read]
  refine Reading.unless_eq_ok.trans (and_congr_right fun _ => ?_)
  rw [Reading.bind_eq_ok]
  constructor
  · rintro ⟨⟨seen, record⟩, htaken, h⟩
    obtain ⟨_, -, h⟩ := Reading.bind_eq_ok.1 h
    cases hmissing : kind.required.find? (· ∉ seen) with
    | some key =>
      rw [hmissing] at h
      cases h
    | none =>
      rw [hmissing] at h
      cases h
      exact ⟨seen, htaken, by simpa using List.find?_eq_none.1 hmissing⟩
  · rintro ⟨seen, htaken, hrequired⟩
    have hmissing : kind.required.find? (· ∉ seen) = none := by
      simpa using hrequired
    refine ⟨(seen, a), htaken, Reading.bind_eq_ok.2 ⟨(), rfl, ?_⟩⟩
    rw [hmissing]
    rfl

theorem read_array_eq_ok {levels : Nat} {empty a : α} {items : List Json} :
    kind.read levels empty (.array items none) = .ok a ↔
      levels ≠ 0 ∧ kind.takeItems none empty 0 kind.keys items = .ok a := by
  rw [read]
  exact Reading.unless_eq_ok

/-- Other values at the same places give the same record, if each is stored the same. -/
theorem takeItems_same {a : α} (keys : List String) :
    ∀ {items items' : List Json} {record : α} {position : Nat}, items.length = items'.length →
      (∀ (i : Nat) key x y, keys[i]? = some key → items[i]? = some x → items'[i]? = some y →
        ∀ b c, kind.store key x b = .ok c → kind.store key y b = .ok c) →
      kind.takeItems none record position keys items = .ok a →
        kind.takeItems none record position keys items' = .ok a := by
  induction keys with
  | nil =>
    intro items items' record position hlength _ h
    cases items with
    | nil =>
      rw [List.eq_nil_of_length_eq_zero hlength.symm]
      exact h
    | cons => cases h
  | cons key keys ih =>
    intro items items' record position hlength hsame h
    cases items with
    | nil =>
      rw [List.eq_nil_of_length_eq_zero hlength.symm]
      exact h
    | cons x rest =>
      cases items' with
      | nil => cases hlength
      | cons y rest' =>
        rw [takeItems] at h ⊢
        obtain ⟨stored, hstored, h⟩ := Reading.bind_eq_ok.1 h
        refine Reading.bind_eq_ok.2 ⟨stored, hsame 0 key x y rfl rfl rfl _ _ hstored, ?_⟩
        refine ih (Nat.succ.inj hlength) (fun i key x y hkey hx hy => ?_) h
        exact hsame (i + 1) key x y hkey hx hy

/-- A member that says the same is taken to the same effect. -/
theorem takeMember_same {r : R} (hkeys : kind.keys = g.keys r)
    (hstore : ∀ key ∈ kind.keys, ∀ a, Respects g (g.field r key) (kind.store key · a))
    {k : Except Break String × Json × Json}
    (h : Rearranged g (g.member (.record r) k.1) k.2.1 k.2.2) (hd : k.2.1.DistinctKeys)
    (hd' : k.2.2.DistinctKeys) {state next : List String × α}
    (hnext : kind.takeMember state (k.1, k.2.1) = .ok next) :
    kind.takeMember state (k.1, k.2.2) = .ok next := by
  obtain ⟨key, hkey, hcase⟩ := takeMember_eq_ok.1 hnext
  have hname : k.1 = .ok key := hkey
  rw [hname, Grammar.member, Grammar.known, ← hkeys] at h
  refine takeMember_eq_ok.2 ⟨key, hkey, ?_⟩
  rcases hcase with ⟨hmem, hfresh, hnext, hstored⟩ | ⟨hunknown, hwhole, hnext⟩
  · rw [if_pos hmem] at h
    exact .inl ⟨hmem, hfresh, hnext, hstore key hmem _ _ _ h hd hd' _ hstored⟩
  · exact .inr ⟨hunknown, h.whole hwhole, hnext⟩

/-- Members in another order, and others that are ignored, give the same record, if those that are
kept are taken to the same effect. -/
theorem takeMembers_rearranged (hkind : kind.Independent) {r : R} (hkeys : kind.keys = g.keys r)
    {members members' dropped added : List (Except Break String × Json)}
    {kept : List (Except Break String × Json × Json)}
    (hmembers : members.Perm ((kept.map fun k => (k.1, k.2.1)) ++ dropped))
    (hmembers' : members'.Perm ((kept.map fun k => (k.1, k.2.2)) ++ added))
    (hdropped : ∀ m ∈ dropped, g.Ignores (.record r) m)
    (hadded : ∀ m ∈ added, g.Ignores (.record r) m)
    (hkept : ∀ k ∈ kept, ∀ state next, kind.takeMember state (k.1, k.2.1) = .ok next →
      kind.takeMember state (k.1, k.2.2) = .ok next) {start next : List String × α}
    (hnext : members.foldlM kind.takeMember start = .ok next) :
    ∃ next', members'.foldlM kind.takeMember start = .ok next' ∧ Alike next next' := by
  obtain ⟨state, hstate, halike⟩ := takeMembers_perm hkind hmembers (Alike.refl _) hnext
  -- the members that are kept come first, the others add nothing
  rw [List.foldlM_append] at hstate
  obtain ⟨first, hfirst, hrest⟩ := Reading.bind_eq_ok.1 hstate
  rw [takeMembers_ignored hkeys hdropped] at hrest
  cases hrest
  have hall : ((kept.map fun k => (k.1, k.2.2)) ++ added).foldlM kind.takeMember start =
      .ok state := by
    rw [List.foldlM_append]
    refine Reading.bind_eq_ok.2 ⟨state, takeMembers_kept hkept hfirst, ?_⟩
    exact takeMembers_ignored hkeys hadded state
  obtain ⟨next', hnext', hend⟩ := takeMembers_perm hkind hmembers'.symm (Alike.refl _) hall
  exact ⟨next', hnext', halike.1.trans hend.1, halike.2.trans hend.2⟩

/-- **A record is read from what says the same**, if each of its fields is, and fields can be stored
in any order. -/
theorem respects_read {levels : Nat} {empty : α} {r : R} (hkeys : kind.keys = g.keys r)
    (hstore : ∀ key ∈ kind.keys, ∀ a, Respects g (g.field r key) (kind.store key · a))
    (hkind : kind.Independent) : Respects g (.record r) (kind.read levels empty) := by
  intro j j' hj hd hd' a ha
  cases hj with
  | same => exact ha
  | array hlength hitems =>
    rw [read_array_eq_ok] at ha ⊢
    refine ⟨ha.1, takeItems_same kind.keys hlength (fun i key x y hkey hx hy b c hc => ?_) ha.2⟩
    have hrearranged := hitems i x y hx hy
    rw [Grammar.item, ← hkeys, hkey] at hrearranged
    have hdx := distinctKeys_array.1 hd x (List.mem_of_getElem? hx)
    have hdy := distinctKeys_array.1 hd' y (List.mem_of_getElem? hy)
    exact hstore key (List.mem_of_getElem? hkey) b x y hrearranged hdx hdy c hc
  | object kept dropped added hmembers hmembers' hkept hdropped hadded =>
    obtain ⟨hlevels, seen, htaken, hrequired⟩ := read_object_eq_ok.1 ha
    obtain ⟨-, hvalues⟩ := distinctKeys_object.1 hd
    obtain ⟨-, hvalues'⟩ := distinctKeys_object.1 hd'
    have hsame : ∀ k ∈ kept, ∀ state next, kind.takeMember state (k.1, k.2.1) = .ok next →
        kind.takeMember state (k.1, k.2.2) = .ok next := by
      intro k hk state next hnext
      have hbefore : (k.1, k.2.1) ∈ kept.map (fun k => (k.1, k.2.1)) ++ dropped :=
        List.mem_append_left _ (List.mem_map_of_mem hk)
      have hafter : (k.1, k.2.2) ∈ kept.map (fun k => (k.1, k.2.2)) ++ added :=
        List.mem_append_left _ (List.mem_map_of_mem hk)
      exact takeMember_same hkeys hstore (hkept k hk) (hvalues _ (hmembers.mem_iff.2 hbefore))
        (hvalues' _ (hmembers'.mem_iff.2 hafter)) hnext
    obtain ⟨⟨seen', a'⟩, hlast, hseen, hrecord⟩ :=
      takeMembers_rearranged hkind hkeys hmembers hmembers' hdropped hadded hsame htaken
    have hequal : a = a' := hrecord
    rw [read_object_eq_ok, hequal]
    exact ⟨hlevels, seen', hlast, fun key hkey => hseen.mem_iff.1 (hrequired key hkey)⟩

end RecordKind

end Json

end ClientGen
