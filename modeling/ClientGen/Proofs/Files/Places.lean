import ClientGen.Files.Tree
import ClientGen.Proofs.Success

/-!
# What is at the places of a tree

Every operation on a tree of files follows a path to the end and changes the entry that it finds
there. What there is in a tree is told here place by place, as `content?`: nothing, a directory, or
a file with its bytes. An operation that succeeds sets one place, and leaves all others as they are,
`SetAt`:

* `makeDirectory_eq_ok` — making a directory sets a place where nothing was;
* `writeFile_eq_ok` — writing sets a place where no directory was;
* `rename_eq_ok` — renaming sets two places, one after the other.

Where a path leads depends on directories only, so that it leads there still in a tree that keeps
its directories, `KeepsDirectories.follow`.
-/

namespace ClientGen

/-! ## Entries -/

namespace Keyed

variable {α : Type}

theorem find?_cons (k : String) (v : α) (rest : Keyed α) (key : String) :
    Keyed.find? ((k, v) :: rest) key = if key = k then some v else Keyed.find? rest key := by
  have hbeq : (key == k) = decide (key = k) := rfl
  rw [find?, List.lookup_cons, hbeq]
  by_cases h : key = k <;> simp [h, find?]

/-- Entering a key changes what is found under this key, and nothing else. -/
theorem find?_insert (key : String) (value : α) (m : Keyed α) (other : String) :
    (insert key value m).find? other = if other = key then some value else m.find? other := by
  induction m with
  | nil => exact find?_cons key value [] other
  | cons e rest ih =>
    obtain ⟨k, v⟩ := e
    rw [insert]
    by_cases hlt : key < k
    · rw [if_pos hlt, find?_cons]
    · rw [if_neg hlt]
      by_cases hk : key = k
      · subst hk
        rw [if_pos rfl, find?_cons, find?_cons]
        by_cases hother : other = key <;> simp [hother]
      · rw [if_neg hk, find?_cons, find?_cons, ih]
        by_cases hother : other = k
        · have hne : other ≠ key := fun h => hk (h.symm.trans hother)
          rw [if_pos hother, if_neg hne, if_pos hother]
        · rw [if_neg hother, if_neg hother]

theorem find?_erase (key : String) (m : Keyed α) (other : String) :
    (erase key m).find? other = if other = key then none else m.find? other := by
  induction m with
  | nil => exact (ite_self none).symm
  | cons e rest ih =>
    obtain ⟨k, v⟩ := e
    by_cases hk : k = key
    · have herase : erase key ((k, v) :: rest) = erase key rest := by simp [erase, hk]
      rw [herase, ih, find?_cons]
      by_cases hother : other = key <;> simp [hother, hk]
    · have herase : erase key ((k, v) :: rest) = (k, v) :: erase key rest := by simp [erase, hk]
      rw [herase, find?_cons, find?_cons, ih]
      by_cases hother : other = k
      · have hne : other ≠ key := fun h => hk (hother.symm.trans h)
        rw [if_pos hother, if_neg hne, if_pos hother]
      · rw [if_neg hother, if_neg hother]

end Keyed

/-! ## Places -/

/-- What there is at a place: a file with its bytes, or a directory. -/
inductive Content
  | file (bytes : ByteArray)
  | directory

namespace FileNode

/-- What there is, without what is in a directory. -/
def content : FileNode → Content
  | .file bytes => .file bytes
  | .directory _ => .directory

/-- What there is at a place below the node. -/
def content? (node : FileNode) (place : Location) : Option Content :=
  (node.get? place).map content

variable {root root' node : FileNode} {place rest : Location} {name : String}

theorem content?_of_isDirectory (h : root.isDirectory = true) :
    root.content? [] = some .directory := by
  cases root with
  | file bytes => cases h
  | directory entries => rfl

theorem content?_directory_cons (entries : List (String × FileNode)) (name : String)
    (rest : Location) :
    (FileNode.directory entries).content? (name :: rest) =
      (Keyed.find? entries name).bind (·.content? rest) := by
  rw [content?, get?, Option.map_bind]
  rfl

theorem content?_append (place rest : Location) :
    root.content? (place ++ rest) = (root.get? place).bind (·.content? rest) := by
  induction place generalizing root with
  | nil => rfl
  | cons name place ih =>
    cases root with
    | file bytes => rfl
    | directory entries =>
      rw [List.cons_append, content?_directory_cons, get?, Option.bind_assoc]
      exact Option.bind_congr fun inner _ => ih

/-- There is something below directories only. -/
theorem content?_below (h : root.content? place ≠ some .directory) (hrest : rest ≠ []) :
    root.content? (place ++ rest) = none := by
  obtain ⟨name, more, rfl⟩ := List.exists_cons_of_ne_nil hrest
  rw [content?_append]
  unfold content? at h
  cases hget : root.get? place with
  | none => rfl
  | some node =>
    rw [hget] at h
    cases node with
    | file bytes => rfl
    | directory entries => exact absurd rfl h

theorem content?_dropLast (h : root.content? place = some .directory) :
    root.content? place.dropLast = some .directory := by
  by_cases hplace : place = []
  · rwa [hplace] at h ⊢
  · refine Classical.byContradiction fun hnot => ?_
    rw [← List.dropLast_concat_getLast hplace, content?_below hnot (List.cons_ne_nil _ _)] at h
    cases h

/-! ## Changing one place -/

/-- One place of the second tree is as given, and all others are as in the first. -/
def SetAt (root : FileNode) (place : Location) (now : Option Content) (root' : FileNode) : Prop :=
  ∀ p, root'.content? p = if p = place then now else root.content? p

/-- The entries of a directory are changed under one name only, and nothing is below it then. -/
structure ChangesEntry (change : Keyed FileNode → Keyed FileNode) (name : String)
    (now : Option Content) : Prop where
  self : ∀ entries rest, ((change entries).find? name).bind (·.content? rest) =
    if rest = [] then now else none
  other : ∀ entries other, other ≠ name → (change entries).find? other = entries.find? other

theorem changesEntry_file (name : String) (bytes : ByteArray) :
    ChangesEntry (Keyed.insert name (.file bytes)) name (some (.file bytes)) where
  self entries rest := by
    rw [Keyed.find?_insert, if_pos rfl]
    cases rest <;> rfl
  other entries other h := by rw [Keyed.find?_insert, if_neg h]

theorem changesEntry_directory (name : String) :
    ChangesEntry (Keyed.insert name (.directory [])) name (some .directory) where
  self entries rest := by
    rw [Keyed.find?_insert, if_pos rfl]
    cases rest <;> rfl
  other entries other h := by rw [Keyed.find?_insert, if_neg h]

theorem changesEntry_erase (name : String) : ChangesEntry (Keyed.erase name) name none where
  self entries rest := by
    rw [Keyed.find?_erase, if_pos rfl]
    exact (ite_self none).symm
  other entries other h := by rw [Keyed.find?_erase, if_neg h]

/-- Changing an entry of a directory changes the tree at one place. -/
theorem setAt_update {change : Keyed FileNode → Keyed FileNode} {now : Option Content}
    {directory : Location} (hchange : ChangesEntry change name now)
    (hdirectory : root.content? directory = some .directory)
    (hbare : root.content? (directory ++ [name]) ≠ some .directory) :
    root.SetAt (directory ++ [name]) now (root.update change directory) := by
  induction directory generalizing root with
  | nil =>
    cases root with
    | file bytes => cases hdirectory
    | directory entries =>
      intro p
      cases p with
      | nil => rfl
      | cons key rest =>
        rw [List.nil_append, update, content?_directory_cons, content?_directory_cons]
        by_cases hkey : key = name
        · subst hkey
          rw [hchange.self]
          by_cases hrest : rest = []
          · rw [if_pos hrest, if_pos (by rw [hrest])]
          · rw [if_neg hrest, if_neg (by simpa using hrest), ← content?_directory_cons]
            exact (content?_below hbare hrest).symm
        · rw [hchange.other _ _ hkey, if_neg (by simp [hkey])]
  | cons key directory ih =>
    cases root with
    | file bytes => cases hdirectory
    | directory entries =>
      rw [content?_directory_cons] at hdirectory
      obtain ⟨inner, hinner, hbelow⟩ := Option.bind_eq_some_iff.1 hdirectory
      rw [List.cons_append, content?_directory_cons, hinner, Option.bind_some] at hbare
      intro p
      rw [update, hinner]
      cases p with
      | nil => rfl
      | cons key' rest =>
        rw [content?_directory_cons, content?_directory_cons, Keyed.find?_insert]
        by_cases hkey : key' = key
        · subst hkey
          rw [if_pos rfl, Option.bind_some, ih hbelow hbare, hinner]
          simp
        · rw [if_neg hkey, if_neg (by simp [hkey])]

/-! ## Following paths -/

/-- The directories of the first tree are directories in the second one. -/
def KeepsDirectories (root root' : FileNode) : Prop :=
  ∀ p, root.content? p = some .directory → root'.content? p = some .directory

/-- Nothing happens to directories where none is replaced. -/
theorem SetAt.keepsDirectories {now : Option Content} (h : root.SetAt place now root')
    (hbare : root.content? place ≠ some .directory) : root.KeepsDirectories root' := by
  intro p hp
  have hne : p ≠ place := fun heq => hbare (heq ▸ hp)
  rw [h p, if_neg hne, hp]

/-- When a step can be taken, and where it leads. -/
theorem step_eq_ok {here next : Location} {name : List Char} :
    root.step here name = .ok next ↔
      if name = [] ∨ name = ['.'] then next = here
      else if name = ['.', '.'] then next = here.dropLast
      else isTooLong name = false ∧ next = here ++ [String.ofList name] ∧
        root.content? next = some .directory := by
  unfold step
  split
  · simp [eq_comm]
  · split
    · simp [eq_comm]
    · cases htoo : isTooLong name with
      | true => simp
      | false =>
        simp only [Bool.false_eq_true, if_false, true_and]
        have hcontent : root.content? (here ++ [String.ofList name]) =
            (root.get? (here ++ [String.ofList name])).map content := rfl
        constructor
        · intro h
          split at h
          · cases h
          · cases h
          · rename_i hget
            cases h
            exact ⟨rfl, by rw [hcontent, hget]; rfl⟩
        · rintro ⟨rfl, hdirectory⟩
          rw [hcontent] at hdirectory
          obtain ⟨node, hget, hnode⟩ := Option.map_eq_some_iff.1 hdirectory
          rw [hget]
          cases node with
          | file bytes => cases hnode
          | directory entries => rfl

theorem KeepsDirectories.step {here next : Location} {name : List Char}
    (hkeeps : root.KeepsDirectories root') (h : root.step here name = .ok next) :
    root'.step here name = .ok next := by
  rw [step_eq_ok] at h ⊢
  split at h
  · rwa [if_pos ‹_›]
  · rw [if_neg ‹_›]
    split at h
    · rwa [if_pos ‹_›]
    · rw [if_neg ‹_›]
      exact ⟨h.1, h.2.1, hkeeps next h.2.2⟩

theorem KeepsDirectories.steps {here there : Location} {names : List (List Char)}
    (hkeeps : root.KeepsDirectories root') (h : names.foldlM root.step here = .ok there) :
    names.foldlM root'.step here = .ok there := by
  induction names generalizing here with
  | nil => exact h
  | cons name rest ih =>
    rw [List.foldlM_cons, bind_eq_ok] at h ⊢
    obtain ⟨next, hstep, hrest⟩ := h
    exact ⟨next, hkeeps.step hstep, ih hrest⟩

/-- Steps lead from directory to directory. -/
theorem content?_steps {here there : Location} {names : List (List Char)}
    (hhere : root.content? here = some .directory)
    (h : names.foldlM root.step here = .ok there) :
    root.content? there = some .directory := by
  induction names generalizing here with
  | nil =>
    cases h
    exact hhere
  | cons name rest ih =>
    rw [List.foldlM_cons, bind_eq_ok] at h
    obtain ⟨next, hstep, hrest⟩ := h
    refine ih ?_ hrest
    rw [step_eq_ok] at hstep
    split at hstep
    · rwa [hstep]
    · split at hstep
      · rw [hstep]
        exact content?_dropLast hhere
      · exact hstep.2.2

/-- What comes after a check. -/
theorem unless_eq_ok {α : Type} {p : Prop} [Decidable p] {failure : FileFailure}
    {x : Except FileFailure α} {a : α} :
    (if p then (do throw failure; x) else x) = .ok a ↔ ¬ p ∧ x = .ok a := by
  by_cases h : p
  · rw [if_pos h]
    exact iff_of_false nofun fun hp => hp.1 h
  · rw [if_neg h]
    exact (and_iff_right h).symm

/-- A path as it is followed: the names of directories, then the last name that is not empty, and
whether there is a slash behind it. -/
structure Walk where
  front : List (List Char)
  last : List Char
  trailing : Bool

/-- How a path is followed. -/
def walk (path : String) : Walk :=
  let names := Path.names path
  let reversed := names.reverse.dropWhile (· = [])
  { front := (reversed.drop 1).reverse
    last := reversed.head?.getD []
    trailing := reversed.length < names.length }

theorem walk_of_names {path : String} {front : List (List Char)} {last : List Char}
    (hnames : Path.names path = front ++ [last]) (hlast : last ≠ []) :
    walk path = ⟨front, last, false⟩ := by
  have hreversed : (Path.names path).reverse.dropWhile (· = []) = last :: front.reverse := by
    rw [hnames, List.reverse_append]
    exact List.dropWhile_cons_of_neg (by simpa using hlast)
  rw [walk, hreversed]
  simp [hnames]

/-- The text of the path is that of a path. -/
structure IsPath (path : String) : Prop where
  no_nul : '\x00' ∉ path.toList
  ne_empty : path ≠ ""
  size : path.utf8ByteSize ≤ maxPathSize

/-- When a path can be followed, and where it ends. -/
theorem follow_eq_ok_iff {path : String} {e : PathEnd} :
    root.follow path = .ok e ↔
      IsPath path ∧ (walk path).front.foldlM root.step [] = .ok e.directory ∧
        isTooLong (walk path).last = false ∧ e.last = lastName (walk path).last ∧
          e.trailing = (walk path).trailing := by
  obtain ⟨directory, last, trailing⟩ := e
  have hpath : IsPath path ↔ ¬ path.toList.contains '\x00' = true ∧ ¬ path = "" ∧
      ¬ maxPathSize < path.utf8ByteSize := by
    rw [List.contains_iff_mem, Nat.not_lt]
    exact ⟨fun h => ⟨h.no_nul, h.ne_empty, h.size⟩, fun h => ⟨h.1, h.2.1, h.2.2⟩⟩
  rw [follow, unless_eq_ok, unless_eq_ok, unless_eq_ok, hpath, and_assoc, and_assoc]
  refine and_congr_right fun _ => and_congr_right fun _ => and_congr_right fun _ => ?_
  show ((walk path).front.foldlM root.step [] >>= fun reached =>
    if isTooLong (walk path).last = true then _ else _) = _ ↔ _
  simp only [bind_eq_ok, unless_eq_ok, Bool.not_eq_true]
  constructor
  · rintro ⟨reached, hreached, hlast, hend⟩
    cases hend
    exact ⟨hreached, hlast, rfl, rfl⟩
  · rintro ⟨hreached, hlast, rfl, rfl⟩
    exact ⟨directory, hreached, hlast, rfl⟩

/-- Following a path to its end takes a step for each of its names but the last. -/
theorem follow_eq_ok {path : String} {e : PathEnd} {front : List (List Char)} {last : List Char}
    (hnames : Path.names path = front ++ [last]) (hlast : last ≠ [])
    (h : root.follow path = .ok e) :
    front.foldlM root.step [] = .ok e.directory ∧ e.last = lastName last := by
  obtain ⟨-, hfront, -, hend, -⟩ := follow_eq_ok_iff.1 h
  rw [walk_of_names hnames hlast] at hfront hend
  exact ⟨hfront, hend⟩

theorem KeepsDirectories.follow {path : String} {e : PathEnd}
    (hkeeps : root.KeepsDirectories root') (h : root.follow path = .ok e) :
    root'.follow path = .ok e := by
  rw [follow_eq_ok_iff] at h ⊢
  exact h.imp_right (And.imp_left hkeeps.steps)

/-- A path that can be followed ends in a directory. -/
theorem content?_follow {path : String} {e : PathEnd} (hroot : root.content? [] = some .directory)
    (h : root.follow path = .ok e) : root.content? e.directory = some .directory :=
  content?_steps hroot (follow_eq_ok_iff.1 h).2.1

/-- The path leads to a directory, and its last name is that of the entry at the place, whether or
not there is one. -/
def NamesEntry (root : FileNode) (path : String) (place : Location) : Prop :=
  ∃ e name, root.follow path = .ok e ∧ e.last = .name name ∧ place = e.directory ++ [name]

/-! ## Operations -/

variable {path source target : String} {bytes : ByteArray}

/-- Making a directory puts one where nothing was. -/
theorem makeDirectory_eq_ok (hroot : root.content? [] = some .directory)
    (h : root.makeDirectory path = .ok root') :
    ∃ e name, root.follow path = .ok e ∧ e.last = .name name ∧
      root.content? (e.directory ++ [name]) = none ∧
        root.SetAt (e.directory ++ [name]) (some .directory) root' := by
  unfold makeDirectory at h
  obtain ⟨e, hfollow, h⟩ := bind_eq_ok.1 h
  obtain ⟨directory, last, trailing⟩ := e
  cases last with
  | self | up => cases h
  | name name =>
    obtain ⟨hfree, h⟩ := unless_eq_ok.1 h
    have hnone : root.content? (directory ++ [name]) = none := by
      rw [content?, Option.not_isSome_iff_eq_none.1 hfree]
      rfl
    cases h
    refine ⟨_, name, hfollow, rfl, hnone, ?_⟩
    refine setAt_update (changesEntry_directory name) (content?_follow hroot hfollow) ?_
    rw [hnone]
    exact nofun

/-- There is no directory at the place. -/
theorem content?_ne_directory (h : ∀ entries, root.get? place ≠ some (.directory entries)) :
    root.content? place ≠ some .directory := by
  unfold content?
  cases hget : root.get? place with
  | none => exact nofun
  | some node =>
    cases node with
    | file bytes => exact nofun
    | directory entries => exact absurd hget (h entries)

/-- Writing puts a file where no directory is. -/
theorem writeFile_eq_ok (hroot : root.content? [] = some .directory)
    (h : root.writeFile path bytes = .ok root') :
    ∃ e name, root.follow path = .ok e ∧ e.last = .name name ∧ e.trailing = false ∧
      root.content? (e.directory ++ [name]) ≠ some .directory ∧
        root.SetAt (e.directory ++ [name]) (some (.file bytes)) root' := by
  unfold writeFile at h
  obtain ⟨e, hfollow, h⟩ := bind_eq_ok.1 h
  obtain ⟨directory, last, trailing⟩ := e
  cases last with
  | self | up => cases h
  | name name =>
    obtain ⟨htrailing, h⟩ := unless_eq_ok.1 h
    simp only at h
    split at h
    · cases h
    · rename_i hget
      have hbare := content?_ne_directory hget
      cases h
      refine ⟨_, name, hfollow, rfl, eq_false_of_ne_true htrailing, hbare, ?_⟩
      exact setAt_update (changesEntry_file name bytes) (content?_follow hroot hfollow) hbare

/-- Renaming takes a file away and puts it where no directory is. -/
theorem rename_eq_ok (hroot : root.content? [] = some .directory)
    (h : root.rename source target = .ok root') :
    ∃ s t name newName bytes between, root.follow source = .ok s ∧ s.last = .name name ∧
      root.follow target = .ok t ∧ t.last = .name newName ∧ t.trailing = false ∧
      root.content? (s.directory ++ [name]) = some (.file bytes) ∧
      root.content? (t.directory ++ [newName]) ≠ some .directory ∧
      root.SetAt (s.directory ++ [name]) none between ∧
      between.SetAt (t.directory ++ [newName]) (some (.file bytes)) root' := by
  unfold rename at h
  obtain ⟨s, hsource, h⟩ := bind_eq_ok.1 h
  obtain ⟨t, htarget, h⟩ := bind_eq_ok.1 h
  obtain ⟨directory, last, trailing⟩ := s
  obtain ⟨newDirectory, newLast, newTrailing⟩ := t
  cases last with
  | self | up => cases h
  | name name =>
    cases newLast with
    | self | up => cases h
    | name newName =>
      simp only at h
      split at h
      · cases h
      · cases h
      · rename_i bytes hget
        obtain ⟨htrailing, h⟩ := unless_eq_ok.1 h
        split at h
        · cases h
        · rename_i hfree
          have hfile : root.content? (directory ++ [name]) = some (.file bytes) := by
            rw [content?, hget]
            rfl
          have hplain : root.content? (directory ++ [name]) ≠ some .directory := by
            rw [hfile]
            exact nofun
          have hbare := content?_ne_directory hfree
          have htaken : root.SetAt (directory ++ [name]) none
              (root.update (Keyed.erase name) directory) :=
            setAt_update (changesEntry_erase name) (content?_follow hroot hsource) hplain
          have hdirectory := htaken.keepsDirectories hplain _ (content?_follow hroot htarget)
          have hbare' : (root.update (Keyed.erase name) directory).content?
              (newDirectory ++ [newName]) ≠ some .directory := by
            rw [htaken]
            split
            · exact nofun
            · exact hbare
          cases h
          refine ⟨_, _, name, newName, bytes, _, hsource, rfl, htarget, rfl, ?_, hfile, hbare,
            htaken, setAt_update (changesEntry_file newName bytes) hdirectory hbare'⟩
          exact (Bool.or_eq_false_iff.1 (eq_false_of_ne_true htrailing)).2

/-! ## Finding files -/

/-- What is at the place is a file with these bytes. -/
theorem content?_eq_file : root.content? place = some (.file bytes) ↔
    root.get? place = some (.file bytes) := by
  unfold content?
  constructor
  · intro h
    obtain ⟨node, hget, hnode⟩ := Option.map_eq_some_iff.1 h
    cases node with
    | file others =>
      cases hnode
      exact hget
    | directory entries => cases hnode
  · intro h
    rw [h]
    rfl

/-- What a path that can be followed leads to. -/
theorem find_of_follow {e : PathEnd} (hfollow : root.follow path = .ok e) :
    root.find path =
      match root.get? (PathEnd.location e) with
      | none => .error .notFound
      | some node =>
        if e.trailing && !node.isDirectory then .error .notADirectory
        else .ok (PathEnd.location e, node) := by
  unfold find
  rw [hfollow]
  simp only [bind, Except.bind]
  cases root.get? (PathEnd.location e) with
  | none => rfl
  | some node =>
    show (if _ then _ else _) = (if _ then _ else _)
    split <;> rfl

/-- A path leads to a file if its last name is that of the file, and no slash is behind it. -/
theorem find_file_iff (hroot : root.content? [] = some .directory) :
    root.find path = .ok (place, .file bytes) ↔
      ∃ e name, root.follow path = .ok e ∧ e.last = .name name ∧ e.trailing = false ∧
        place = e.directory ++ [name] ∧ root.content? place = some (.file bytes) := by
  constructor
  · intro h
    have hfound := h
    unfold find at hfound
    obtain ⟨e, hfollow, -⟩ := bind_eq_ok.1 hfound
    rw [find_of_follow hfollow] at h
    split at h
    · cases h
    · rename_i node hget
      split at h
      · cases h
      · rename_i htrailing
        cases h
        have hdirectory := content?_follow hroot hfollow
        have hfile := content?_eq_file.2 hget
        -- neither the directory nor the one above it is a file
        cases hlast : e.last with
        | self =>
          rw [PathEnd.location, hlast, hdirectory] at hfile
          cases hfile
        | up =>
          rw [PathEnd.location, hlast, content?_dropLast hdirectory] at hfile
          cases hfile
        | name name =>
          have hplace : PathEnd.location e = e.directory ++ [name] := by
            rw [PathEnd.location, hlast]
          have hplain : e.trailing = false := by simpa [isDirectory] using htrailing
          exact ⟨e, name, hfollow, hlast, hplain, hplace, hfile⟩
  · rintro ⟨e, name, hfollow, hlast, htrailing, rfl, hfile⟩
    have hplace : PathEnd.location e = e.directory ++ [name] := by rw [PathEnd.location, hlast]
    rw [find_of_follow hfollow, hplace, content?_eq_file.1 hfile, htrailing]
    rfl

theorem readFile_eq_ok :
    root.readFile path = .ok bytes ↔ ∃ place, root.find path = .ok (place, .file bytes) := by
  unfold readFile
  rw [bind_eq_ok]
  constructor
  · rintro ⟨⟨place, node⟩, hfind, h⟩
    cases node with
    | file others =>
      cases h
      exact ⟨place, hfind⟩
    | directory entries => cases h
  · rintro ⟨place, hfind⟩
    exact ⟨_, hfind, rfl⟩

theorem readFile_of_follow {e : PathEnd} (hroot : root.content? [] = some .directory)
    (hfollow : root.follow path = .ok e) (hlast : e.last = .name name)
    (htrailing : e.trailing = false)
    (hfile : root.content? (e.directory ++ [name]) = some (.file bytes)) :
    root.readFile path = .ok bytes :=
  readFile_eq_ok.2 ⟨e.directory ++ [name],
    (find_file_iff hroot).2 ⟨e, name, hfollow, hlast, htrailing, rfl, hfile⟩⟩

/-- Where nothing is, nothing is found. -/
theorem find_eq_notFound {e : PathEnd} (hfollow : root.follow path = .ok e)
    (h : root.content? (PathEnd.location e) = none) : root.find path = .error .notFound := by
  rw [find_of_follow hfollow, Option.map_eq_none_iff.1 h]

end FileNode

end ClientGen
