import ClientGen.Proofs.Files.Parents

/-!
# What is left of a temporary file

A file that has been written in a temporary place is moved to its path. If it cannot be moved, the
call fails and takes nothing back: the temporary file stays where it is, with the whole text in it.
A path that a file can be written to takes the move as well, `rename_isOk_iff`, so that this happens
just where the path has no room for a file and that of the temporary file has: a directory is in
place of the file, say. `temporary_left_iff` says so for a place to work that does what its tree
allows, and for any other place to work it says where a file that is left can come from.
-/

namespace ClientGen

/-! ## Room for a file -/

namespace FileNode

variable {root root' : FileNode} {path source target : String} {bytes : ByteArray}

/-- The path leads to a file. -/
def HasFile (root : FileNode) (path : String) : Prop :=
  ∃ place bytes, root.find path = .ok (place, .file bytes)

/-- The path has room for a file: it leads to a name in a directory, which is free or is that of a
file. -/
def TakesFile (root : FileNode) (path : String) : Prop :=
  ∃ e name, root.follow path = .ok e ∧ e.last = .name name ∧ e.trailing = false ∧
    root.content? (e.directory ++ [name]) ≠ some .directory

theorem hasFile_iff_isOk : root.HasFile path ↔ (root.readFile path).isOk = true := by
  simp only [isOk_iff, readFile_eq_ok, HasFile]
  exact exists_comm

instance (root : FileNode) (path : String) : Decidable (root.HasFile path) :=
  decidable_of_iff _ hasFile_iff_isOk.symm

/-- Where a file is, there is room for one. -/
theorem HasFile.takesFile (hroot : root.content? [] = some .directory) (h : root.HasFile path) :
    root.TakesFile path := by
  obtain ⟨place, bytes, hfind⟩ := h
  obtain ⟨e, name, hfollow, hlast, htrailing, rfl, hfile⟩ := (find_file_iff hroot).1 hfind
  refine ⟨e, name, hfollow, hlast, htrailing, ?_⟩
  rw [hfile]
  exact nofun

/-- Directories alone decide where there is room. -/
theorem TakesFile.of_directories (hkeeps : root.KeepsDirectories root')
    (hback : root'.KeepsDirectories root) (h : root.TakesFile path) : root'.TakesFile path := by
  obtain ⟨e, name, hfollow, hlast, htrailing, hbare⟩ := h
  exact ⟨e, name, hkeeps.follow hfollow, hlast, htrailing, fun hthere => hbare (hback _ hthere)⟩

/-- Something that is no directory is there, or nothing. -/
theorem get?_ne_directory {place : Location} (h : root.content? place ≠ some .directory)
    (entries : List (String × FileNode)) : root.get? place ≠ some (.directory entries) := by
  intro hget
  rw [content?, hget] at h
  exact h rfl

/-- A file can be written where there is room for it. -/
theorem writeFile_isOk_iff (hroot : root.content? [] = some .directory) :
    (root.writeFile path bytes).isOk = true ↔ root.TakesFile path := by
  constructor
  · intro h
    obtain ⟨root', hwrite⟩ := isOk_iff.1 h
    obtain ⟨e, name, hfollow, hlast, htrailing, hbare, -⟩ := writeFile_eq_ok hroot hwrite
    exact ⟨e, name, hfollow, hlast, htrailing, hbare⟩
  · rintro ⟨⟨directory, _, _⟩, name, hfollow, rfl, rfl, hbare⟩
    have hfree := get?_ne_directory hbare
    unfold writeFile
    rw [hfollow]
    -- the last branch is the one for what is no directory
    simp only [bind, Except.bind, Bool.false_eq_true, if_false]
    rfl

/-- Writing a file makes no directory and takes none away. -/
theorem keepsDirectories_writeFile (hroot : root.content? [] = some .directory)
    (hwrite : root.writeFile path bytes = .ok root') :
    root.KeepsDirectories root' ∧ root'.KeepsDirectories root := by
  obtain ⟨e, name, -, -, -, hbare, hset⟩ := writeFile_eq_ok hroot hwrite
  refine ⟨hset.keepsDirectories hbare, fun place hplace => ?_⟩
  rw [hset] at hplace
  split at hplace
  · cases hplace
  · exact hplace

/-- The path of a file that has been written leads to it. -/
theorem find_of_writeFile (hroot : root.content? [] = some .directory)
    (hwrite : root.writeFile path bytes = .ok root') :
    ∃ place, root'.find path = .ok (place, .file bytes) := by
  obtain ⟨hkeeps, -⟩ := keepsDirectories_writeFile hroot hwrite
  obtain ⟨e, name, hfollow, hlast, htrailing, -, hset⟩ := writeFile_eq_ok hroot hwrite
  refine ⟨_, (find_file_iff (hkeeps _ hroot)).2
    ⟨e, name, hkeeps.follow hfollow, hlast, htrailing, rfl, ?_⟩⟩
  rw [hset, if_pos rfl]

/-- A file that has just been written can be moved to where there is room for it. -/
theorem rename_isOk_iff (hroot : root.content? [] = some .directory)
    (hwrite : root.writeFile source bytes = .ok root') :
    (root'.rename source target).isOk = true ↔ root.TakesFile target := by
  obtain ⟨hkeeps, hback⟩ := keepsDirectories_writeFile hroot hwrite
  have hroot' := hkeeps _ hroot
  constructor
  · intro h
    obtain ⟨root'', hrename⟩ := isOk_iff.1 h
    obtain ⟨_, e, _, name, _, _, -, -, hfollow, hlast, htrailing, -, hbare, -⟩ :=
      rename_eq_ok hroot' hrename
    exact TakesFile.of_directories hback hkeeps ⟨e, name, hfollow, hlast, htrailing, hbare⟩
  · intro h
    obtain ⟨⟨directory, _, _⟩, name, hfollow, rfl, rfl, hbare⟩ := h.of_directories hkeeps hback
    obtain ⟨⟨sourceDirectory, _, _⟩, sourceName, hsource, rfl, rfl, -, hset⟩ :=
      writeFile_eq_ok hroot hwrite
    have hfile : root'.content? (sourceDirectory ++ [sourceName]) = some (.file bytes) := by
      rw [hset, if_pos rfl]
    have hfree := get?_ne_directory hbare
    unfold rename
    rw [hkeeps.follow hsource, hfollow]
    simp only [bind, Except.bind, content?_eq_file.1 hfile]
    simp only [Bool.or_self, Bool.false_eq_true, if_false]
    rfl

end FileNode

/-! ## Places to work that do what their tree allows -/

open Files FileNode Batch

variable {σ : Type} [Files (StateM σ)]

/-- Files are written and moved unless the tree has no room for them, and what is a directory is
known. Making directories can fail for whatever reason. -/
structure Drive.Reliable (D : Drive σ) : Prop where
  answers : Answers D
  writeFile_error : ∀ path text s failure s',
    (Files.writeFile path text : StateM σ _).run s = (.error failure, s') →
      D.tree s' = D.tree s ∧ ((D.tree s).writeFile path text.toUTF8).isOk = false
  rename_error : ∀ source target s failure s',
    (Files.rename source target : StateM σ _).run s = (.error failure, s') →
      ((D.tree s).rename source target).isOk = false

namespace OnTree

theorem isOk_of_changing {f : FileNode → Except FileFailure FileNode} {w w' : Workspace}
    {failure : FileFailure} (h : (changing f).run w = (.error failure, w')) :
    (f w.root).isOk = false := by
  rw [run_changing] at h
  generalize f w.root = changed at h ⊢
  cases changed with
  | ok root => cases h
  | error failure => rfl

theorem reliable : OnTree.drive.Reliable where
  answers _ _ := rfl
  writeFile_error _ _ _ _ _ h := ⟨changing_error h, isOk_of_changing h⟩
  rename_error _ _ _ _ _ h := isOk_of_changing h

end OnTree

/-! ## Files that are left -/

namespace Files

variable (D : Drive σ) (path text : String) {s : σ}

/-- The tree with the directories that could be made for the path. -/
def grownTree (s : σ) : FileNode :=
  D.tree (outcome (ensureParents (m := StateM σ) path) s).2

variable {D path text}

/-- If nothing goes wrong, the temporary file is where it belongs. -/
theorem not_hasFile_of_moved (hroot : (D.tree s).content? [] = some .directory) {s' : σ}
    (h : Steps path text s (.ok ()) s') : ¬ (D.tree s').HasFile (temporaryPath path) := by
  cases h with
  | moved hparents hwrite hrename =>
    have hgrown := gainsDirectories_ensureParents D path hroot
    rw [hparents] at hgrown
    have hwhole := writtenWhole_of_ends hroot hgrown
      (.moved (D.writeFile_ok _ _ _ _ hwrite) (D.rename_ok _ _ _ _ hrename))
    rintro ⟨place, bytes, hfind⟩
    rw [hwhole.find_temporary] at hfind
    cases hfind

/-- Where a file comes from that is there when writing has failed. -/
theorem origin_of_left (hroot : (D.tree s).content? [] = some .directory) {e : Error} {s' : σ}
    (h : Steps path text s (.error e) s') {place : Location} {bytes : ByteArray}
    (hfind : (D.tree s').find (temporaryPath path) = .ok (place, .file bytes)) :
    (D.tree s).get? place = some (.file bytes) ∨
      (∃ failure, e = .write (temporaryPath path) failure) ∨
        (∃ failure, e = .write path failure) ∧ bytes = text.toUTF8 := by
  have hgrown := gainsDirectories_ensureParents D path hroot
  have hroot' := hgrown.directories _ hroot
  cases h with
  | unprepared hparents =>
    rw [hparents] at hgrown hroot'
    obtain ⟨-, -, -, -, -, -, hfile⟩ := (find_file_iff hroot').1 hfind
    exact .inl ((hgrown.files place bytes).1 (content?_eq_file.1 hfile))
  | unwritten hparents hwrite => exact .inr (.inl ⟨_, rfl⟩)
  | unmoved hparents hwrite hrename =>
    rw [hparents] at hroot'
    obtain ⟨place', hwritten⟩ := find_of_writeFile hroot' (D.writeFile_ok _ _ _ _ hwrite)
    rw [D.rename_error _ _ _ _ _ hrename, hwritten] at hfind
    cases hfind
    exact .inr (.inr ⟨⟨_, rfl⟩, rfl⟩)

/-- On a place to work that does what its tree allows, a file is left where there is room for it and
there is none for the file itself. -/
theorem hasFile_iff_of_steps (hD : D.Reliable) (hroot : (D.tree s).content? [] = some .directory)
    {result : Except Error Unit} {s' : σ} (h : Steps path text s result s') :
    (D.tree s').HasFile (temporaryPath path) ↔
      (grownTree D path s).TakesFile (temporaryPath path) ∧
        ¬ (grownTree D path s).TakesFile path := by
  have hroot' := (gainsDirectories_ensureParents D path hroot).directories _ hroot
  -- neither side holds of a tree without room for the temporary file
  have hfull : ∀ tree : FileNode, tree.content? [] = some .directory →
      ¬ tree.TakesFile (temporaryPath path) → (tree.HasFile (temporaryPath path) ↔
        tree.TakesFile (temporaryPath path) ∧ ¬ tree.TakesFile path) := fun tree htree hnone =>
    iff_of_false (fun hfile => hnone (hfile.takesFile htree)) fun hleft => hnone hleft.1
  unfold grownTree
  cases h with
  | unprepared hparents =>
    rw [hparents] at hroot' ⊢
    refine hfull _ hroot' ?_
    rintro ⟨p, name, hfollow, hlast, -⟩
    exact ne_name_of_ensureParents hD.answers hroot' hparents hfollow hlast
  | unwritten hparents hwrite =>
    obtain ⟨hsame, hrefused⟩ := hD.writeFile_error _ _ _ _ _ hwrite
    rw [hparents] at hroot' ⊢
    rw [hsame]
    refine hfull _ hroot' fun hroom => ?_
    rw [(writeFile_isOk_iff hroot').2 hroom] at hrefused
    cases hrefused
  | unmoved hparents hwrite hrename =>
    have hwritten := D.writeFile_ok _ _ _ _ hwrite
    have hrefused := hD.rename_error _ _ _ _ _ hrename
    rw [hparents] at hroot' ⊢
    rw [D.rename_error _ _ _ _ _ hrename]
    obtain ⟨place, hfind⟩ := find_of_writeFile hroot' hwritten
    refine iff_of_true ⟨place, _, hfind⟩ ⟨?_, fun hroom => ?_⟩
    · exact (writeFile_isOk_iff hroot').1 (isOk_iff.2 ⟨_, hwritten⟩)
    · rw [(rename_isOk_iff hroot' hwritten).2 hroom] at hrefused
      cases hrefused
  | moved hparents hwrite hrename =>
    have hwritten := D.writeFile_ok _ _ _ _ hwrite
    have hmoved := D.rename_ok _ _ _ _ hrename
    refine iff_of_false (not_hasFile_of_moved hroot (.moved hparents hwrite hrename)) ?_
    rintro ⟨-, hnone⟩
    rw [hparents] at hroot' hnone
    exact hnone ((rename_isOk_iff hroot' hwritten).1 (isOk_iff.2 ⟨_, hmoved⟩))

/-- **When a temporary file is left.** If writing succeeds, there is no file in the temporary place.
If it fails, a file that is there was there before, or could not be written to the end, or has the
whole text and could not be moved. In a place to work that does what its tree allows, there is one
just if, once the directories are made, the temporary path has room for a file and the path has
none: nobody takes back what cannot be moved. -/
theorem temporary_left_iff (D : Drive σ) (path text : String) (s : σ)
    (hroot : (D.tree s).isDirectory = true) :
    (∀ s', outcome (writeAtomic path text) s = (.ok (), s') →
      ¬ (D.tree s').HasFile (temporaryPath path)) ∧
    (∀ e s', outcome (writeAtomic path text) s = (.error e, s') →
      ∀ place bytes, (D.tree s').find (temporaryPath path) = .ok (place, .file bytes) →
        (D.tree s).get? place = some (.file bytes) ∨
          (∃ failure, e = .write (temporaryPath path) failure) ∨
            (∃ failure, e = .write path failure) ∧ bytes = text.toUTF8) ∧
    (D.Reliable →
      ((D.tree (outcome (writeAtomic path text) s).2).HasFile (temporaryPath path) ↔
        (grownTree D path s).TakesFile (temporaryPath path) ∧
          ¬ (grownTree D path s).TakesFile path)) := by
  have hroot := content?_of_isDirectory hroot
  have hsteps := steps_writeAtomic path text s
  refine ⟨?_, ?_, fun hD => hasFile_iff_of_steps hD hroot hsteps⟩
  · intro s' h
    rw [h] at hsteps
    exact not_hasFile_of_moved hroot hsteps
  · intro e s' h place bytes
    rw [h] at hsteps
    exact origin_of_left hroot hsteps

theorem temporary_left_iff_modules :
    ¬ (outcome (writeAtomic "out/mod.rs" "mod authors;") modules).2.root.HasFile
        (temporaryPath "out/mod.rs") ∧
      (outcome (writeAtomic "out/books.rs" "mod v1;") modules).2.root.HasFile
        (temporaryPath "out/books.rs") := by
  have hroom : ∀ path place, ((grownTree OnTree.drive path modules).writeFile place .empty).isOk ↔
      (grownTree OnTree.drive path modules).TakesFile place := fun path place =>
    writeFile_isOk_iff ((gainsDirectories_ensureParents OnTree.drive path rfl).directories _ rfl)
  constructor
  · obtain ⟨-, -, hleft⟩ := temporary_left_iff OnTree.drive "out/mod.rs" "mod authors;" modules rfl
    exact fun hfile => ((hleft OnTree.reliable).1 hfile).2 ((hroom _ _).1 (by decide +kernel))
  · obtain ⟨-, -, hleft⟩ := temporary_left_iff OnTree.drive "out/books.rs" "mod v1;" modules rfl
    refine (hleft OnTree.reliable).2 ⟨(hroom _ _).1 (by decide +kernel), ?_⟩
    rw [← hroom]
    decide +kernel

/-- A directory has the name of the file. -/
def blocked : Workspace where
  root := .directory [("mod.rs", .directory [])]

/-- A file that was not there before is left, as it cannot be moved. -/
theorem temporary_left_behind :
    ¬ blocked.root.HasFile (temporaryPath "mod.rs") ∧
      (outcome (writeAtomic "mod.rs" "x") blocked).2.root.HasFile (temporaryPath "mod.rs") := by
  decide +kernel

end Files

end ClientGen
