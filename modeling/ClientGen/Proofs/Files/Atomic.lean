import ClientGen.Proofs.Batch.Disk
import ClientGen.Proofs.Files.Temporary

/-!
# Files are written as a whole

A file is written to a temporary file beside it, which then takes its place. Whatever goes wrong on
the way, a directory that cannot be made, a disk that is full, a directory in place of the file, the
file itself is never touched but in the last step, and this step puts the whole text there.

A `Drive` is a place to work that keeps a tree of files. It is free to fail at any operation, and a
file may then have been written in part. `steps_writeAtomic` lists the steps that writing a file
takes, `ends_writeAtomic` the ways in which it can end, and `write_atomic` says of each of them what
there is in the tree.
-/

namespace ClientGen

/-! ## Trees before and after -/

namespace FileNode

variable {root root' root'' : FileNode} {place : Location}

/-- The place has the same file in both trees, or no file in either. -/
def SameFileAt (root root' : FileNode) (place : Location) : Prop :=
  ∀ bytes, root'.get? place = some (.file bytes) ↔ root.get? place = some (.file bytes)

theorem sameFileAt_iff : root.SameFileAt root' place ↔
    ∀ bytes, root'.content? place = some (.file bytes) ↔
      root.content? place = some (.file bytes) := by
  simp only [SameFileAt, content?_eq_file]

theorem SameFileAt.trans (h : root.SameFileAt root' place) (h' : root'.SameFileAt root'' place) :
    root.SameFileAt root'' place :=
  fun bytes => (h' bytes).trans (h bytes)

/-- Nothing happens to a file at another place. -/
theorem SetAt.sameFileAt {p : Location} {now : Option Content} (h : root.SetAt place now root')
    (hne : p ≠ place) : root.SameFileAt root' p := by
  rw [sameFileAt_iff, h p, if_neg hne]
  exact fun _ => Iff.rfl

/-- There are the same files in both trees, and the second one can have more directories. -/
structure GainsDirectories (root root' : FileNode) : Prop where
  files : ∀ place, root.SameFileAt root' place
  directories : root.KeepsDirectories root'

theorem GainsDirectories.refl (root : FileNode) : root.GainsDirectories root :=
  ⟨fun _ _ => Iff.rfl, fun _ h => h⟩

theorem GainsDirectories.trans (h : root.GainsDirectories root')
    (h' : root'.GainsDirectories root'') : root.GainsDirectories root'' where
  files place := (h.files place).trans (h'.files place)
  directories p hp := h'.directories p (h.directories p hp)

/-- Making a directory leaves files as they are. -/
theorem gainsDirectories_of_makeDirectory {path : String}
    (hroot : root.content? [] = some .directory) (h : root.makeDirectory path = .ok root') :
    root.GainsDirectories root' := by
  obtain ⟨e, name, -, -, hnone, hset⟩ := makeDirectory_eq_ok hroot h
  refine ⟨fun place => ?_, hset.keepsDirectories (by rw [hnone]; exact nofun)⟩
  by_cases hplace : place = e.directory ++ [name]
  · subst hplace
    rw [sameFileAt_iff, hset, if_pos rfl, hnone]
    exact fun _ => iff_of_false nofun nofun
  · exact hset.sameFileAt hplace

/-! ## What writing a file comes to -/

open Files

/-- The file has been written: the path holds the text, nothing is left of the temporary file, and
all other files are as they were, with the directories that they are in. -/
structure WrittenWhole (path text : String) (root root' : FileNode) : Prop where
  readFile_eq : root'.readFile path = .ok text.toUTF8
  find_temporary : root'.find (temporaryPath path) = .error .notFound
  others : ∀ place, ¬ root'.NamesEntry path place →
    ¬ root'.NamesEntry (temporaryPath path) place → root.SameFileAt root' place
  directories : root.KeepsDirectories root'

/-- The file has not been written: all files but the temporary one are as they were, and so is what
the path leads to, be it a file or a directory. -/
structure LeftAlone (path : String) (root root' : FileNode) : Prop where
  others : ∀ place, ¬ root'.NamesEntry (temporaryPath path) place → root.SameFileAt root' place
  directories : root.KeepsDirectories root'
  /-- What the path holds, it keeps. -/
  readFile_eq : ∀ bytes, root.readFile path = .ok bytes → root'.readFile path = .ok bytes
  /-- What it holds then was there before. -/
  get?_eq : ∀ place bytes, root'.find path = .ok (place, .file bytes) →
    root.get? place = some (.file bytes)

/-- The file itself is another file than the temporary one. -/
theorem leftAlone_of_others {path : String} (hroot : root.content? [] = some .directory)
    (hdirectories : root.KeepsDirectories root')
    (hothers : ∀ place, ¬ root'.NamesEntry (temporaryPath path) place →
      root.SameFileAt root' place) :
    LeftAlone path root root' where
  others := hothers
  directories := hdirectories
  readFile_eq bytes h := by
    obtain ⟨place, hfind⟩ := readFile_eq_ok.1 h
    obtain ⟨e, name, hfollow, hlast, htrailing, rfl, hfile⟩ := (find_file_iff hroot).1 hfind
    have hfollow' := hdirectories.follow hfollow
    have hsame := hothers _ (not_namesEntry_temporaryPath hfollow' hlast htrailing)
    refine readFile_of_follow (hdirectories _ hroot) hfollow' hlast htrailing ?_
    exact (sameFileAt_iff.1 hsame bytes).2 hfile
  get?_eq place bytes h := by
    obtain ⟨e, name, hfollow, hlast, htrailing, rfl, hfile⟩ :=
      (find_file_iff (hdirectories _ hroot)).1 h
    have hsame := hothers _ (not_namesEntry_temporaryPath hfollow hlast htrailing)
    exact (hsame bytes).1 (content?_eq_file.1 hfile)

/-- The ways in which writing a file can end, from a tree on that has the directories. -/
inductive Ends (path text : String) (root : FileNode) : Except Error Unit → FileNode → Prop
  /-- Nothing has been written. -/
  | unwritten (e : Error) : Ends path text root (.error e) root
  /-- The temporary file has been written, perhaps in part, and has not been moved. -/
  | unmoved (e : Error) {bytes : ByteArray} {root' : FileNode}
    (hwrite : root.writeFile (temporaryPath path) bytes = .ok root') :
    Ends path text root (.error e) root'
  /-- The temporary file has been written and moved. -/
  | moved {written root' : FileNode}
    (hwrite : root.writeFile (temporaryPath path) text.toUTF8 = .ok written)
    (hrename : written.rename (temporaryPath path) path = .ok root') :
    Ends path text root (.ok ()) root'

variable {path text : String}

/-- Whatever has been written, it is not the file itself. -/
theorem leftAlone_of_ends {grown : FileNode} {e : Error}
    (hroot : root.content? [] = some .directory) (hgrown : root.GainsDirectories grown)
    (h : Ends path text grown (.error e) root') : LeftAlone path root root' := by
  have hroot' := hgrown.directories _ hroot
  cases h with
  | unwritten =>
    exact leftAlone_of_others hroot hgrown.directories fun place _ => hgrown.files place
  | unmoved _ hwrite =>
    obtain ⟨t, name, hfollow, hlast, -, hbare, hset⟩ := writeFile_eq_ok hroot' hwrite
    have hkeeps := hset.keepsDirectories hbare
    refine leftAlone_of_others hroot (fun p hp => hkeeps p (hgrown.directories p hp)) ?_
    intro place hother
    have hplace : place ≠ t.directory ++ [name] := by
      rintro rfl
      exact hother ⟨t, name, hkeeps.follow hfollow, hlast, rfl⟩
    exact (hgrown.files place).trans (hset.sameFileAt hplace)

/-- **Moving the temporary file** after it has been written: the file holds what has been written,
nothing is at the place of the temporary file, and everything else is as it was. -/
theorem content?_of_moved {written : FileNode} {bytes : ByteArray}
    (hroot : root.content? [] = some .directory)
    (hwrite : root.writeFile (temporaryPath path) bytes = .ok written)
    (hrename : written.rename (temporaryPath path) path = .ok root') :
    ∃ e name t temporary, root'.follow path = .ok e ∧ e.last = .name name ∧ e.trailing = false ∧
      root'.follow (temporaryPath path) = .ok t ∧ t.last = .name temporary ∧
      root.KeepsDirectories root' ∧ ∀ p, root'.content? p =
        if p = e.directory ++ [name] then some (.file bytes)
        else if p = t.directory ++ [temporary] then none else root.content? p := by
  obtain ⟨t, temporary, ht, htemporary, -, hbare, hset⟩ := writeFile_eq_ok hroot hwrite
  have hkeeps := hset.keepsDirectories hbare
  obtain ⟨s, e, moved, name, others, between, hs, hmoved, he, hname, htrailing, hfile, hplain,
    htaken, hput⟩ := rename_eq_ok (hkeeps _ hroot) hrename
  -- the path of the temporary file still leads where it did
  have ht := hkeeps.follow ht
  cases hs.symm.trans ht
  cases hmoved.symm.trans htemporary
  rw [hset, if_pos rfl] at hfile
  cases hfile
  have hapart : e.directory ++ [name] ≠ t.directory ++ [temporary] := by
    intro hsame
    exact not_namesEntry_temporaryPath he hname htrailing ⟨t, temporary, hs, htemporary, hsame⟩
  have htakenKeeps : written.KeepsDirectories between :=
    htaken.keepsDirectories (by rw [hset, if_pos rfl]; exact nofun)
  have hputKeeps : between.KeepsDirectories root' :=
    hput.keepsDirectories (by rw [htaken, if_neg hapart]; exact hplain)
  refine ⟨e, name, t, temporary, hputKeeps.follow (htakenKeeps.follow he), hname, htrailing,
    hputKeeps.follow (htakenKeeps.follow ht), htemporary,
    fun p hp => hputKeeps p (htakenKeeps p (hkeeps p hp)), fun p => ?_⟩
  rw [hput, htaken, hset]
  by_cases hp : p = t.directory ++ [temporary] <;> simp [hp]

/-- What has been written to the temporary file is now in the file. -/
theorem writtenWhole_of_ends {grown : FileNode} (hroot : root.content? [] = some .directory)
    (hgrown : root.GainsDirectories grown) (h : Ends path text grown (.ok ()) root') :
    WrittenWhole path text root root' := by
  cases h with
  | moved hwrite hrename =>
    have hroot := hgrown.directories _ hroot
    obtain ⟨e, name, t, temporary, he, hname, htrailing, ht, htemporary, hdirectories, hcontent⟩ :=
      content?_of_moved hroot hwrite hrename
    have hapart : t.directory ++ [temporary] ≠ e.directory ++ [name] := fun hsame =>
      not_namesEntry_temporaryPath he hname htrailing ⟨t, temporary, ht, htemporary, hsame.symm⟩
    constructor
    case readFile_eq =>
      refine readFile_of_follow ?_ he hname htrailing ?_
      · rw [hcontent, if_neg (by simp), if_neg (by simp), hroot]
      · rw [hcontent, if_pos rfl]
    case find_temporary =>
      refine find_eq_notFound ht ?_
      rw [PathEnd.location, htemporary, hcontent, if_neg hapart, if_pos rfl]
    case others =>
      intro place hpath htemporaryPath
      have hplace : place ≠ e.directory ++ [name] := by
        rintro rfl
        exact hpath ⟨e, name, he, hname, rfl⟩
      have hplace' : place ≠ t.directory ++ [temporary] := by
        rintro rfl
        exact htemporaryPath ⟨t, temporary, ht, htemporary, rfl⟩
      refine (hgrown.files place).trans (sameFileAt_iff.2 fun bytes => ?_)
      rw [hcontent, if_neg hplace, if_neg hplace']
    case directories => exact fun p hp => hdirectories p (hgrown.directories p hp)

end FileNode

/-! ## Places to work -/

/-- A place to work that keeps a tree of files. An operation that succeeds does to the tree what it
does to trees. If it fails, a directory or a file may have been made all the same, and the file
written in part; a file that cannot be moved stays. -/
structure Drive (σ : Type) [Files (StateM σ)] where
  tree : σ → FileNode
  tree_isDirectory : ∀ path s, tree ((Files.isDirectory path : StateM σ _).run s).2 = tree s
  makeDirectory_ok : ∀ path s s', (Files.makeDirectory path : StateM σ _).run s = (.ok (), s') →
    (tree s).makeDirectory path = .ok (tree s')
  makeDirectory_error : ∀ path s failure s',
    (Files.makeDirectory path : StateM σ _).run s = (.error failure, s') →
      tree s' = tree s ∨ (tree s).makeDirectory path = .ok (tree s')
  writeFile_ok : ∀ path text s s', (Files.writeFile path text : StateM σ _).run s = (.ok (), s') →
    (tree s).writeFile path text.toUTF8 = .ok (tree s')
  writeFile_error : ∀ path text s failure s',
    (Files.writeFile path text : StateM σ _).run s = (.error failure, s') →
      tree s' = tree s ∨ ∃ bytes, (tree s).writeFile path bytes = .ok (tree s')
  rename_ok : ∀ source target s s',
    (Files.rename source target : StateM σ _).run s = (.ok (), s') →
      (tree s).rename source target = .ok (tree s')
  rename_error : ∀ source target s failure s',
    (Files.rename source target : StateM σ _).run s = (.error failure, s') → tree s' = tree s

namespace OnTree

variable {f : FileNode → Except FileFailure FileNode} {w w' : Workspace}

theorem run_changing : (changing f).run w =
    match f w.root with
    | .ok root => (.ok (), { w with root })
    | .error failure => (.error failure, w) := rfl

theorem changing_ok (h : (changing f).run w = (.ok (), w')) : f w.root = .ok w'.root := by
  rw [run_changing] at h
  generalize f w.root = changed at h
  cases changed <;> cases h
  rfl

theorem changing_error {failure : FileFailure} (h : (changing f).run w = (.error failure, w')) :
    w'.root = w.root := by
  rw [run_changing] at h
  generalize f w.root = changed at h
  cases changed <;> cases h
  rfl

/-- A tree of files on which operations fail for good reasons only. -/
def drive : Drive Workspace where
  tree := Workspace.root
  tree_isDirectory _ _ := rfl
  makeDirectory_ok _ _ _ h := changing_ok h
  makeDirectory_error _ _ _ _ h := .inl (changing_error h)
  writeFile_ok _ _ _ _ h := changing_ok h
  writeFile_error _ _ _ _ _ h := .inl (changing_error h)
  rename_ok _ _ _ _ h := changing_ok h
  rename_error _ _ _ _ _ h := changing_error h

end OnTree

namespace Files

open FileNode Batch

variable {σ : Type} [Files (StateM σ)] (D : Drive σ)

/-- Whether or not the directory can be made. -/
theorem gainsDirectories_makeDirectory (path : String) {s : σ}
    (hroot : (D.tree s).content? [] = some .directory) :
    (D.tree s).GainsDirectories (D.tree ((makeDirectory path : StateM σ _).run s).2) := by
  cases hrun : (makeDirectory path : StateM σ _).run s with
  | mk result s' =>
    cases result with
    | ok =>
      exact gainsDirectories_of_makeDirectory hroot (D.makeDirectory_ok path s s' hrun)
    | error failure =>
      rcases D.makeDirectory_error path s failure s' hrun with hsame | hmade
      · exact hsame ▸ GainsDirectories.refl _
      · exact gainsDirectories_of_makeDirectory hroot hmade

/-- Asking whether there is a directory makes none. -/
theorem tree_ensureOne (path : String) (s : σ) :
    D.tree ((ensureOne path : StateM σ _).run s).2 =
      D.tree ((makeDirectory path : StateM σ _).run s).2 := by
  unfold ensureOne
  rw [StateT.run_bind]
  generalize (makeDirectory path : StateM σ _).run s = made
  obtain ⟨failure | _, s'⟩ := made
  · exact D.tree_isDirectory path s'
  · rfl

theorem gainsDirectories_ensureAll (paths : List String) {s : σ}
    (hroot : (D.tree s).content? [] = some .directory) :
    (D.tree s).GainsDirectories (D.tree ((ensureAll paths : StateM σ _).run s).2) := by
  induction paths generalizing s with
  | nil => exact GainsDirectories.refl _
  | cons path above ih =>
    have hmade := gainsDirectories_makeDirectory D path hroot
    unfold ensureAll
    rw [StateT.run_bind]
    generalize (makeDirectory path : StateM σ _).run s = made at hmade
    obtain ⟨failure | _, s'⟩ := made
    · cases failure
      case notFound =>
        have hroot' := hmade.directories _ hroot
        have habove := hmade.trans (ih hroot')
        show (D.tree s).GainsDirectories (D.tree ((_ >>= _ : StateM σ _).run s').2)
        rw [StateT.run_bind]
        generalize (ensureAll above : StateM σ _).run s' = made at habove
        obtain ⟨failure | _, s''⟩ := made
        · exact habove
        · refine habove.trans ?_
          show (D.tree s'').GainsDirectories (D.tree ((ensureOne path : StateM σ _).run s'').2)
          rw [tree_ensureOne]
          exact gainsDirectories_makeDirectory D path (habove.directories _ hroot)
      all_goals
        show (D.tree s).GainsDirectories (D.tree ((Files.isDirectory path : StateM σ _).run s').2)
        rw [D.tree_isDirectory]
        exact hmade
    · exact hmade

theorem gainsDirectories_ensureParents (path : String) {s : σ}
    (hroot : (D.tree s).content? [] = some .directory) :
    (D.tree s).GainsDirectories (D.tree (outcome (ensureParents (m := StateM σ) path) s).2) := by
  unfold ensureParents
  cases Path.parents path with
  | nil => exact GainsDirectories.refl _
  | cons parent above =>
    show (D.tree s).GainsDirectories (D.tree (outcome (orFail _ (ensureAll _)) s).2)
    rw [outcome_orFail]
    exact gainsDirectories_ensureAll D (parent :: above) hroot

/-- The steps that writing a file takes, up to the one that fails. -/
inductive Steps (path text : String) (s : σ) : Except Error Unit → σ → Prop
  | unprepared {e : Error} {s' : σ} (hparents : outcome (ensureParents path) s = (.error e, s')) :
    Steps path text s (.error e) s'
  | unwritten {failure : FileFailure} {s₁ s' : σ}
    (hparents : outcome (ensureParents path) s = (.ok (), s₁))
    (hwrite : (writeFile (temporaryPath path) text : StateM σ _).run s₁ = (.error failure, s')) :
    Steps path text s (.error (.write (temporaryPath path) failure)) s'
  | unmoved {failure : FileFailure} {s₁ s₂ s' : σ}
    (hparents : outcome (ensureParents path) s = (.ok (), s₁))
    (hwrite : (writeFile (temporaryPath path) text : StateM σ _).run s₁ = (.ok (), s₂))
    (hrename : (rename (temporaryPath path) path : StateM σ _).run s₂ = (.error failure, s')) :
    Steps path text s (.error (.write path failure)) s'
  | moved {s₁ s₂ s' : σ} (hparents : outcome (ensureParents path) s = (.ok (), s₁))
    (hwrite : (writeFile (temporaryPath path) text : StateM σ _).run s₁ = (.ok (), s₂))
    (hrename : (rename (temporaryPath path) path : StateM σ _).run s₂ = (.ok (), s')) :
    Steps path text s (.ok ()) s'

theorem steps_writeAtomic (path text : String) (s : σ) :
    Steps path text s (outcome (writeAtomic path text) s).1
      (outcome (writeAtomic path text) s).2 := by
  unfold writeAtomic
  rw [outcome_bind]
  cases hparents : outcome (ensureParents path) s with
  | mk prepared s₁ =>
    cases prepared with
    | error e => exact .unprepared hparents
    | ok =>
      simp only
      rw [outcome_bind, outcome_orFail]
      cases hwrite : (writeFile (temporaryPath path) text : StateM σ _).run s₁ with
      | mk written s₂ =>
        cases written with
        | error failure => exact .unwritten hparents hwrite
        | ok =>
          show Steps path text s (outcome (orFail _ _) s₂).1 (outcome (orFail _ _) s₂).2
          rw [outcome_orFail]
          cases hrename : (rename (temporaryPath path) path : StateM σ _).run s₂ with
          | mk moved s₃ =>
            cases moved with
            | error failure => exact .unmoved hparents hwrite hrename
            | ok => exact .moved hparents hwrite hrename

/-- How writing a file ends, once there are the directories that can be made. -/
theorem ends_writeAtomic (path text : String) {s : σ}
    (hroot : (D.tree s).content? [] = some .directory) :
    ∃ grown, (D.tree s).GainsDirectories grown ∧
      Ends path text grown (outcome (writeAtomic path text) s).1
        (D.tree (outcome (writeAtomic path text) s).2) := by
  refine ⟨_, gainsDirectories_ensureParents D path hroot, ?_⟩
  have hsteps := steps_writeAtomic path text s
  generalize outcome (writeAtomic path text) s = reached at hsteps
  obtain ⟨result, s'⟩ := reached
  cases hsteps with
  | unprepared hparents =>
    rw [hparents]
    exact .unwritten _
  | unwritten hparents hwrite =>
    rw [hparents]
    rcases D.writeFile_error _ _ _ _ _ hwrite with hsame | ⟨bytes, hpart⟩
    · exact hsame ▸ .unwritten _
    · exact .unmoved _ hpart
  | unmoved hparents hwrite hrename =>
    rw [hparents]
    show Ends path text _ _ (D.tree s')
    rw [D.rename_error _ _ _ _ _ hrename]
    exact .unmoved _ (D.writeFile_ok _ _ _ _ hwrite)
  | moved hparents hwrite hrename =>
    rw [hparents]
    exact .moved (D.writeFile_ok _ _ _ _ hwrite) (D.rename_ok _ _ _ _ hrename)

/-- **A file is written as a whole, or not at all.** If writing succeeds, the path holds just the
text, nothing is left of the temporary file, and every other file is as it was. If it fails, every
file but the temporary one is as it was, and so is what the path leads to. -/
theorem write_atomic (path text : String) (s : σ) (hroot : (D.tree s).isDirectory = true) :
    (∀ s', outcome (writeAtomic path text) s = (.ok (), s') →
      WrittenWhole path text (D.tree s) (D.tree s')) ∧
    ∀ e s', outcome (writeAtomic path text) s = (.error e, s') →
      LeftAlone path (D.tree s) (D.tree s') := by
  have hroot := content?_of_isDirectory hroot
  obtain ⟨grown, hgrown, hends⟩ := ends_writeAtomic D path text hroot
  constructor
  · intro s' h
    rw [h] at hends
    exact writtenWhole_of_ends hroot hgrown hends
  · intro e s' h
    rw [h] at hends
    exact leftAlone_of_ends hroot hgrown hends

/-- A module that has been generated before, with what is left of a run that was cut short, and a
directory in place of another module. -/
def modules : Workspace where
  root := .directory
    [("out", .directory
      [("mod.rs", .file "mod books;".toUTF8), ("mod.rs.tmp", .file "mod".toUTF8),
        ("books.rs", .directory [("notes.txt", .file "draft".toUTF8)])])]

theorem write_atomic_modules :
    (∃ s', outcome (writeAtomic "out/mod.rs" "mod authors;") modules = (.ok (), s') ∧
      WrittenWhole "out/mod.rs" "mod authors;" modules.root s'.root) ∧
    ∃ e s', outcome (writeAtomic "out/books.rs" "mod v1;") modules = (.error e, s') ∧
      LeftAlone "out/books.rs" modules.root s'.root := by
  constructor
  · have hok : (outcome (writeAtomic "out/mod.rs" "mod authors;") modules).1.isOk = true := by
      decide +kernel
    cases hreached : outcome (writeAtomic "out/mod.rs" "mod authors;") modules with
    | mk result s' =>
      rw [hreached] at hok
      cases result with
      | error e => cases hok
      | ok => exact ⟨s', rfl, (write_atomic OnTree.drive _ _ modules rfl).1 s' hreached⟩
  · have hok : (outcome (writeAtomic "out/books.rs" "mod v1;") modules).1.isOk = false := by
      decide +kernel
    cases hreached : outcome (writeAtomic "out/books.rs" "mod v1;") modules with
    | mk result s' =>
      rw [hreached] at hok
      cases result with
      | error e => exact ⟨e, s', rfl, (write_atomic OnTree.drive _ _ modules rfl).2 e s' hreached⟩
      | ok => cases hok

end Files

end ClientGen
