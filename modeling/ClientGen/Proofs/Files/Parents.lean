import ClientGen.Proofs.Files.Atomic

/-!
# The directories that lead to a file

Before a file is written, the directories that lead to it are made: those that the path has in front
of the last name that is not blank, `parents_eq`. The temporary file is in the last one of them,
whatever blank names are behind the name of the file, `exists_names_temporaryPath`.

If the path of the temporary file can be followed, all of them are there,
`leadsToDirectory_parents`. Where it is known what is a directory, making them fails only if one is
missing in the end, `exists_missing_of_ensureAll`. After that, the path of the temporary file leads
to no name at all, `ne_name_of_ensureParents`.
-/

namespace ClientGen

/-! ## The beginnings of a path -/

namespace Path

variable {path : String} {before beginning : List (List Char)} {last : List Char}

/-- A beginning of a path ends in one of its names. -/
theorem exists_of_mem_beginnings {names : List (List Char)}
    (h : beginning ∈ beginnings before names) :
    ∃ front last rest, names = front ++ last :: rest ∧ beginning = before ++ front ++ [last] ∧
      last ≠ [] := by
  induction names generalizing before with
  | nil => cases h
  | cons name names ih =>
    rw [beginnings] at h
    obtain ⟨hhere, rfl⟩ | hrest : counts before name = true ∧ beginning = before ++ [name] ∨
        beginning ∈ beginnings (before ++ [name]) names := by
      cases hcounts : counts before name <;> simpa [hcounts] using h
    · refine ⟨[], name, names, rfl, by simp, ?_⟩
      rintro rfl
      cases hhere
    · obtain ⟨front, last, rest, rfl, rfl, hlast⟩ := ih hrest
      exact ⟨name :: front, last, rest, rfl, by simp, hlast⟩

/-- Behind the last beginning of a path, all names are blank. -/
theorem exists_of_getLast?_beginnings {names : List (List Char)}
    (h : (beginnings before names).getLast? = some beginning) :
    ∃ front last rest, names = front ++ last :: rest ∧ beginning = before ++ front ++ [last] ∧
      last ≠ [] ∧ ∀ name ∈ rest, IsBlank name := by
  induction names generalizing before with
  | nil => cases h
  | cons name names ih =>
    by_cases hnone : beginnings (before ++ [name]) names = []
    · obtain ⟨hhere, rfl⟩ : counts before name = true ∧ before ++ [name] = beginning := by
        rw [beginnings, hnone] at h
        split at h
        · exact ⟨‹_›, Option.some.inj h⟩
        · cases h
      refine ⟨[], name, names, rfl, by simp, ?_, (beginnings_eq_nil_iff (by simp)).1 hnone⟩
      rintro rfl
      cases hhere
    · have hrest : (beginnings (before ++ [name]) names).getLast? = some beginning := by
        obtain ⟨b, bs, hsome⟩ := List.exists_cons_of_ne_nil hnone
        rw [beginnings, hsome] at h
        rw [hsome]
        split at h
        · exact (List.getLast?_cons_cons ..).symm.trans h
        · exact h
      obtain ⟨front, last, rest, rfl, rfl, hlast, hblank⟩ := ih hrest
      exact ⟨name :: front, last, rest, rfl, by simp, hlast, hblank⟩

/-- The names of a path that names a file. -/
theorem names_of_fileName? (h : fileName? path = some (before, last)) :
    ∃ rest, names path = before ++ last :: rest ∧ IsFileName last ∧
      ∀ name ∈ rest, IsBlank name := by
  unfold fileName? at h
  split at h
  · cases h
  · rename_i beginning hbeginning
    obtain ⟨front, name, rest, hnames, rfl, hname, hrest⟩ :=
      exists_of_getLast?_beginnings hbeginning
    rw [List.nil_append, List.getLast?_concat, List.dropLast_concat] at h
    simp only at h
    split at h
    · cases h
    · rename_i hfile
      cases h
      exact ⟨rest, hnames, ⟨hname, (not_or.1 hfile).1, (not_or.1 hfile).2⟩, hrest⟩

/-- The directories that lead to a file. -/
theorem parents_eq (h : fileName? path = some (before, last)) :
    parents path = (beginnings [] before).reverse.map ofNames := by
  obtain ⟨rest, hnames, hfile, hrest⟩ := names_of_fileName? h
  rw [parents, ancestors, hnames, beginnings_append [] before hfile.not_isBlank hrest,
    List.reverse_concat, List.map_cons, List.tail_cons]

/-- The temporary file is in the directory of the file, if it has a name of its own. -/
theorem exists_names_temporaryPath (h : fileName? path = some (before, last))
    (hkept : fileName? (kept path) ≠ none) :
    ∃ name, names (Files.temporaryPath path) = before ++ [name] ∧ name ≠ [] := by
  have hextension : '/' ∉ Files.temporaryExtension.toList := by decide
  obtain ⟨rest, hnames, hfile, hrest⟩ := names_of_fileName? h
  rw [temporaryPath_eq]
  rcases names_kept hnames hfile hrest with
    ⟨-, hsame⟩ | ⟨front, back, more, others, hfront, -, -, hothers, hblank, -⟩
  · rw [hsame, names_putExtension hnames hfile hrest hextension]
    exact ⟨_, rfl, by simp⟩
  · have hname : IsFileName (front ++ '.' :: more) := by
      refine ⟨by simp, ?_, ?_⟩
      · simp [List.append_eq_cons_iff, hfront]
      · intro hup
        rw [hup] at hothers
        exact hkept (fileName?_up hothers hblank)
    rw [names_putExtension hothers hname hblank hextension]
    exact ⟨_, rfl, by simp⟩

/-- A path up to some of its names. -/
theorem toList_of_names {rest : List (List Char)} (hnames : names path = before ++ rest)
    (hbefore : before ≠ []) (hrest : rest ≠ []) :
    path.toList = (ofNames before).toList ++ '/' :: ['/'].intercalate rest := by
  have hslash : ∀ name ∈ before ++ rest, '/' ∉ name :=
    fun name hname => not_mem_of_mem_names (hnames ▸ hname)
  have hpieces : Text.pieces '/' (['/'].intercalate before ++ '/' :: ['/'].intercalate rest) =
      before ++ rest := by
    rw [Text.pieces_append,
      Text.pieces_intercalate hbefore fun name hname => hslash name (List.mem_append_left _ hname),
      Text.pieces_intercalate hrest fun name hname => hslash name (List.mem_append_right _ hname)]
  rw [ofNames, String.toList_ofList, ← Text.intercalate_pieces '/' path.toList,
    ← Text.intercalate_pieces '/' (['/'].intercalate before ++ '/' :: ['/'].intercalate rest),
    hpieces, ← hnames, names]

end Path

/-! ## Following a path to its directories -/

namespace FileNode

open ClientGen.Path

variable {root : FileNode} {path name : String} {e : PathEnd}

/-- A path that leads to the name of something names a file. -/
theorem fileName?_ne_none (h : root.follow path = .ok e) (hlast : e.last = .name name) :
    fileName? path ≠ none := by
  obtain ⟨-, -, -, hend, -⟩ := follow_eq_ok_iff.1 h
  obtain ⟨hfile, -⟩ := isFileName_of_lastName (hend.symm.trans hlast)
  have hsplit := List.takeWhile_append_dropWhile (p := fun n => decide (n = []))
    (l := (names path).reverse)
  obtain ⟨rest, hrest⟩ : ∃ rest, (names path).reverse.dropWhile (· = []) =
      (walk path).last :: rest := by
    cases hdrop : (names path).reverse.dropWhile (· = []) with
    | nil =>
      refine absurd ?_ hfile.ne_nil
      rw [walk, hdrop]
      rfl
    | cons last rest =>
      refine ⟨rest, ?_⟩
      rw [walk, hdrop]
      rfl
  rw [hrest] at hsplit
  have hnames := congrArg List.reverse hsplit
  rw [List.reverse_reverse, List.reverse_append, List.reverse_cons, List.append_assoc,
    List.singleton_append] at hnames
  rw [fileName?_of_names hnames.symm hfile]
  · exact Option.some_ne_none _
  · intro name hname
    have hempty := List.mem_takeWhile_imp (List.mem_reverse.1 hname)
    exact .inl (by simpa using hempty)

/-- A step leads to the place that its name stands for. -/
theorem location_of_step {here there : Location} {last : List Char}
    (h : root.step here last = .ok there) :
    isTooLong last = false ∧ PathEnd.location ⟨here, lastName last, false⟩ = there := by
  rw [step_eq_ok] at h
  unfold lastName
  by_cases hself : last = [] ∨ last = ['.']
  · rw [if_pos hself] at h ⊢
    refine ⟨?_, h.symm⟩
    rcases hself with rfl | rfl <;> decide
  · rw [if_neg hself] at h ⊢
    by_cases hup : last = ['.', '.']
    · rw [if_pos hup] at h ⊢
      refine ⟨?_, h.symm⟩
      rw [hup]
      decide
    · rw [if_neg hup] at h ⊢
      exact ⟨h.1, h.2.1.symm⟩

/-- A path leads to a directory if its names do, one after the other. -/
theorem leadsToDirectory_of_steps {names : List (List Char)} {last : List Char} {there : Location}
    (hroot : root.content? [] = some .directory) (hpath : IsPath path)
    (hnames : Path.names path = names ++ [last]) (hlast : last ≠ [])
    (hsteps : (names ++ [last]).foldlM root.step [] = .ok there) :
    root.leadsToDirectory path = true := by
  have hthere := content?_steps hroot hsteps
  rw [List.foldlM_append, bind_eq_ok] at hsteps
  obtain ⟨here, hhere, hstep⟩ := hsteps
  rw [List.foldlM_cons, bind_eq_ok] at hstep
  obtain ⟨there', hstep, hend⟩ := hstep
  cases hend
  obtain ⟨hsize, hlocation⟩ := location_of_step hstep
  have hfollow : root.follow path = .ok ⟨here, lastName last, false⟩ := by
    rw [follow_eq_ok_iff, walk_of_names hnames hlast]
    exact ⟨hpath, hhere, hsize, rfl, rfl⟩
  obtain ⟨node, hget, hnode⟩ := Option.map_eq_some_iff.1 hthere
  cases node with
  | file bytes => cases hnode
  | directory entries =>
    rw [leadsToDirectory, find_of_follow hfollow, hlocation, hget]
    rfl

/-- The path up to some of its names is that of a path. -/
theorem isPath_ofNames {before rest : List (List Char)} (hpath : IsPath path)
    (hnames : names path = before ++ rest) (hbefore : before ≠ [[]]) (hnil : before ≠ [])
    (hrest : rest ≠ []) : IsPath (ofNames before) := by
  have htext := toList_of_names hnames hnil hrest
  have hslash : ∀ name ∈ before, '/' ∉ name :=
    fun name hname => not_mem_of_mem_names (hnames ▸ List.mem_append_left rest hname)
  refine ⟨fun hnul => hpath.no_nul ?_, ?_, ?_⟩
  · rw [htext]
    exact List.mem_append_left _ hnul
  · intro hempty
    have hself := names_ofNames hnil hslash
    rw [hempty] at hself
    exact hbefore hself.symm
  · have happend : path = ofNames before ++ String.ofList ('/' :: ['/'].intercalate rest) := by
      rw [← String.toList_inj, String.toList_append, String.toList_ofList, htext]
    refine Nat.le_trans ?_ hpath.size
    rw [happend, String.utf8ByteSize_append]
    exact Nat.le_add_right _ _

/-- **The directories are there** if the path of the temporary file can be followed. -/
theorem leadsToDirectory_parents (hroot : root.content? [] = some .directory)
    (h : root.follow (Files.temporaryPath path) = .ok e) (hlast : e.last = .name name) :
    ∀ parent ∈ parents path, root.leadsToDirectory parent = true := by
  have hkept : fileName? (kept path) ≠ none := by
    intro hnone
    have hsame : Files.temporaryPath path = kept path := by
      rw [temporaryPath_eq, putExtension, hnone]
    rw [hsame] at h
    exact fileName?_ne_none h hlast hnone
  obtain ⟨⟨before, last⟩, hfile⟩ : ∃ named, fileName? path = some named := by
    cases hfile : fileName? path with
    | some named => exact ⟨named, rfl⟩
    | none =>
      refine absurd ?_ hkept
      have hwhole : kept path = path := by
        rw [kept, extensionLength, hfile, Option.bind_none, Option.getD_none, List.length_nil,
          Nat.sub_zero, ← String.length_toList, List.take_length, String.ofList_toList]
      rw [hwhole, hfile]
  obtain ⟨temporary, hnames, htemporary⟩ := exists_names_temporaryPath hfile hkept
  obtain ⟨hsteps, -⟩ := follow_eq_ok hnames htemporary h
  obtain ⟨hpath, -⟩ := follow_eq_ok_iff.1 h
  intro parent hparent
  rw [parents_eq hfile, List.mem_map] at hparent
  obtain ⟨beginning, hbeginning, rfl⟩ := hparent
  obtain ⟨front, name, rest, rfl, rfl, hname⟩ :=
    exists_of_mem_beginnings (List.mem_reverse.1 hbeginning)
  have hsplit : front ++ name :: rest = (front ++ [name]) ++ rest := by simp
  rw [hsplit, List.foldlM_append, bind_eq_ok] at hsteps
  obtain ⟨there, hthere, -⟩ := hsteps
  rw [hsplit, List.append_assoc] at hnames
  have hslash : ∀ n ∈ front ++ [name], '/' ∉ n :=
    fun n hn => not_mem_of_mem_names (hnames ▸ List.mem_append_left _ hn)
  have hne : front ++ [name] ≠ [[]] := by
    intro hempty
    have hlast := congrArg List.getLast? hempty
    rw [List.getLast?_concat] at hlast
    exact hname (Option.some.inj hlast)
  rw [List.nil_append]
  refine leadsToDirectory_of_steps hroot (isPath_ofNames hpath hnames hne (by simp) (by simp))
    (names_ofNames (by simp) hslash) hname hthere

end FileNode

/-! ## Making the directories -/

namespace Files

open FileNode Batch

variable {σ : Type} [Files (StateM σ)] {D : Drive σ}

/-- Asked whether there is a directory at a path, the place to work says what its tree has. -/
def Answers (D : Drive σ) : Prop :=
  ∀ path s, ((isDirectory path : StateM σ _).run s).1 = (D.tree s).leadsToDirectory path

/-- A directory that could not be made is asked for, and is missing. -/
theorem missing_of_asked (hanswers : Answers D) {path : String} {failure failure' : FileFailure}
    {s s' : σ}
    (h : (do return if ← isDirectory path then .ok () else .error failure :
      StateM σ (Except FileFailure Unit)).run s = (.error failure', s')) :
    (D.tree s').leadsToDirectory path = false := by
  have hanswer := hanswers path s
  have htree := D.tree_isDirectory path s
  rw [StateT.run_bind] at h
  generalize (isDirectory path : StateM σ _).run s = asked at h hanswer htree
  obtain ⟨answer, s₁⟩ := asked
  cases answer with
  | true => cases h
  | false =>
    cases h
    exact (congrArg (·.leadsToDirectory path) htree).trans hanswer.symm

/-- If the directories cannot be made, one of them is missing in the end. -/
theorem exists_missing_of_ensureAll (hanswers : Answers D) {paths : List String} {s s' : σ}
    {failure : FileFailure} (h : (ensureAll paths : StateM σ _).run s = (.error failure, s')) :
    ∃ path ∈ paths, (D.tree s').leadsToDirectory path = false := by
  induction paths generalizing s s' failure with
  | nil => cases h
  | cons path above ih =>
    unfold ensureAll at h
    rw [StateT.run_bind] at h
    generalize (makeDirectory path : StateM σ _).run s = made at h
    obtain ⟨refused | _, s₁⟩ := made
    · cases refused
      case notFound =>
        -- the directories above are made first
        have h : (ensureAll above >>= _ : StateM σ _).run s₁ = _ := h
        rw [StateT.run_bind] at h
        cases habove : (ensureAll above : StateM σ _).run s₁ with
        | mk result s₂ =>
          rw [habove] at h
          cases result with
          | error refused =>
            cases h
            obtain ⟨missing, hmem, hmissing⟩ := ih habove
            exact ⟨missing, List.mem_cons_of_mem _ hmem, hmissing⟩
          | ok =>
            have h : (makeDirectory path >>= _ : StateM σ _).run s₂ = _ := h
            rw [StateT.run_bind] at h
            generalize (makeDirectory path : StateM σ _).run s₂ = made at h
            obtain ⟨refused | _, s₃⟩ := made
            · exact ⟨path, List.mem_cons_self, missing_of_asked hanswers h⟩
            · cases h
      all_goals exact ⟨path, List.mem_cons_self, missing_of_asked hanswers h⟩
    · cases h

/-- **The temporary file has no place** if the directories cannot be made. -/
theorem ne_name_of_ensureParents (hanswers : Answers D) {path name : String} {s s' : σ} {e : Error}
    {p : PathEnd} (hroot : (D.tree s').content? [] = some .directory)
    (h : outcome (ensureParents path) s = (.error e, s'))
    (hfollow : (D.tree s').follow (temporaryPath path) = .ok p) : p.last ≠ .name name := by
  intro hlast
  have hthere := leadsToDirectory_parents hroot hfollow hlast
  unfold ensureParents at h
  cases hparents : Path.parents path with
  | nil =>
    rw [hparents] at h
    cases h
  | cons parent above =>
    rw [hparents] at h hthere
    have h : outcome (orFail _ (ensureAll (parent :: above))) s = _ := h
    rw [outcome_orFail] at h
    cases hall : (ensureAll (parent :: above) : StateM σ _).run s with
    | mk result s₁ =>
      rw [hall] at h
      cases result with
      | ok => cases h
      | error failure =>
        cases h
        obtain ⟨missing, hmem, hmissing⟩ := exists_missing_of_ensureAll hanswers hall
        rw [hthere missing hmem] at hmissing
        cases hmissing

end Files

end ClientGen
