import ClientGen.Proofs.Files.Places
import ClientGen.Proofs.Text.Lines
import Mathlib.Data.List.TakeWhile

/-!
# The temporary file of a path

The temporary file has the path of the file with another extension, `names_temporaryPath`: the names
in front are the same, and the last one is what stands before the last period, with ".rs.tmp" behind
it. A name without a period gets the extension too, and so does one that has its only period in
front; the name "..x" becomes "..", which is no file but the directory above. The old extension is
cut off the end of the text, `names_kept`, where names that count for nothing may stand behind that
of the file; the names in front are the same even then.

In no case is it the file itself, whatever the file is called, `temporaryName_ne`. In a tree of
files, the two paths lead to two places, `not_namesEntry_temporaryPath`.
-/

namespace ClientGen

namespace Path

/-! ## Names and extensions -/

variable {name front back : List Char}

/-- A name up to its last period. -/
theorem dropWhile_reverse (front : List Char) (hback : '.' ∉ back) :
    (front ++ '.' :: back).reverse.dropWhile (· ≠ '.') = '.' :: front.reverse := by
  have hpass : ∀ c ∈ back.reverse, decide (c ≠ '.') = true := by
    intro c hc
    simpa using fun h : c = '.' => hback (h ▸ List.mem_reverse.1 hc)
  rw [List.reverse_append, List.reverse_cons, List.append_assoc,
    List.dropWhile_append_of_pos hpass]
  exact List.dropWhile_cons_of_neg (by simp)

/-- What stands before the last period of a name is its stem, if there is anything. -/
theorem stem_append (hfront : front ≠ []) (hback : '.' ∉ back) :
    stem (front ++ '.' :: back) = front := by
  obtain ⟨c, rest, hreverse⟩ := List.exists_cons_of_ne_nil (List.reverse_ne_nil_iff.2 hfront)
  rw [stem, dropWhile_reverse front hback, List.tail_cons, hreverse]
  show (c :: rest).reverse = front
  rw [← hreverse, List.reverse_reverse]

/-- A name is its own stem, or else it is cut at its last period. -/
theorem stem_cases (name : List Char) :
    stem name = name ∨ ∃ front back, front ≠ [] ∧ '.' ∉ back ∧ name = front ++ '.' :: back := by
  by_cases hperiod : '.' ∈ name
  · obtain ⟨front, back, hname, hback⟩ := Text.exists_last_piece hperiod
    by_cases hfront : front = []
    · refine .inl ?_
      rw [stem, hname, dropWhile_reverse front hback, hfront]
      rfl
    · exact .inr ⟨front, back, hfront, hback, hname⟩
  · refine .inl ?_
    have hnone : name.reverse.dropWhile (· ≠ '.') = [] := by
      rw [List.dropWhile_eq_nil_iff]
      intro c hc
      simpa using fun h : c = '.' => hperiod (h ▸ List.mem_reverse.1 hc)
    rw [stem, hnone]
    rfl

/-! ## The name of the temporary file -/

/-- The name can be that of a file. -/
structure IsFileName (name : List Char) : Prop where
  ne_nil : name ≠ []
  ne_self : name ≠ ['.']
  ne_up : name ≠ ['.', '.']

/-- The last name of the path of the temporary file: the stem with another extension, or where the
stem is a period, the directory above. -/
def temporaryName (name : List Char) : List Char :=
  if stem name = ['.'] then ['.', '.'] else stem name ++ '.' :: "rs.tmp".toList

theorem temporaryName_ne_nil (name : List Char) : temporaryName name ≠ [] := by
  unfold temporaryName
  split
  · exact List.cons_ne_nil _ _
  · simp

/-- No file is called like its temporary file. -/
theorem temporaryName_ne (h : IsFileName name) : temporaryName name ≠ name := by
  unfold temporaryName
  split
  · exact h.ne_up.symm
  · intro hname
    have hstem : stem (stem name ++ '.' :: "rs.tmp".toList) = stem name ++ ".rs".toList := by
      have hsplit : stem name ++ '.' :: "rs.tmp".toList =
          (stem name ++ ".rs".toList) ++ '.' :: "tmp".toList := by simp
      rw [hsplit, stem_append (by simp) (by decide)]
    rw [hname] at hstem
    have hlength := congrArg List.length hstem
    simp at hlength

/-! ## The names of the path -/

variable {path : String} {before : List (List Char)} {last : List Char}

/-- The name counts for nothing behind another one. -/
def IsBlank (name : List Char) : Prop :=
  name = [] ∨ name = ['.']

theorem IsFileName.not_isBlank (h : IsFileName name) : ¬ IsBlank name :=
  not_or.2 ⟨h.ne_nil, h.ne_self⟩

theorem not_isBlank_up : ¬ IsBlank ['.', '.'] := by
  simp [IsBlank]

theorem IsBlank.of_begins {other : List Char} (h : IsBlank other) (hbegins : name <+: other) :
    IsBlank name := by
  rcases h with rfl | rfl
  · exact .inl (List.prefix_nil.1 hbegins)
  · rcases List.prefix_cons_iff.1 hbegins with rfl | ⟨rest, rfl, hrest⟩
    · exact .inl rfl
    · exact .inr (by rw [List.prefix_nil.1 hrest])

theorem counts_eq_false_iff {name : List Char} (hbefore : before ≠ []) :
    counts before name = false ↔ IsBlank name := by
  simp [counts, hbefore, IsBlank, or_iff_not_imp_left]

/-- Behind another name, blank names are those that begin nothing. -/
theorem beginnings_eq_nil_iff {names : List (List Char)} (hbefore : before ≠ []) :
    beginnings before names = [] ↔ ∀ name ∈ names, IsBlank name := by
  induction names generalizing before with
  | nil => simp [beginnings]
  | cons name rest ih =>
    have hrest : beginnings (before ++ [name]) rest = [] ↔ ∀ n ∈ rest, IsBlank n := ih (by simp)
    rw [beginnings, List.forall_mem_cons, ← hrest, ← counts_eq_false_iff hbefore]
    cases counts before name <;> simp

/-- A path ends in the last of its names that is not blank. -/
theorem beginnings_append (before names : List (List Char)) {rest : List (List Char)}
    (hlast : ¬ IsBlank last) (hrest : ∀ name ∈ rest, IsBlank name) :
    beginnings before (names ++ last :: rest) =
      beginnings before names ++ [before ++ names ++ [last]] := by
  induction names generalizing before with
  | nil =>
    have hcounts : counts before last = true := by
      rw [IsBlank, not_or] at hlast
      simp [counts, hlast]
    have hnone : beginnings (before ++ [last]) rest = [] :=
      (beginnings_eq_nil_iff (by simp)).2 hrest
    simp [beginnings, hcounts, hnone]
  | cons name _ ih =>
    rw [List.cons_append, beginnings, beginnings, ih]
    split <;> simp

/-- What the path names, whatever blank names are behind it. -/
theorem fileName?_of_names {rest : List (List Char)} (hnames : names path = before ++ last :: rest)
    (h : IsFileName last) (hrest : ∀ name ∈ rest, IsBlank name) :
    fileName? path = some (before, last) := by
  simp [fileName?, hnames, beginnings_append _ _ h.not_isBlank hrest, h.ne_self, h.ne_up]

/-- A path that ends in the directory above names no file. -/
theorem fileName?_up {rest : List (List Char)} (hnames : names path = before ++ ['.', '.'] :: rest)
    (hrest : ∀ name ∈ rest, IsBlank name) : fileName? path = none := by
  simp [fileName?, hnames, beginnings_append _ _ not_isBlank_up hrest]

theorem not_mem_of_mem_names {name : List Char} (h : name ∈ names path) : '/' ∉ name :=
  Text.not_mem_of_mem_pieces name h

theorem names_ofNames {ns : List (List Char)} (hne : ns ≠ []) (h : ∀ name ∈ ns, '/' ∉ name) :
    names (ofNames ns) = ns := by
  rw [names, ofNames, String.toList_ofList, Text.pieces_intercalate hne h]

/-- The last names of a path can be replaced in its text. -/
theorem exists_lead {rest : List (List Char)} (hnames : names path = before ++ rest)
    (hrest : rest ≠ []) :
    ∃ lead, path.toList = lead ++ ['/'].intercalate rest ∧
      ∀ text, Text.pieces '/' (lead ++ text) = before ++ Text.pieces '/' text := by
  have hslash : ∀ name ∈ before ++ rest, '/' ∉ name :=
    fun name hname => not_mem_of_mem_names (hnames ▸ hname)
  obtain ⟨lead, hlead⟩ : ∃ lead, ∀ text, Text.pieces '/' (lead ++ text) =
      before ++ Text.pieces '/' text := by
    by_cases hbefore : before = []
    · exact ⟨[], fun text => by rw [hbefore, List.nil_append, List.nil_append]⟩
    · refine ⟨['/'].intercalate before ++ ['/'], fun text => ?_⟩
      have hpieces : ∀ piece ∈ before, '/' ∉ piece := fun piece hpiece =>
        hslash piece (List.mem_append_left rest hpiece)
      rw [List.append_assoc, List.singleton_append, Text.pieces_append,
        Text.pieces_intercalate hbefore hpieces]
  refine ⟨lead, ?_, hlead⟩
  have hpieces : ∀ piece ∈ rest, '/' ∉ piece := fun piece hpiece =>
    hslash piece (List.mem_append_right before hpiece)
  rw [← Text.intercalate_pieces '/' path.toList,
    ← Text.intercalate_pieces '/' (lead ++ ['/'].intercalate rest), hlead,
    Text.pieces_intercalate hrest hpieces, ← hnames, names]

/-- A path with another extension has the same names in front. -/
theorem names_putExtension {rest : List (List Char)} (hnames : names path = before ++ last :: rest)
    (h : IsFileName last) (hrest : ∀ name ∈ rest, IsBlank name) {extension : String}
    (hextension : '/' ∉ extension.toList) :
    names (putExtension path extension) = before ++ [stem last ++ '.' :: extension.toList] := by
  have hslash : ∀ name ∈ before ++ last :: rest, '/' ∉ name :=
    fun name hname => not_mem_of_mem_names (hnames ▸ hname)
  have hself : '/' ∉ last := hslash last (List.mem_append_right _ List.mem_cons_self)
  have hstem : '/' ∉ stem last := by
    intro hmem
    rcases stem_cases last with hstem | ⟨front, back, hfront, hback, rfl⟩
    · exact hself (hstem ▸ hmem)
    · rw [stem_append hfront hback] at hmem
      exact hself (List.mem_append_left _ hmem)
  rw [putExtension, fileName?_of_names hnames h hrest]
  refine names_ofNames (by simp) fun name hname => ?_
  rcases List.mem_append.1 hname with hname | hname
  · exact hslash name (List.mem_append_left _ hname)
  · cases List.mem_singleton.1 hname
    simp [hstem, hextension]

/-! ## The path without its extension -/

/-- The path with the extension of its file cut off the end of the text. -/
def kept (path : String) : String :=
  String.ofList (path.toList.take (path.length - extensionLength path))

theorem temporaryPath_eq (path : String) :
    Files.temporaryPath path = putExtension (kept path) Files.temporaryExtension := rfl

/-- What is cut off ends behind the last period of the file's name. Where there are blank names
behind it, they can be cut off in place of the extension. -/
theorem names_kept {rest : List (List Char)} (hnames : names path = before ++ last :: rest)
    (h : IsFileName last) (hrest : ∀ name ∈ rest, IsBlank name) :
    stem last = last ∧ kept path = path ∨
      ∃ front back more others, front ≠ [] ∧ '.' ∉ back ∧ last = front ++ '.' :: back ∧
        names (kept path) = before ++ (front ++ '.' :: more) :: others ∧
          (∀ name ∈ others, IsBlank name) ∧ (rest = [] → more = [] ∧ others = []) := by
  have hlength : extensionLength path = ((extension? last).getD []).length := by
    rw [extensionLength, fileName?_of_names hnames h hrest]
    rfl
  rcases stem_cases last with hstem | ⟨front, back, hfront, hback, rfl⟩
  · refine .inl ⟨hstem, ?_⟩
    have hnone : extension? last = none := if_pos hstem
    rw [kept, hlength, hnone, Option.getD_none, List.length_nil, Nat.sub_zero,
      ← String.length_toList, List.take_length, String.ofList_toList]
  · obtain ⟨lead, htext, hlead⟩ := exists_lead hnames (List.cons_ne_nil _ _)
    have hslash : ∀ name ∈ (front ++ '.' :: back) :: rest, '/' ∉ name := fun name hname =>
      not_mem_of_mem_names (hnames ▸ List.mem_append_right before hname)
    have hfrontSlash : '/' ∉ front ++ ['.'] := by
      have hself := hslash _ List.mem_cons_self
      simp_all
    have hsome : extension? (front ++ '.' :: back) = some back := by
      rw [extension?, stem_append hfront hback, if_neg (by simp)]
      simp
    obtain ⟨behind, hbehind, hnone⟩ : ∃ behind, ['/'].intercalate ((front ++ '.' :: back) :: rest) =
        (front ++ ['.']) ++ (back ++ behind) ∧ (rest = [] → behind = []) := by
      by_cases hempty : rest = []
      · exact ⟨[], by simp [hempty], fun _ => rfl⟩
      · refine ⟨'/' :: ['/'].intercalate rest, ?_, fun h => absurd h hempty⟩
        rw [List.intercalate_cons_of_ne_nil hempty]
        simp
    have hcut : (Text.cut '/' (back ++ behind)).2 = rest := by
      have hpieces := Text.pieces_intercalate (List.cons_ne_nil _ _) hslash
      rw [hbehind, Text.pieces_prefix hfrontSlash] at hpieces
      exact (List.cons.inj hpieces).2
    -- as much is cut off as the extension has characters, which leaves as much as is behind it
    have hkept : names (kept path) =
        before ++ Text.pieces '/' ((front ++ ['.']) ++ (back ++ behind).take behind.length) := by
      have hsplit : (lead ++ (front ++ ['.'] ++ (back ++ behind))).length - back.length =
          lead.length + ((front ++ ['.']).length + behind.length) := by
        simp only [List.length_append]
        omega
      rw [names, kept, String.toList_ofList, hlength, hsome, Option.getD_some,
        ← String.length_toList, htext, hbehind, hsplit, List.take_length_add_append,
        List.take_length_add_append, hlead]
    have hpieces := Text.pieces_prefix hfrontSlash ((back ++ behind).take behind.length)
    rw [hpieces] at hkept
    have hbegins : (back ++ behind).take behind.length <+: back ++ behind :=
      List.take_prefix _ _
    obtain ⟨-, hothers⟩ := Text.cut_of_begins '/' hbegins
    refine .inr ⟨front, back, _, _, hfront, hback, rfl, by simpa using hkept, ?_, ?_⟩
    · intro name hname
      obtain ⟨other, hother, hbegins⟩ := hothers name hname
      exact (hrest other (hcut ▸ hother)).of_begins hbegins
    · intro hempty
      rw [hnone hempty]
      exact ⟨rfl, rfl⟩

/-- **The temporary file is beside the file**: its path has the same names in front. -/
theorem names_temporaryPath (hnames : names path = before ++ [last]) (h : IsFileName last) :
    names (Files.temporaryPath path) = before ++ [temporaryName last] := by
  have hextension : '/' ∉ Files.temporaryExtension.toList := by decide
  rw [temporaryPath_eq]
  rcases names_kept hnames h (by simp) with
    ⟨hstem, hkept⟩ | ⟨front, back, more, others, hfront, hback, rfl, hkept, -, hnone⟩
  · have hself : stem last ≠ ['.'] := fun heq => h.ne_self (hstem.symm.trans heq)
    rw [hkept, names_putExtension hnames h (by simp) hextension, temporaryName, if_neg hself]
    rfl
  · obtain ⟨rfl, rfl⟩ := hnone rfl
    rw [temporaryName, stem_append hfront hback]
    by_cases hperiod : front = ['.']
    · -- what is left is the directory above, which no extension can be put to
      rw [hperiod] at hkept ⊢
      rw [putExtension, fileName?_up hkept (by simp), if_pos rfl]
      exact hkept
    · have hname : IsFileName (front ++ ['.']) := by
        refine ⟨by simp, by simpa using hfront, fun hup => hperiod ?_⟩
        exact List.append_cancel_right (hup : front ++ ['.'] = ['.'] ++ ['.'])
      rw [names_putExtension hkept hname (by simp) hextension, stem_append hfront (by simp),
        if_neg hperiod]
      rfl

end Path

/-! ## Following the path to the temporary file -/

namespace FileNode

open ClientGen.Path

variable {root : FileNode} {path name : String} {e : PathEnd}

/-- A last name that is the name of something can be that of a file. -/
theorem isFileName_of_lastName {last : List Char} (h : lastName last = .name name) :
    IsFileName last ∧ name = String.ofList last := by
  unfold lastName at h
  split at h
  · cases h
  · split at h
    · cases h
    · rename_i hself hup
      cases h
      exact ⟨⟨fun hnil => hself (.inl hnil), fun hperiod => hself (.inr hperiod), hup⟩, rfl⟩

/-- The names of a path that ends in the name of something, without a slash behind it. -/
theorem names_of_follow (h : root.follow path = .ok e) (hlast : e.last = .name name)
    (htrailing : e.trailing = false) :
    ∃ before last, names path = before ++ [last] ∧ IsFileName last ∧ name = String.ofList last := by
  obtain ⟨-, -, -, hend, hslash⟩ := follow_eq_ok_iff.1 h
  rw [htrailing] at hslash
  rw [hlast] at hend
  obtain ⟨before, last, hnames⟩ : ∃ before last, names path = before ++ [last] := by
    have hsome := (List.eq_nil_or_concat _).resolve_left (Text.pieces_ne_nil '/' path.toList)
    simpa [names] using hsome
  have hwhole : (names path).reverse.dropWhile (· = []) = (names path).reverse := by
    refine (List.dropWhile_suffix _).eq_of_length_le ?_
    rw [List.length_reverse]
    exact Nat.le_of_not_lt (of_decide_eq_false hslash.symm)
  have hwalk : (walk path).last = last := by
    rw [walk, hwhole, hnames, List.reverse_append]
    rfl
  rw [hwalk] at hend
  exact ⟨before, last, hnames, isFileName_of_lastName hend.symm⟩

/-- **The temporary file is another one**, in the directory of the file. -/
theorem not_namesEntry_temporaryPath (h : root.follow path = .ok e) (hlast : e.last = .name name)
    (htrailing : e.trailing = false) :
    ¬ root.NamesEntry (Files.temporaryPath path) (e.directory ++ [name]) := by
  rintro ⟨temporary, otherName, htemporary, hother, hplace⟩
  obtain ⟨before, last, hnames, hfile, rfl⟩ := names_of_follow h hlast htrailing
  obtain ⟨-, hend⟩ := follow_eq_ok (names_temporaryPath hnames hfile) (temporaryName_ne_nil last)
    htemporary
  obtain ⟨-, rfl⟩ := isFileName_of_lastName (hend.symm.trans hother)
  have hsame : String.ofList last = String.ofList (temporaryName last) :=
    List.singleton_inj.1 (List.append_inj_right' hplace rfl)
  exact temporaryName_ne hfile (String.ofList_inj.1 hsame).symm

end FileNode

end ClientGen
