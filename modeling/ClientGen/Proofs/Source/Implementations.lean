import ClientGen.Proofs.Source.Placement
import ClientGen.Proofs.Source.Rows

/-!
# Implementations in generated source

The constants of a service stand at the beginning of its implementation, each with its text as a
literal. `Shows` says of a text that it is such a beginning, and what the literals in it denote when
they are read back. It is proved of rows that are printed as they are, `shows_endRows`, and of rows
that are indented anew, `shows_reindented`.

`Writes` follows the implementations from the items through all blocks around them, row by row. It
is proved for every way in which items are put together, and for declarations by induction on what
is nested in them, `Writes.moduleOf`.
-/

namespace ClientGen

/-! ## Constants and their values -/

/-- The constants of the class, each with its text. -/
def Class.constantTexts (c : Class) : List (String × String) :=
  c.constants.map fun constant => (constant.name, c.constantText constant)

/-- The text of a concatenation is that of the constants that it names, one after the other. -/
def Class.JoinsConstants (c : Class) : Prop :=
  ∀ constant ∈ c.constants, ∀ names, constant.value = .concat names → ∃ parts : List Constant,
    names.map c.constant? = parts.map some ∧
      c.constantText constant = String.join (parts.map c.constantText)

namespace DeclarationOf

/-- The declaration itself, if it is a service: a class that has an implementation. -/
def ownService : Declaration → List Class
  | .ofClass c => if c.kind = .model then [] else [c]
  | .ofEnum _ => []

/-- The services in a declaration, however deep they are nested. -/
def services (d : Declaration) : List Class :=
  d.all.flatMap ownService

/-- What the declarations in one have: what it has itself, and what those nested in it have. -/
theorem all_flatMap {α : Type} (own : Declaration → List α) (d : Declaration) :
    d.all.flatMap own = own d ++ d.nested.flatMap fun x => x.all.flatMap own := by
  rw [all_eq, List.flatMap_cons, List.flatMap_assoc]

theorem services_eq (d : Declaration) : services d = ownService d ++ d.nested.flatMap services :=
  all_flatMap ownService d

theorem mem_services {d : Declaration} {c : Class} (h : c ∈ services d) :
    .ofClass c ∈ d.all ∧ c.kind ≠ .model := by
  obtain ⟨e, he, hc⟩ := List.mem_flatMap.1 h
  cases e with
  | ofEnum e => cases hc
  | ofClass inner =>
    rw [ownService] at hc
    split at hc
    · cases hc
    · rename_i hkind
      cases List.mem_singleton.1 hc
      exact ⟨he, hkind⟩

end DeclarationOf

namespace Source

open Text DeclarationOf

/-! ## One after the other -/

/-- Each of the elements has a piece of its own in the list, in their order. Anything may stand
between these pieces. -/
inductive InTurn {α β : Type} (Q : α → List β → Prop) : List α → List β → Prop
  | nil (l : List β) : InTurn Q [] l
  | cons (before : List β) {x : α} {own : List β} {others : List α} {rest : List β} (h : Q x own)
    (hrest : InTurn Q others rest) : InTurn Q (x :: others) (before ++ own ++ rest)

namespace InTurn

variable {α β γ : Type} {Q : α → List β → Prop} {xs ys : List α} {l m : List β}

theorem append_left (h : InTurn Q xs l) (before : List β) : InTurn Q xs (before ++ l) := by
  cases h with
  | nil => exact nil _
  | cons first hx hrest =>
    rw [← List.append_assoc, ← List.append_assoc]
    exact cons (before ++ first) hx hrest

theorem append (hl : InTurn Q xs l) (hm : InTurn Q ys m) : InTurn Q (xs ++ ys) (l ++ m) := by
  induction hl with
  | nil l => exact hm.append_left l
  | cons before hx _ ih =>
    rw [List.append_assoc]
    exact cons before hx ih

theorem append_right (h : InTurn Q xs l) (after : List β) : InTurn Q xs (l ++ after) := by
  simpa using h.append (nil after)

/-- Replacing each entry of the list by a list of its own keeps the pieces apart. -/
theorem flatMap {Q' : α → List γ → Prop} {f : β → List γ} (h : InTurn Q xs l)
    (hf : ∀ x ∈ xs, ∀ own, Q x own → Q' x (own.flatMap f)) : InTurn Q' xs (l.flatMap f) := by
  induction h with
  | nil => exact nil _
  | cons before hx _ ih =>
    rw [List.flatMap_append, List.flatMap_append]
    exact cons _ (hf _ List.mem_cons_self _ hx) (ih fun y hy => hf y (List.mem_cons_of_mem _ hy))

theorem exists_of_mem {x : α} (h : InTurn Q xs l) (hx : x ∈ xs) :
    ∃ before own after, l = before ++ own ++ after ∧ Q x own := by
  induction h with
  | nil => cases hx
  | cons first hown _ ih =>
    rcases List.mem_cons.1 hx with rfl | hx
    · exact ⟨first, _, _, rfl, hown⟩
    · obtain ⟨before, own, after, hl, hQ⟩ := ih hx
      exact ⟨_, own, after, by rw [hl, ← List.append_assoc, ← List.append_assoc], hQ⟩

end InTurn

/-! ## What a text shows -/

/-- The first line of the implementation of a service. -/
def implementationLine (c : Class) : String :=
  s!"impl{generics c} {typeName c.name.simpleName}{generics c}" ++ " \x7b"

/-- A constant, up to the quote that its literal begins with. -/
def constantStart (name : String) : String :=
  s!"pub const {name}: &str = " ++ "\""

/-- The text consists of the given constants. Each has a line to itself, and its literal denotes
what is given with its name. -/
def ListsConstants : List (String × List Char) → List Char → Prop
  | [], text => text = []
  | (name, denoted) :: others, text => ∃ spaces literal rest,
    text = List.replicate spaces ' ' ++ (constantStart name).toList ++ literal ∧
      readLiteral literal = some (denoted, ';' :: '\n' :: rest) ∧ ListsConstants others rest

/-- The text is the beginning of the implementation of a service, its first line and its constants.
Their literals denote what `denoted` makes of their values. -/
def Shows (denoted : String → List Char) (c : Class) (text : List Char) : Prop :=
  ∃ spaces rest,
    text = List.replicate spaces ' ' ++ (implementationLine c).toList ++ '\n' :: rest ∧
      ListsConstants (c.constantTexts.map fun (name, value) => (name, denoted value)) rest

/-- The text has the beginnings of the implementations of all the classes, in some order. -/
def ShowsAll (denoted : String → List Char) (classes : List Class) (text : List Char) : Prop :=
  ∃ order : List Class, order.Perm classes ∧ InTurn (Shows denoted) order text

/-- Somewhere in the text is a constant of the given name whose literal denotes what is given. -/
def HasLiteral (name : String) (denoted text : List Char) : Prop :=
  ∃ before literal after, text = before ++ (constantStart name).toList ++ literal ∧
    readLiteral literal = some (denoted, after)

theorem HasLiteral.around {name : String} {denoted text : List Char}
    (h : HasLiteral name denoted text) (before after : List Char) :
    HasLiteral name denoted (before ++ text ++ after) := by
  obtain ⟨start, literal, rest, rfl, hread⟩ := h
  obtain ⟨own, rfl, hown⟩ := exists_own_of_readLiteral hread
  exact ⟨before ++ start, own ++ (rest ++ after), _, by simp, hown _⟩

theorem ListsConstants.hasLiteral {constants : List (String × List Char)} {text : List Char}
    (h : ListsConstants constants text) {e : String × List Char} (he : e ∈ constants) :
    HasLiteral e.1 e.2 text := by
  induction constants generalizing text with
  | nil => cases he
  | cons first others ih =>
    obtain ⟨spaces, literal, rest, rfl, hread, hothers⟩ := h
    rcases List.mem_cons.1 he with rfl | he
    · exact ⟨_, literal, _, rfl, hread⟩
    · obtain ⟨own, rfl, -⟩ := exists_own_of_readLiteral hread
      have hrest := (ih hothers he).around (List.replicate spaces ' ' ++
        (constantStart first.1).toList ++ own ++ [';', '\n']) []
      simpa using hrest

/-- Each constant of each of the classes has a literal. -/
theorem ShowsAll.hasLiteral {denoted : String → List Char} {classes : List Class}
    {text : List Char} (h : ShowsAll denoted classes text) {c : Class} (hc : c ∈ classes)
    {e : String × String} (he : e ∈ c.constantTexts) : HasLiteral e.1 (denoted e.2) text := by
  obtain ⟨order, horder, htext⟩ := h
  obtain ⟨before, own, after, rfl, spaces, rest, rfl, hlist⟩ :=
    htext.exists_of_mem (horder.mem_iff.2 hc)
  have hown := (hlist.hasLiteral (List.mem_map_of_mem he)).around
    (List.replicate spaces ' ' ++ (implementationLine c).toList ++ ['\n']) []
  refine HasLiteral.around ?_ before after
  simpa using hown

/-! ## Rows of an implementation -/

/-- A constant as it is written. -/
def constantLine (name value : String) : String :=
  s!"pub const {name}: &str = " ++ literal value ++ ";"

theorem toList_constantLine (name value : String) :
    (constantLine name value).toList =
      (constantStart name).toList ++ escapeChars value.toList ++ ['"', ';'] := by
  rw [constantLine, constantStart, literal]
  generalize s!"pub const {name}: &str = " = start
  simp

theorem constantStart_ne_nil (name : String) : (constantStart name).toList ≠ [] := by
  rw [constantStart]
  simp

/-- The rows in which an implementation begins. -/
def implementationRows (depth : Nat) (c : Class) : List String :=
  row depth (implementationLine c) ::
    c.constantTexts.map fun (name, value) => row (depth + 1) (constantLine name value)

/-- The rows are those in which the implementation of the class begins, as deep as it may stand. -/
def IsBeginning (c : Class) (rows : List String) : Prop :=
  ∃ depth, rows = implementationRows depth c

theorem listsConstants_of_rows {denoted : String → List Char} {write : String × String → List Char}
    (constants : List (String × String))
    (h : ∀ e ∈ constants, ∃ spaces, write e = List.replicate spaces ' ' ++
      (constantStart e.1).toList ++ escapeChars (denoted e.2) ++ ['"', ';', '\n']) :
    ListsConstants (constants.map fun (name, value) => (name, denoted value))
      (constants.flatMap write) := by
  induction constants with
  | nil => rfl
  | cons e rest ih =>
    obtain ⟨spaces, hwrite⟩ := h e List.mem_cons_self
    refine ⟨spaces, escapeChars (denoted e.2) ++ '"' :: ';' :: '\n' :: rest.flatMap write,
      rest.flatMap write, ?_, ?_, ih fun e' he' => h e' (List.mem_cons_of_mem _ he')⟩
    · rw [List.flatMap_cons, hwrite]
      simp
    · exact readLiteral_escapeChars _ _

/-- It is enough to know what becomes of a single row. -/
theorem shows_of_rows {denoted : String → List Char} {write : String → List Char} {depth : Nat}
    {c : Class}
    (hfirst : ∃ spaces, write (row depth (implementationLine c)) =
      List.replicate spaces ' ' ++ (implementationLine c).toList ++ ['\n'])
    (hconstants : ∀ e ∈ c.constantTexts, ∃ spaces,
      write (row (depth + 1) (constantLine e.1 e.2)) = List.replicate spaces ' ' ++
        (constantStart e.1).toList ++ escapeChars (denoted e.2) ++ ['"', ';', '\n']) :
    Shows denoted c ((implementationRows depth c).flatMap write) := by
  obtain ⟨spaces, hfirst⟩ := hfirst
  refine ⟨spaces, _, ?_, listsConstants_of_rows c.constantTexts hconstants⟩
  rw [implementationRows, List.flatMap_cons, hfirst, List.flatMap_map]
  simp

theorem implementationLine_ne_nil (c : Class) : (implementationLine c).toList ≠ [] := by
  simp [implementationLine]

theorem constantLine_ne_nil (name value : String) : (constantLine name value).toList ≠ [] := by
  rw [toList_constantLine]
  simp

/-- Rows that are only ended show the texts of the constants. -/
theorem shows_endRows {c : Class} {rows : List String} (h : IsBeginning c rows) :
    Shows String.toList c (endRows rows) := by
  obtain ⟨depth, rfl⟩ := h
  refine shows_of_rows ⟨4 * depth, ?_⟩ fun e _ => ⟨4 * (depth + 1), ?_⟩
  · rw [toList_row_of_ne_nil (implementationLine_ne_nil c)]
  · rw [toList_row_of_ne_nil (constantLine_ne_nil _ _), toList_constantLine]
    simp

/-! ### Rows that are indented anew -/

/-- Only the values of its constants can bring line ends into the implementation of the class. -/
structure HasPlainNames (c : Class) : Prop where
  line : IsLine (implementationLine c)
  constants : ∀ constant ∈ c.constants, IsLine constant.name

/-- Rows of which each is cut into lines that stand inside so many blocks. -/
def IsReindented (depth : Nat) (c : Class) (rows : List String) : Prop :=
  ∃ own, IsBeginning c own ∧ rows = own.flatMap (reindentedRows depth)

theorem escapeChars_indentation (depth : Nat) :
    escapeChars (indentation depth).toList = (indentation depth).toList := by
  rw [toList_indentation]
  induction 4 * depth with
  | zero => rfl
  | succ n ih => rw [List.replicate_succ, escapeChars_cons (by decide) (by decide), ih]

theorem endRows_flatMap_reindentedRows (depth : Nat) (rows : List String) :
    endRows (rows.flatMap (reindentedRows depth)) =
      rows.flatMap fun r => reindentRow (indentation depth).toList r.toList := by
  rw [endRows, List.flatMap_assoc]
  exact List.flatMap_congr fun r _ => endRows_reindentedRows depth r

/-- Spaces in front of a line do not end it. -/
theorem isLine_row {text : String} (h : IsLine text) (hne : text.toList ≠ []) (depth : Nat) :
    IsLine (row depth text) := by
  rw [IsLine, toList_row_of_ne_nil hne]
  simp [h.1, h.2, List.mem_replicate]

/-- Rows that are indented anew show the texts of the constants with their breaks indented. -/
theorem shows_reindented {c : Class} {depth : Nat} {rows : List String} (hplain : HasPlainNames c)
    (h : IsReindented depth c rows) :
    Shows (fun value => indentBreaks (indentation depth).toList value.toList) c (endRows rows) := by
  obtain ⟨own, ⟨inner, rfl⟩, rfl⟩ := h
  rw [endRows_flatMap_reindentedRows]
  refine shows_of_rows ⟨4 * depth + 4 * inner, ?_⟩ fun e he => ⟨4 * depth + 4 * (inner + 1), ?_⟩
  · have hne := implementationLine_ne_nil c
    obtain ⟨hfeed, hreturn⟩ := isLine_row hplain.line hne inner
    rw [toList_row_of_ne_nil hne] at hfeed hreturn ⊢
    rw [reindentRow_of_line (by simp [hne]) hfeed hreturn, toList_indentation,
      ← List.append_assoc, List.replicate_append_replicate]
  · obtain ⟨constant, hconstant, rfl⟩ := List.mem_map.1 he
    have hne := constantStart_ne_nil constant.name
    have hstart : IsLine (constantStart constant.name) :=
      IsLine.append (IsLine.append (IsLine.append (by decide) (hplain.constants _ hconstant))
        (by decide)) (by decide)
    obtain ⟨hfeed, hreturn⟩ := isLine_row hstart hne (inner + 1)
    rw [toList_row_of_ne_nil hne] at hfeed hreturn
    rw [toList_row_of_ne_nil (constantLine_ne_nil _ _), toList_constantLine, ← List.append_assoc,
      ← List.append_assoc, reindentRow_escapeChars (escapeChars_indentation depth)
        (by simp [hne]) hfeed hreturn (by simp) (by decide) (by decide), toList_indentation,
      ← List.append_assoc, List.replicate_append_replicate]
    simp

/-! ## Items and blocks -/

/-- Written out inside so many blocks, the items have rows of their own for each of the things that
are looked for. -/
def Writes {α : Type} (Q : α → List String → Prop) (depth : Nat) (items : List Item)
    (xs : List α) : Prop :=
  ∃ order : List α, order.Perm xs ∧ InTurn Q order (rowsOf depth (separated (itemBlocks items)))

theorem itemBlocks_eq_map (items : List Item) : itemBlocks items = items.map Item.blocks := by
  induction items with
  | nil => rfl
  | cons item rest ih => rw [itemBlocks, ih, List.map_cons]

theorem separated_singleton (group : List Block) : separated [group] = group := by
  cases group <;> rfl

/-- What stands inside a block, stands in the rows of the block. -/
theorem rowsOf_group (depth : Nat) (first last : String) (body : List Block) :
    rowsOf depth (separated [[.group first body last]]) =
      [row depth first] ++ rowsOf (depth + 1) body ++ [row depth last] := by
  rw [separated_singleton, rowsOf, Block.rows, rowsOf, List.append_nil]
  rfl

namespace Writes

variable {α : Type} {Q : α → List String → Prop} {depth : Nat} {items more : List Item}
  {xs ys : List α}

theorem nothing (depth : Nat) (items : List Item) : Writes Q depth items [] :=
  ⟨[], .refl _, .nil _⟩

theorem perm (h : Writes Q depth items xs) (hperm : xs.Perm ys) : Writes Q depth items ys := by
  obtain ⟨order, horder, hrows⟩ := h
  exact ⟨order, horder.trans hperm, hrows⟩

theorem append (h : Writes Q depth items xs) (hmore : Writes Q depth more ys) :
    Writes Q depth (items ++ more) (xs ++ ys) := by
  obtain ⟨order, horder, hrows⟩ := h
  obtain ⟨order', horder', hrows'⟩ := hmore
  obtain ⟨gap, hgap⟩ := separated_append (itemBlocks items) (itemBlocks more)
  refine ⟨order ++ order', horder.append horder', ?_⟩
  rw [itemBlocks_eq_map, List.map_append, ← itemBlocks_eq_map, ← itemBlocks_eq_map, hgap,
    rowsOf_append, rowsOf_append]
  exact (hrows.append_right _).append hrows'

theorem flatMap {ι : Type} {l : List ι} {f : ι → List Item} {g : ι → List α}
    (h : ∀ i ∈ l, Writes Q depth (f i) (g i)) : Writes Q depth (l.flatMap f) (l.flatMap g) := by
  induction l with
  | nil => exact nothing depth []
  | cons i rest ih =>
    rw [List.flatMap_cons, List.flatMap_cons]
    exact (h i List.mem_cons_self).append (ih fun j hj => h j (List.mem_cons_of_mem _ hj))

theorem module (h : Writes Q (depth + 1) items xs) (name : String) :
    Writes Q depth [.module name items] xs := by
  obtain ⟨order, horder, hrows⟩ := h
  refine ⟨order, horder, ?_⟩
  rw [itemBlocks, itemBlocks, Item.blocks, rowsOf_group]
  exact (hrows.append_left _).append_right _

/-- What is finished first and put in line by line. -/
theorem embedded {classes : List Class} (h : Writes IsBeginning 0 items classes) (name : String) :
    Writes (IsReindented (depth + 1)) depth [.embedded name items] classes := by
  obtain ⟨order, horder, hrows⟩ := h
  refine ⟨order, horder, ?_⟩
  rw [itemBlocks, itemBlocks, Item.blocks, rowsOf_group,
    rowsOf_reindented (depth + 1) (toList_printBlocks 0 _)]
  refine InTurn.append_right (InTurn.append_left ?_ _) _
  exact hrows.flatMap fun c _ own hown => ⟨own, hown, rfl⟩

/-- Modules opened one inside the other. -/
theorem foldr_module (directory : List String)
    (h : Writes Q (depth + directory.length) items xs) :
    Writes Q depth (directory.foldr (fun name items => [.module name items]) items) xs := by
  induction directory generalizing depth with
  | nil => exact h
  | cons name rest ih =>
    have hdepth : depth + (rest.length + 1) = depth + 1 + rest.length := by omega
    rw [List.length_cons, hdepth] at h
    exact (ih h).module name

/-! ### Declarations -/

section

variable {rt : String} {own : Declaration → List α}

/-- Declarations side by side, if each of them and the module for what is nested in it are written.
-/
theorem inside {ds : List Declaration}
    (hown : ∀ d ∈ ds, Writes Q depth (declarationItems rt d) (own d))
    (h : ∀ d ∈ ds, Writes Q depth (moduleOf rt d) (d.nested.flatMap fun x => x.all.flatMap own)) :
    Writes Q depth (inside rt ds) (ds.flatMap fun d => d.all.flatMap own) := by
  have hinterleave := List.flatMap_append_perm ds own fun d =>
    d.nested.flatMap fun x => x.all.flatMap own
  refine ((Writes.flatMap hown).append (Writes.flatMap h)).perm (hinterleave.trans ?_)
  rw [List.flatMap_congr fun d _ => all_flatMap own d]

/-- What is nested in a declaration, to any depth, is written in the modules for it. -/
theorem moduleOf (hown : ∀ depth d, Writes Q depth (declarationItems rt d) (own d))
    (d : Declaration) :
    ∀ depth, Writes Q depth (moduleOf rt d) (d.nested.flatMap fun x => x.all.flatMap own) := by
  induction d using DeclarationOf.induction with
  | node d ih =>
    intro depth
    rw [moduleOf_eq]
    by_cases hnested : d.nested = []
    · rw [hnested]
      exact nothing depth _
    · rw [if_neg (by simp [hnested])]
      exact (inside (fun x _ => hown (depth + 1) x) fun x hx => ih x hx (depth + 1)).module _

/-- A class in a module of its own, with all that is nested in it. -/
theorem moduleItems (hown : ∀ depth d, Writes Q depth (declarationItems rt d) (own d))
    (depth : Nat) (c : Class) :
    Writes Q depth (moduleItems rt c) ((DeclarationOf.all (.ofClass c)).flatMap own) := by
  rw [moduleItems_eq, all_flatMap]
  exact (hown depth (.ofClass c)).append
    (inside (fun x _ => hown depth x) fun x _ => moduleOf hown x depth)

end

end Writes

/-! ## Classes -/

theorem constantBlocks_eq (constants : List (String × String)) :
    constantBlocks constants =
      (constants.map fun (name, value) => constantLine name value).map .line := by
  rw [constantBlocks, List.map_map]
  rfl

/-- The implementation begins with its first line and its constants. -/
theorem exists_rowsOf_implementation (rt : String) (depth : Nat) (c : Class) : ∃ rest,
    rowsOf depth (separated (itemBlocks [.implementation (typeName c.name.simpleName) (generics c)
      c.constantTexts (serviceMethods rt c)])) = implementationRows depth c ++ rest := by
  obtain ⟨gap, hgap⟩ := separated_append [constantBlocks c.constantTexts]
    ((serviceMethods rt c).map (·.blocks))
  rw [List.singleton_append, separated_singleton] at hgap
  rw [itemBlocks, itemBlocks, Item.blocks, rowsOf_group, hgap, rowsOf_append, rowsOf_append,
    constantBlocks_eq, rowsOf_lines, List.map_map]
  refine ⟨rowsOf (depth + 1) gap ++
    rowsOf (depth + 1) (separated ((serviceMethods rt c).map (·.blocks))) ++ [row depth "\x7d"], ?_⟩
  simp only [implementationRows, List.append_assoc]
  rfl

theorem writes_serviceItems (rt : String) (depth : Nat) (c : Class) :
    Writes IsBeginning depth (serviceItems rt c) [c] := by
  obtain ⟨rest, hrows⟩ := exists_rowsOf_implementation rt depth c
  have himplementation : Writes IsBeginning depth [.implementation (typeName c.name.simpleName)
      (generics c) c.constantTexts (serviceMethods rt c)] [c] := by
    refine ⟨[c], .refl _, ?_⟩
    rw [hrows]
    exact .cons [] ⟨depth, rfl⟩ (.nil rest)
  exact (Writes.nothing depth [_]).append himplementation

theorem writes_declarationItems (rt : String) (depth : Nat) (d : Declaration) :
    Writes IsBeginning depth (declarationItems rt d) (ownService d) := by
  cases d with
  | ofEnum e => exact Writes.nothing depth _
  | ofClass c =>
    rw [declarationItems, classItems, ownService]
    by_cases hkind : c.kind = .model
    · rw [if_pos hkind]
      exact Writes.nothing depth _
    · rw [if_neg (by simpa using hkind), if_neg hkind]
      exact writes_serviceItems rt depth c

/-- A class in a module of its own, with all that is nested in it. -/
theorem writes_moduleItems (rt : String) (depth : Nat) (c : Class) :
    Writes IsBeginning depth (moduleItems rt c) (services (.ofClass c)) :=
  Writes.moduleItems (writes_declarationItems rt) depth c

end Source

end ClientGen
