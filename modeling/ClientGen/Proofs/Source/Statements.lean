import ClientGen.Proofs.Source.Reading
import ClientGen.Proofs.Text.Words

/-!
# Lines of a constructor, read back

The last line of a constructor sets fields, and the lines before it may fail. Both can be read off
the text. `fieldsSet` reads the fields that a value in braces is given, and which of them are set to
the variable of the same name; `fieldsSet_selfValue` says that these are the ones it was made with.
Whether a step is written with the operator `?` is seen from its question marks, less those in the
texts that are put into it; `Step.usesTry_iff` says which steps are.
-/

namespace ClientGen.Source

open Text

/-! ## What a line sets -/

/-- What stands between the first braces of the line, without blanks. -/
def braced (line : String) : List Char :=
  (((line.toList.dropWhile (· != '\x7b')).drop 1).takeWhile (· != '\x7d')).filter (· != ' ')

/-- A field that is set, and whether it is set to the variable of the same name. -/
def readSetting (text : List Char) : String × Bool :=
  (String.ofList (text.takeWhile (· != ':')), !text.contains ':')

/-- The fields that are set in a value of the type itself, in their order. -/
def fieldsSet (line : String) : List (String × Bool) :=
  if (braced line).isEmpty then [] else (pieces ',' (braced line)).map readSetting

example : fieldsSet "Ok(Self \x7b base__, page: None \x7d)" = [("base__", true), ("page", false)] :=
  by decide +kernel

/-- A setting as it is to be read. -/
def Setting.read : Setting → String × Bool
  | .same name => (name, true)
  | .to name _ => (name, false)
  | .absent name => (name, false)

/-- What is set are names, and so is what they are set to. -/
def Setting.IsPlain : Setting → Prop
  | .same name => IsName name.toList ∧ name ≠ ""
  | .to name value => IsName name.toList ∧ IsName value.toList
  | .absent name => IsName name.toList

/-- The setting as it is written, without blanks. -/
def Setting.compact (s : Setting) : List Char :=
  s.text.toList.filter (· != ' ')

theorem filter_blank_of_isName {name : List Char} (h : IsName name) :
    name.filter (· != ' ') = name :=
  List.filter_eq_self.2 (forall_bne (h.not_mem (by decide)))

namespace Setting

variable {s : Setting}

/-- A setting is a name, or a name and a value with a colon between them. -/
theorem compact_eq (h : s.IsPlain) : ∃ value, IsName value ∧ IsName s.read.1.toList ∧
    s.compact = s.read.1.toList ++ if s.read.2 then [] else ':' :: value := by
  cases s with
  | same name =>
    refine ⟨[], by simp [IsName], h.1, ?_⟩
    rw [compact, text, filter_blank_of_isName h.1]
    simp [read]
  | «to» name value =>
    refine ⟨value.toList, h.2, h.1, ?_⟩
    have htext : (Setting.to name value).text.toList =
        name.toList ++ ':' :: ' ' :: value.toList := by
      simp [text, toString]
    rw [compact, htext, List.filter_append, filter_blank_of_isName h.1]
    simp [read, filter_blank_of_isName h.2]
  | absent name =>
    refine ⟨"None".toList, by decide, h, ?_⟩
    have htext : (Setting.absent name).text.toList = name.toList ++ ": None".toList := by
      simp [text, toString]
    rw [compact, htext, List.filter_append, filter_blank_of_isName h]
    simp [read]

theorem compact_ne_nil (h : s.IsPlain) : s.compact ≠ [] := by
  obtain ⟨value, -, -, heq⟩ := compact_eq h
  rw [heq]
  cases s with
  | same name => simpa [read] using h.2
  | «to» | absent => simp [read]

theorem not_mem_compact (h : s.IsPlain) {c : Char} (hname : isNameChar c = false)
    (hcolon : c ≠ ':') : c ∉ s.compact := by
  obtain ⟨value, hvalue, hread, heq⟩ := compact_eq h
  rw [heq, List.mem_append, not_or]
  refine ⟨hread.not_mem hname, ?_⟩
  split
  · exact List.not_mem_nil
  · rw [List.mem_cons, not_or]
    exact ⟨hcolon, hvalue.not_mem hname⟩

theorem readSetting_compact (h : s.IsPlain) : readSetting s.compact = s.read := by
  obtain ⟨value, hvalue, hread, heq⟩ := compact_eq h
  have hcolon : ':' ∉ s.read.1.toList := hread.not_mem (by decide)
  rw [readSetting, heq, List.takeWhile_append_of_pos (forall_bne hcolon)]
  refine Prod.ext ?_ ?_
  · cases s.read.2 <;> simp
  · cases s.read.2 <;> simp [hcolon]

end Setting

/-- What is left of pieces with something between them. -/
theorem filter_intercalate {α : Type} (p : α → Bool) (between : List α) (parts : List (List α)) :
    (between.intercalate parts).filter p =
      (between.filter p).intercalate (parts.map (List.filter p)) := by
  induction parts with
  | nil => rfl
  | cons part rest ih =>
    by_cases hrest : rest = []
    · simp [hrest]
    · rw [List.intercalate_cons_of_ne_nil hrest, List.map_cons,
        List.intercalate_cons_of_ne_nil (by simpa using hrest), List.filter_append,
        List.filter_append, ih]

/-- What stands between the first braces of a line. -/
theorem braced_eq {line : String} (start inside rest : List Char)
    (hline : line.toList = start ++ '\x7b' :: (inside ++ '\x7d' :: rest))
    (hstart : '\x7b' ∉ start) (hinside : '\x7d' ∉ inside) :
    braced line = inside.filter (· != ' ') := by
  rw [braced, hline, List.dropWhile_append_of_pos (forall_bne hstart),
    List.dropWhile_cons_of_neg (by simp), List.drop_succ_cons, List.drop_zero,
    List.takeWhile_append_of_pos (forall_bne hinside), List.takeWhile_cons_of_neg (by simp),
    List.append_nil]

theorem not_mem_intercalate {α : Type} {a : α} {between : List α} {parts : List (List α)}
    (hbetween : a ∉ between) (h : ∀ part ∈ parts, a ∉ part) : a ∉ between.intercalate parts := by
  have hne (l : List α) : a ∉ l ↔ ∀ b ∈ l, b ≠ a :=
    ⟨fun hmem b hb heq => hmem (heq ▸ hb), fun hall hmem => hall a hmem rfl⟩
  rw [hne]
  exact forall_mem_intercalate ((hne between).1 hbetween) fun part hpart =>
    (hne part).1 (h part hpart)

theorem braced_selfValue {settings : List Setting} (h : ∀ s ∈ settings, s.IsPlain)
    (start stop : String) (hstart : '\x7b' ∉ start.toList) :
    braced (start ++ selfValue settings ++ stop) =
      [','].intercalate (settings.map Setting.compact) := by
  have hself : '\x7b' ∉ (start ++ "Self ").toList := by
    rw [String.toList_append, List.mem_append, not_or]
    exact ⟨hstart, by decide⟩
  unfold selfValue
  split
  · rename_i hempty
    rw [List.isEmpty_iff.1 hempty]
    refine braced_eq _ [] stop.toList ?_ hself List.not_mem_nil
    simp
  · have hinside : '\x7d' ∉ (" " ++ ", ".intercalate (settings.map (·.text)) ++ " ").toList := by
      rw [String.toList_append, String.toList_append, String.toList_intercalate, List.mem_append,
        List.mem_append, not_or, not_or, List.map_map]
      refine ⟨⟨by decide, not_mem_intercalate (by decide) ?_⟩, by decide⟩
      intro text htext
      obtain ⟨s, hs, rfl⟩ := List.mem_map.1 htext
      have hcompact := Setting.not_mem_compact (h s hs) (c := '\x7d') (by decide) (by decide)
      exact fun hmem => hcompact (List.mem_filter.2 ⟨hmem, by decide⟩)
    rw [braced_eq _ _ stop.toList ?_ hself hinside]
    · rw [String.toList_append, String.toList_append, String.toList_intercalate,
        List.filter_append, List.filter_append, filter_intercalate, List.map_map, List.map_map]
      exact List.append_nil _
    · simp

/-- **A value sets what it is made with**, whatever stands around it. -/
theorem fieldsSet_selfValue {settings : List Setting} (h : ∀ s ∈ settings, s.IsPlain)
    (start stop : String) (hstart : '\x7b' ∉ start.toList) :
    fieldsSet (start ++ selfValue settings ++ stop) = settings.map Setting.read := by
  rw [fieldsSet, braced_selfValue h start stop hstart]
  by_cases hnil : settings = []
  · rw [hnil]
    rfl
  have hne : settings.map Setting.compact ≠ [] := by simpa using hnil
  have hnonempty : ([','].intercalate (settings.map Setting.compact)).isEmpty = false := by
    rw [List.isEmpty_eq_false_iff]
    refine intercalate_ne_nil ?_ hne
    intro text htext
    obtain ⟨s, hs, rfl⟩ := List.mem_map.1 htext
    exact Setting.compact_ne_nil (h s hs)
  have hcommas : ∀ text ∈ settings.map Setting.compact, ',' ∉ text := by
    intro text htext
    obtain ⟨s, hs, rfl⟩ := List.mem_map.1 htext
    exact Setting.not_mem_compact (h s hs) (by decide) (by decide)
  rw [if_neg (by simp [hnonempty]), pieces_intercalate hne hcommas, List.map_map]
  exact List.map_congr_left fun s hs => Setting.readSetting_compact (h s hs)

/-! ## The operator of steps that may fail -/

/-- How many question marks a text has. -/
def questionMarks (text : String) : Nat :=
  text.toList.count '?'

/-- How many question marks texts have together. -/
def questionMarksIn : List String → Nat
  | [] => 0
  | text :: rest => questionMarks text + questionMarksIn rest

theorem questionMarksIn_append (texts more : List String) :
    questionMarksIn (texts ++ more) = questionMarksIn texts + questionMarksIn more := by
  induction texts with
  | nil => exact (Nat.zero_add _).symm
  | cons text rest ih => rw [List.cons_append, questionMarksIn, questionMarksIn, ih, Nat.add_assoc]

theorem questionMarks_append (s t : String) :
    questionMarks (s ++ t) = questionMarks s + questionMarks t := by
  rw [questionMarks, String.toList_append, List.count_append]
  rfl

theorem questionMarks_intercalate (texts : List String) :
    questionMarks (", ".intercalate texts) = questionMarksIn texts := by
  rw [questionMarks, String.toList_intercalate]
  induction texts with
  | nil => rfl
  | cons text rest ih =>
    rw [questionMarksIn, ← ih]
    by_cases hrest : rest = []
    · rw [hrest]
      simp [questionMarks]
    · have hcomma : ", ".toList.count '?' = 0 := by decide
      rw [List.map_cons, List.intercalate_cons_of_ne_nil (by simpa using hrest),
        List.count_append, List.count_append, hcomma, Nat.add_zero]
      rfl

/-- The texts that are put into an argument. -/
def Argument.inserted : Argument → List String
  | .client | .absent => []
  | .marker type => [type]
  | .verb runtime word => [runtime, word]
  | .constant name | .variable name => [name]
  | .content runtime name => [runtime, name]

/-- The texts that are put into a step. -/
def Step.inserted : Step → List String
  | .base type constructor arguments => type :: constructor :: arguments.flatMap (·.inserted)
  | .require runtime name message => [name, runtime, name, literal message]

/-- The step is written with the operator `?`: it has more question marks than the texts that are
put into it. -/
def Step.UsesTry (s : Step) : Prop :=
  questionMarksIn s.inserted < questionMarks s.text

/-- The argument may fail. -/
def Argument.isContent : Argument → Bool
  | .content .. => true
  | _ => false

theorem Argument.questionMarks_text (a : Argument) :
    questionMarks a.text = questionMarksIn a.inserted + if a.isContent then 1 else 0 := by
  cases a with
  | client => decide
  | marker type =>
    have htext : (Argument.marker type).text = "std::marker::PhantomData::<" ++ type ++ ">" := rfl
    have hfixed : questionMarks "std::marker::PhantomData::<" = 0 ∧ questionMarks ">" = 0 := by
      decide
    simp [htext, questionMarks_append, hfixed, inserted, questionMarksIn, isContent]
  | verb runtime word =>
    have htext : (Argument.verb runtime word).text = runtime ++ "::Method::" ++ word := rfl
    have hfixed : questionMarks "::Method::" = 0 := by decide
    simp [htext, questionMarks_append, hfixed, inserted, questionMarksIn, isContent]
  | constant name =>
    have htext : (Argument.constant name).text = "Self::" ++ name ++ ".to_string()" := rfl
    have hfixed : questionMarks "Self::" = 0 ∧ questionMarks ".to_string()" = 0 := by decide
    simp [htext, questionMarks_append, hfixed, inserted, questionMarksIn, isContent]
  | content runtime name =>
    have htext : (Argument.content runtime name).text =
        "Some(" ++ runtime ++ "::Content::json(&" ++ name ++ ")?)" := rfl
    have hfixed : questionMarks "Some(" = 0 ∧ questionMarks "::Content::json(&" = 0 ∧
        questionMarks ")?)" = 1 := by decide
    simp [htext, questionMarks_append, hfixed, inserted, questionMarksIn, isContent]
  | «variable» name => exact (Nat.add_zero _).symm
  | absent => decide

/-- The number of times that the step is written with the operator. -/
def Step.tries : Step → Nat
  | .base _ _ arguments => arguments.countP (·.isContent)
  | .require .. => 1

theorem questionMarksIn_arguments (arguments : List Argument) :
    questionMarksIn (arguments.map (·.text)) =
      questionMarksIn (arguments.flatMap (·.inserted)) + arguments.countP (·.isContent) := by
  induction arguments with
  | nil => rfl
  | cons a rest ih =>
    rw [List.map_cons, questionMarksIn, List.flatMap_cons, questionMarksIn_append,
      List.countP_cons, a.questionMarks_text, ih]
    omega

/-- The step that makes the value of the super type. -/
theorem Step.text_base (type constructor : String) (arguments : List Argument) :
    (Step.base type constructor arguments).text = "let base__ = " ++ type ++ "::" ++ constructor ++
      "(" ++ ", ".intercalate (arguments.map (·.text)) ++ ");" := rfl

theorem Step.questionMarks_text (s : Step) :
    questionMarks s.text = questionMarksIn s.inserted + s.tries := by
  cases s with
  | base type constructor arguments =>
    have hfixed : questionMarks "let base__ = " = 0 ∧ questionMarks "::" = 0 ∧
        questionMarks "(" = 0 ∧ questionMarks ");" = 0 := by decide
    simp only [text_base, questionMarks_append, hfixed, questionMarks_intercalate,
      questionMarksIn_arguments, tries, inserted, questionMarksIn]
    omega
  | require runtime name message =>
    have htext : (Step.require runtime name message).text = "let " ++ name ++ " = " ++ runtime ++
        "::require(" ++ name ++ ", " ++ literal message ++ ")?;" := rfl
    have hfixed : questionMarks "let " = 0 ∧ questionMarks " = " = 0 ∧
        questionMarks "::require(" = 0 ∧ questionMarks ", " = 0 ∧ questionMarks ")?;" = 1 := by
      decide
    simp only [htext, questionMarks_append, hfixed, tries, inserted, questionMarksIn]
    omega

theorem Step.usesTry_iff {s : Step} : s.UsesTry ↔ s.tries ≠ 0 := by
  rw [UsesTry, questionMarks_text]
  omega

end ClientGen.Source
