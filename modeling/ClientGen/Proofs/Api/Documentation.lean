import ClientGen.Proofs.Api.Origin
import ClientGen.Proofs.Source.Name
import ClientGen.Proofs.Text.Blank

/-!
# Documentation is tidy

Documentation ends up in comments of the generated source, so it must not bring comment signs of its
own, and it is written without white space around it. Free text is made so by `escapeDoc`, and
whatever documents a declaration, a field, a factory method or a constant of an enum has gone
through it: `documentation_tidy`. The one text that has not is that of the request type, which is
made up from the name of the API.
-/

namespace ClientGen

open Component Generation

/-! ## Tidy texts -/

/-- The text has no slash in it, and no white space at its ends. -/
structure Text.IsTidy (text : String) : Prop where
  slash : '/' ∉ text.toList
  first : ∀ c, text.toList.head? = some c → Text.isBlank c = false
  last : ∀ c, text.toList.getLast? = some c → Text.isBlank c = false

open Text (IsTidy)

/-- What a character of free text becomes in documentation. -/
def docChars (c : Char) : List Char :=
  if c = '/' then "&#47;".toList else [c]

theorem toList_escapeDoc (text : String) :
    (escapeDoc text).toList = (Text.trimChars text.toList).flatMap docChars := by
  rw [escapeDoc, String.toList_ofList]
  rfl

theorem slash_not_mem_docChars (c : Char) : '/' ∉ docChars c := by
  by_cases h : c = '/'
  · rw [docChars, if_pos h]
    decide
  · simp [docChars, h, Ne.symm h]

/-- A character that is not white space becomes characters that neither begin nor end in any. -/
theorem docChars_ends {c : Char} (hc : Text.isBlank c = false) :
    ∃ first last, (docChars c).head? = some first ∧ (docChars c).getLast? = some last ∧
      Text.isBlank first = false ∧ Text.isBlank last = false := by
  by_cases h : c = '/'
  · refine ⟨'&', ';', ?_⟩
    rw [docChars, if_pos h]
    decide
  · exact ⟨c, c, by simp [docChars, h], by simp [docChars, h], hc, hc⟩

/-- Free text is tidy as documentation. -/
theorem isTidy_escapeDoc (text : String) : IsTidy (escapeDoc text) := by
  constructor
  case slash =>
    rw [toList_escapeDoc]
    intro h
    obtain ⟨c, -, hc⟩ := List.mem_flatMap.1 h
    exact slash_not_mem_docChars c hc
  case first =>
    intro c h
    rw [toList_escapeDoc] at h
    cases htrimmed : Text.trimChars text.toList with
    | nil => simp [htrimmed] at h
    | cons a rest =>
      obtain ⟨first, -, hfirst, -, hblank, -⟩ :=
        docChars_ends (Text.head?_trimChars (s := text.toList) (c := a) (by simp [htrimmed]))
      simp [htrimmed, hfirst] at h
      exact h ▸ hblank
  case last =>
    intro c h
    rw [toList_escapeDoc] at h
    rcases List.eq_nil_or_concat (Text.trimChars text.toList) with htrimmed | ⟨front, a, htrimmed⟩
    · simp [htrimmed] at h
    · obtain ⟨-, last, -, hlast, -, hblank⟩ :=
        docChars_ends (Text.getLast?_trimChars (s := text.toList) (c := a) (by simp [htrimmed]))
      simp [htrimmed, hlast] at h
      exact h ▸ hblank

/-- What is documented by free text is documented tidily. -/
theorem isTidy_of_mem_map {free : Option String} :
    ∀ text ∈ free.map escapeDoc, IsTidy text := by
  intro text htext
  obtain ⟨source, -, rfl⟩ := Option.map_eq_some_iff.1 htext
  exact isTidy_escapeDoc source

/-! ## Documentation of declarations -/

/-- The documentation of a class, of its fields and of its factory methods. -/
def Class.documentations (c : Class) : List String :=
  c.documentation.toList ++ c.fields.filterMap (·.documentation) ++
    c.factories.filterMap (·.documentation)

/-- The documentation of an enum and of its constants. -/
def Enum.documentations (e : Enum) : List String :=
  e.documentation.toList ++ e.constants.filterMap (·.documentation)

/-- All documentation of a declaration, without what is nested in it. -/
def DeclarationOf.documentations : Declaration → List String
  | .ofClass c => c.documentations
  | .ofEnum e => e.documentations

/-- The documentation of a class is tidy if each part of it is. -/
theorem Class.documentations_tidy {c : Class} (hclass : ∀ text ∈ c.documentation, IsTidy text)
    (hfields : ∀ f ∈ c.fields, ∀ text ∈ f.documentation, IsTidy text)
    (hfactories : ∀ f ∈ c.factories, ∀ text ∈ f.documentation, IsTidy text) :
    ∀ text ∈ c.documentations, IsTidy text := by
  intro text h
  simp only [Class.documentations, List.mem_append, Option.mem_toList, List.mem_filterMap] at h
  rcases h with (h | ⟨f, hf, h⟩) | ⟨f, hf, h⟩
  · exact hclass text h
  · exact hfields f hf text h
  · exact hfactories f hf text h

/-! ### Fields, constants and factory methods -/

/-- Fields of parameters that a constructor asks for have no documentation. -/
theorem documentation_paramFields (part : Draft) :
    ∀ f ∈ part.paramFields, f.documentation = none := by
  intro f hf
  simp only [Draft.paramFields, List.mem_append, List.mem_map] at hf
  rcases hf with ⟨p, -, rfl⟩ | ⟨p, -, rfl⟩ <;> rfl

theorem tidy_optionalFields (ts : List Typing) :
    ∀ f ∈ ts.map Typing.optionalField, ∀ text ∈ f.documentation, IsTidy text := by
  intro f hf
  obtain ⟨t, -, rfl⟩ := List.mem_map.1 hf
  exact isTidy_of_mem_map

/-- The factory methods of components are documented as these are. -/
theorem tidy_factories (parts : List Draft) :
    ∀ f ∈ parts.map Draft.factory, ∀ text ∈ f.documentation, IsTidy text := by
  intro f hf
  obtain ⟨part, -, rfl⟩ := List.mem_map.1 hf
  exact isTidy_of_mem_map

theorem tidy_listedConstants (values descriptions : List String) :
    ∀ c ∈ Resolution.listedConstants values descriptions, ∀ text ∈ c.documentation,
      IsTidy text := by
  induction values generalizing descriptions with
  | nil => intro c hc; cases hc
  | cons value rest ih =>
    rw [Resolution.listedConstants]
    intro c hc
    rcases List.mem_cons.1 hc with rfl | hc
    · exact isTidy_of_mem_map
    · exact ih _ c hc

/-- Whether they are listed in prose or as values, the constants of an enum are tidy. -/
theorem tidy_enumConstants {s : Schema} {constants : List EnumConstant}
    (h : Resolution.enumConstants? s = some constants) :
    ∀ c ∈ constants, ∀ text ∈ c.documentation, IsTidy text := by
  unfold Resolution.enumConstants? at h
  split at h
  · cases h
    intro c hc text htext
    obtain ⟨value, -, rfl⟩ := List.mem_map.1 hc
    cases htext
    exact isTidy_escapeDoc _
  · split at h
    · cases h
      exact tidy_listedConstants _ _
    · cases h

/-! ### The request type -/

/-- The name of a client has no slash in it. -/
theorem slash_not_mem_upperCamelCase (name : String) : '/' ∉ (Text.upperCamelCase name).toList := by
  have hname : Text.IsName (Text.upperCamelCase name).toList := by
    simpa [Text.upperCamelCase] using Text.isName_camelChars name.toList
  exact hname.not_mem (by decide)

theorem isTidy_requestDocumentation {n : Naming} (h : '/' ∉ n.client.simpleName.toList) :
    IsTidy (requestDocumentation n) := by
  have htext : (requestDocumentation n).toList = "Base type of every ".toList ++
      (n.client.simpleName.toList ++ (" request, ".toList ++
        ("built on runtime request contract version ".toList ++
          (baseRequest.version.repr.toList ++ ".".toList)))) := by
    unfold requestDocumentation
    simp only [toString, String.toList_append, List.append_assoc]
  constructor
  case slash =>
    rw [htext]
    simp only [List.mem_append, not_or]
    exact ⟨by decide, h, by decide, by decide, by decide +kernel, by decide⟩
  case first =>
    intro c hc
    have hhead : "Base type of every ".toList.head? = some 'B' := by decide
    rw [htext, List.head?_append, hhead] at hc
    cases hc
    decide
  case last =>
    intro c hc
    simp only [htext, List.getLast?_append, show ".".toList.getLast? = some '.' by decide] at hc
    cases hc
    decide

/-! ## The main result -/

/-- All documentation of a declaration is tidy, whatever it was made from. -/
theorem tidy_of_origin {n : Naming} {d : Description} {e : Declaration}
    (hclient : '/' ∉ n.client.simpleName.toList) (h : Origin n d e) :
    ∀ text ∈ e.documentations, IsTidy text := by
  have hnone : ∀ text ∈ (none : Option String), IsTidy text := by
    intro text htext
    cases htext
  have hempty : ∀ f ∈ ([] : List Factory), ∀ text ∈ f.documentation, IsTidy text := by
    intro f hf
    cases hf
  cases h with
  | schema h =>
    cases h with
    | object name s documentation ts hdocumentation =>
      refine Class.documentations_tidy ?_ ?_ hempty
      · rcases hdocumentation with rfl | rfl
        · exact hnone
        · exact isTidy_of_mem_map
      · intro f hf
        obtain ⟨t, -, rfl⟩ := List.mem_map.1 hf
        exact isTidy_of_mem_map
    | enum name s constants hconstants =>
      intro text htext
      obtain ⟨c, hc, htext⟩ := List.mem_filterMap.1 htext
      exact tidy_enumConstants hconstants c hc text htext
  | request =>
    refine Class.documentations_tidy ?_ (tidy_optionalFields _) hempty
    intro text htext
    rw [← Option.some.inj htext]
    exact isTidy_requestDocumentation hclient
  | client =>
    refine Class.documentations_tidy isTidy_of_mem_map ?_ (tidy_factories _)
    intro f hf
    cases hf
  | method site =>
    refine Class.documentations_tidy hnone ?_ hempty
    intro f hf
    rcases List.mem_append.1 hf with hf | hf
    · exact tidy_optionalFields _ f hf
    · rw [documentation_paramFields _ f hf]
      exact hnone
  | resource type node =>
    refine Class.documentations_tidy hnone ?_ (tidy_factories _)
    intro f hf
    cases hf

/-- **All documentation is tidy.** In a generated API, no text that documents a class or enum, a
field, a factory method or a constant of an enum has a slash in it, or white space at its ends. -/
theorem documentation_tidy {d : Description} {settings : Settings} {api : Api}
    (h : (d.generate settings).result = .ok api) :
    ∀ e ∈ api.declarations, ∀ text ∈ e.documentations, IsTidy text := by
  intro e he
  have hclient : '/' ∉ (d.naming settings).client.simpleName.toList :=
    slash_not_mem_upperCamelCase d.name
  have horigin := origin_of_mem_declarations (generates_of_generate h) e he
  exact tidy_of_origin hclient horigin

/-- Of what is said about the books API, the slash is escaped and the white space is taken off. -/
theorem documentation_tidy_shelves :
    let d : Description := { Description.shelves with description := some " Books/shelves \n" }
    ∃ api, (d.generate {}).result = .ok api ∧
      api.client.documentation = some "Books&#47;shelves" ∧
      ∀ e ∈ api.declarations, ∀ text ∈ e.documentations, IsTidy text := by
  intro d
  obtain ⟨api, h⟩ : ∃ api, (d.generate {}).result = .ok api :=
    isOk_iff.1 (by decide +kernel)
  refine ⟨api, h, ?_, documentation_tidy h⟩
  rw [(generates_of_generate h).client]
  show some (escapeDoc " Books/shelves \n") = some "Books&#47;shelves"
  decide +kernel

end ClientGen
