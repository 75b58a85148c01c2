import ClientGen.Api
import ClientGen.Proofs.Json.Rearranged

/-!
# Descriptions that say the same

A description is read from five kinds of records, inside each other and inside maps of each other.
`Description.grammar` says which keys each of them knows and what stands at these. No record depends
on the order of its members or on members that it does not know, so neither does the description,
and then the client: `ofText_eq_of_rearranged`.
-/

namespace ClientGen

open Json

/-! ## The records of a description -/

/-- The kinds of records in a description. -/
inductive Description.Part
  | description
  | resource
  | method
  | schema
  /-- A pointer to a named schema. -/
  | pointer

/-- Where in a description there are records. -/
def Description.grammar : Grammar Part where
  keys
    | .description => (recordKind 0).keys
    | .resource => (Resource.recordKind 0 fun _ => pure {}).keys
    | .method => (Method.recordKind 0).keys
    | .schema => Schema.keywords
    | .pointer => schemaPointer.keys
  field
    | .description, "parameters" => .map .schema
    | .description, "schemas" => .map .schema
    | .description, "resources" => .map .resource
    | .description, "methods" => .map .method
    | .resource, "methods" => .map .method
    | .resource, "resources" => .map .resource
    | .method, "parameters" => .map .schema
    | .method, "request" => .record .pointer
    | .method, "response" => .record .pointer
    | .schema, "properties" => .map .schema
    | .schema, "additionalProperties" => .record .schema
    | .schema, "items" => .record .schema
    | _, _ => .plain

open Description (grammar)

/-! ## Schemas -/

namespace Schema

variable {levels : Nat} {inner entry : Json → Reading Schema}

theorem independent_recordKind : (recordKind levels inner entry).Independent := by
  intro key hkey key' hkey' hne json json' a b c hb hc
  simp only [recordKind, keywords, List.mem_cons, List.not_mem_nil, or_false] at hkey hkey'
  rcases hkey with rfl | rfl | rfl | rfl | rfl | rfl | rfl | rfl | rfl | rfl | rfl
  all_goals
    obtain ⟨v, hv, rfl⟩ := Reading.stored_eq_ok.1 hb
    rcases hkey' with rfl | rfl | rfl | rfl | rfl | rfl | rfl | rfl | rfl | rfl | rfl
    all_goals first
      | exact absurd rfl hne
      | obtain ⟨w, hw, rfl⟩ := Reading.stored_eq_ok.1 hc
        exact ⟨_, Reading.stored_eq_ok.2 ⟨w, hw, rfl⟩, Reading.stored_eq_ok.2 ⟨v, hv, rfl⟩⟩

theorem respects_store (hinner : Respects grammar (.record .schema) inner)
    (hentry : Respects grammar (.record .schema) entry) :
    ∀ key ∈ keywords, ∀ s,
      Respects grammar (grammar.field .schema key)
        ((recordKind levels inner entry).store key · s) := by
  intro key hkey s
  simp only [keywords, List.mem_cons, List.not_mem_nil, or_false] at hkey
  rcases hkey with rfl | rfl | rfl | rfl | rfl | rfl | rfl | rfl | rfl | rfl | rfl
  · exact respects_readString.optional.stored _
  · exact respects_readString.optional.stored _
  · exact respects_readString.optional.stored _
  · exact respects_readString.optional.stored _
  · exact respects_readString.optional.stored _
  · exact (respects_readMap hentry).optional.stored _
  · exact hinner.optional.stored _
  · exact hinner.optional.stored _
  · exact respects_readBool.optional.stored _
  · exact (respects_readList respects_readString).optional.stored _
  · exact (respects_readList respects_readString).optional.stored _

theorem respects_read (hinner : Respects grammar (.record .schema) inner)
    (hentry : Respects grammar (.record .schema) entry) (into : Nat) :
    Respects grammar (.record .schema) ((recordKind levels inner entry).read into {}) :=
  RecordKind.respects_read rfl (respects_store hinner hentry) independent_recordKind

/-- A schema is read from what says the same, at whatever depth it is. -/
theorem respects_ofJson (levels : Nat) : Respects grammar (.record .schema) (ofJson levels) := by
  have hdeep : Respects grammar (.record .schema) tooDeep := respects_error _
  induction levels using Nat.strongRecOn with
  | ind levels ih =>
    match levels, ih with
    | 0, _ => exact respects_read hdeep hdeep 0
    | 1, ih => exact respects_read (ih 0 (by omega)) hdeep 1
    | n + 2, ih => exact respects_read (ih (n + 1) (by omega)) (ih n (by omega)) (n + 2)

end Schema

theorem respects_readSchemas (levels : Nat) :
    Respects grammar (.map .schema) (readSchemas levels) :=
  respects_readMap (Schema.respects_ofJson (levels - 1))

/-! ## Methods -/

namespace Method

theorem independent_recordKind (levels : Nat) : (recordKind levels).Independent := by
  intro key hkey key' hkey' hne json json' a b c hb hc
  simp only [recordKind, List.mem_cons, List.not_mem_nil, or_false] at hkey hkey'
  rcases hkey with rfl | rfl | rfl | rfl | rfl | rfl | rfl | rfl
  all_goals
    obtain ⟨v, hv, rfl⟩ := Reading.stored_eq_ok.1 hb
    rcases hkey' with rfl | rfl | rfl | rfl | rfl | rfl | rfl | rfl
    all_goals first
      | exact absurd rfl hne
      | obtain ⟨w, hw, rfl⟩ := Reading.stored_eq_ok.1 hc
        exact ⟨_, Reading.stored_eq_ok.2 ⟨w, hw, rfl⟩, Reading.stored_eq_ok.2 ⟨v, hv, rfl⟩⟩

/-- A pointer is read from what says the same; its only field cannot change places. -/
theorem respects_pointer (levels : Nat) :
    Respects grammar (.record .pointer) (schemaPointer.read levels "") := by
  refine RecordKind.respects_read rfl (fun _ _ _ => respects_readString) ?_
  intro key hkey key' hkey' hne
  rw [List.mem_singleton.1 hkey, List.mem_singleton.1 hkey'] at hne
  exact absurd rfl hne

theorem respects_store (levels : Nat) :
    ∀ key ∈ (recordKind levels).keys, ∀ m,
      Respects grammar (grammar.field .method key) ((recordKind levels).store key · m) := by
  intro key hkey m
  simp only [recordKind, List.mem_cons, List.not_mem_nil, or_false] at hkey
  rcases hkey with rfl | rfl | rfl | rfl | rfl | rfl | rfl | rfl
  · exact respects_readString.optional.stored _
  · exact respects_readString.stored _
  · exact respects_readString.stored _
  · exact respects_readString.optional.stored _
  · exact (respects_readList respects_readString).stored _
  · exact (respects_readSchemas levels).stored _
  · exact (respects_pointer levels).optional.stored _
  · exact (respects_pointer levels).optional.stored _

theorem respects_ofJson (levels : Nat) : Respects grammar (.record .method) (ofJson levels) :=
  RecordKind.respects_read rfl (respects_store (levels - 1)) (independent_recordKind (levels - 1))

end Method

theorem respects_readMethods (levels : Nat) :
    Respects grammar (.map .method) (readMethods levels) :=
  respects_readMap (Method.respects_ofJson (levels - 1))

/-! ## Resources -/

namespace Resource

theorem independent_recordKind (levels : Nat) (entry : Json → Reading Resource) :
    (recordKind levels entry).Independent := by
  intro key hkey key' hkey' hne json json' a b c hb hc
  simp only [recordKind, List.mem_cons, List.not_mem_nil, or_false] at hkey hkey'
  rcases hkey with rfl | rfl
  all_goals
    obtain ⟨v, hv, rfl⟩ := Reading.stored_eq_ok.1 hb
    rcases hkey' with rfl | rfl
    all_goals first
      | exact absurd rfl hne
      | obtain ⟨w, hw, rfl⟩ := Reading.stored_eq_ok.1 hc
        exact ⟨_, Reading.stored_eq_ok.2 ⟨w, hw, rfl⟩, Reading.stored_eq_ok.2 ⟨v, hv, rfl⟩⟩

theorem respects_store (levels : Nat) {entry : Json → Reading Resource}
    (hentry : Respects grammar (.record .resource) entry) :
    ∀ key ∈ (recordKind levels entry).keys, ∀ r,
      Respects grammar (grammar.field .resource key) ((recordKind levels entry).store key · r) := by
  intro key hkey r
  simp only [recordKind, List.mem_cons, List.not_mem_nil, or_false] at hkey
  rcases hkey with rfl | rfl
  · exact (respects_readMethods levels).stored _
  · exact (respects_readMap hentry).stored _

theorem respects_read (levels : Nat) {entry : Json → Reading Resource}
    (hentry : Respects grammar (.record .resource) entry) (into : Nat) :
    Respects grammar (.record .resource) ((recordKind levels entry).read into {}) :=
  RecordKind.respects_read rfl (respects_store levels hentry) (independent_recordKind levels entry)

/-- A resource is read from what says the same, at whatever depth it is. -/
theorem respects_ofJson (levels : Nat) : Respects grammar (.record .resource) (ofJson levels) := by
  induction levels using Nat.strongRecOn with
  | ind levels ih =>
    match levels, ih with
    | 0, _ => exact respects_read 0 (respects_error _) 0
    | 1, _ => exact respects_read 0 (respects_error _) 1
    | n + 2, ih => exact respects_read (n + 1) (ih n (by omega)) (n + 2)

end Resource

/-! ## Descriptions -/

namespace Description

theorem independent_recordKind (levels : Nat) : (recordKind levels).Independent := by
  intro key hkey key' hkey' hne json json' a b c hb hc
  simp only [recordKind, List.mem_cons, List.not_mem_nil, or_false] at hkey hkey'
  rcases hkey with rfl | rfl | rfl | rfl | rfl | rfl | rfl | rfl | rfl | rfl | rfl
  all_goals
    obtain ⟨v, hv, rfl⟩ := Reading.stored_eq_ok.1 hb
    rcases hkey' with rfl | rfl | rfl | rfl | rfl | rfl | rfl | rfl | rfl | rfl | rfl
    all_goals first
      | exact absurd rfl hne
      | obtain ⟨w, hw, rfl⟩ := Reading.stored_eq_ok.1 hc
        exact ⟨_, Reading.stored_eq_ok.2 ⟨w, hw, rfl⟩, Reading.stored_eq_ok.2 ⟨v, hv, rfl⟩⟩

theorem respects_store (levels : Nat) :
    ∀ key ∈ (recordKind levels).keys, ∀ d,
      Respects grammar (grammar.field .description key) ((recordKind levels).store key · d) := by
  intro key hkey d
  simp only [recordKind, List.mem_cons, List.not_mem_nil, or_false] at hkey
  rcases hkey with rfl | rfl | rfl | rfl | rfl | rfl | rfl | rfl | rfl | rfl | rfl
  · exact respects_readString.stored _
  · exact respects_readString.stored _
  · exact respects_readString.optional.stored _
  · exact respects_readString.optional.stored _
  · exact respects_readString.optional.stored _
  · exact respects_readString.optional.stored _
  · exact respects_readString.optional.stored _
  · exact (respects_readSchemas levels).stored _
  · exact (respects_readSchemas levels).stored _
  · exact (respects_readMap (Resource.respects_ofJson (levels - 1))).stored _
  · exact (respects_readMethods levels).stored _

theorem respects_ofJson (levels : Nat) : Respects grammar (.record .description) (ofJson levels) :=
  RecordKind.respects_read rfl (respects_store (levels - 1)) (independent_recordKind (levels - 1))

/-- Two documents that say the same give the same description, or none. -/
theorem ofJson_eq_of_rearranged {j j' : Json} (h : Rearranged grammar (.record .description) j j')
    (hj : j.DistinctKeys) (hj' : j'.DistinctKeys) (levels : Nat) :
    (ofJson levels j).toOption = (ofJson levels j').toOption := by
  have hforth := respects_ofJson levels j j' h hj hj'
  have hback := respects_ofJson levels j' j h.symm hj' hj
  cases hd : ofJson levels j with
  | ok d => rw [hforth d hd]
  | error e =>
    cases hd' : ofJson levels j' with
    | ok d' =>
      rw [hback d' hd'] at hd
      cases hd
    | error e' => rfl

/-- **Neither the order of members nor unknown members count.** If the documents in two texts say
the same and have no object with a key twice, then both texts give the same description or both
give none, and the same goes for the client that is generated from it. -/
theorem ofText_eq_of_rearranged {s t : String} {j j' : Json}
    (hs : Document.ofText s = ⟨j, none⟩) (ht : Document.ofText t = ⟨j', none⟩)
    (h : Rearranged grammar (.record .description) j j') (hj : j.DistinctKeys)
    (hj' : j'.DistinctKeys) :
    (ofText s).toOption = (ofText t).toOption ∧
      ∀ settings, (ofText s).toOption.bind (fun d => (d.generate settings).result.toOption) =
        (ofText t).toOption.bind fun d => (d.generate settings).result.toOption := by
  have hroot : ∀ {s j}, Document.ofText s = ⟨j, none⟩ →
      (ofText s).toOption = (ofJson maxLevels j).toOption := by
    intro s j hs
    rw [ofText, readText?, hs]
    cases ofJson maxLevels j <;> rfl
  have hsame : (ofText s).toOption = (ofText t).toOption := by
    rw [hroot hs, hroot ht]
    exact ofJson_eq_of_rearranged h hj hj' maxLevels
  exact ⟨hsame, fun settings => by rw [hsame]⟩

/-- The description of an API for books, with two schemas. -/
def booksText : String :=
  "\x7b\"name\":\"books\",\"version\":\"v1\",\"schemas\":\x7b" ++
    "\"Book\":\x7b\"type\":\"object\",\"id\":\"Book\"\x7d,\"Page\":\x7b\x7d\x7d\x7d"

/-- The same in another order, with a key more in the whole and in a schema. -/
def booksTextRearranged : String :=
  "\x7b\"schemas\":\x7b\"Page\":\x7b\x7d,\"Book\":\x7b\"id\":\"Book\",\"type\":\"object\"," ++
    "\"deprecated\":[1e999]\x7d\x7d,\"version\":\"v1\",\"name\":\"books\",\"kind\":null\x7d"

/-- Both texts can be read, and they give the same. -/
theorem ofText_rearranged_books :
    (ofText booksText).isOk = true ∧
      (ofText booksText).toOption = (ofText booksTextRearranged).toOption := by
  let book : Json :=
    .object [(.ok "type", .text (.ok "object")), (.ok "id", .text (.ok "Book"))] none
  let large : Json :=
    .array [.number ⟨false, ['1'], [], some ⟨'e', none, ['9', '9', '9']⟩⟩] none
  let book' : Json := .object [(.ok "id", .text (.ok "Book")), (.ok "type", .text (.ok "object")),
    (.ok "deprecated", large)] none
  let schemas : Json := .object [(.ok "Book", book), (.ok "Page", .object [] none)] none
  let schemas' : Json := .object [(.ok "Page", .object [] none), (.ok "Book", book')] none
  have hs : Document.ofText booksText = ⟨.object [(.ok "name", .text (.ok "books")),
      (.ok "version", .text (.ok "v1")), (.ok "schemas", schemas)] none, none⟩ := by
    decide +kernel +zetaReduce
  have ht : Document.ofText booksTextRearranged = ⟨.object [(.ok "schemas", schemas'),
      (.ok "version", .text (.ok "v1")), (.ok "name", .text (.ok "books")),
      (.ok "kind", .null)] none, none⟩ := by
    decide +kernel +zetaReduce
  have hbook : Rearranged grammar (.record .schema) book book' := by
    refine .object [(.ok "id", .text (.ok "Book"), .text (.ok "Book")),
      (.ok "type", .text (.ok "object"), .text (.ok "object"))] [] [(.ok "deprecated", large)]
      (List.reverse_perm _).symm (List.Perm.refl _) ?_ (by simp) ?_
    · simp [Rearranged.same]
    · simp only [List.forall_mem_singleton]
      exact ⟨.schema, "deprecated", rfl, rfl, by decide, rfl⟩
  have hschemas : Rearranged grammar (.map .schema) schemas schemas' := by
    refine .object [(.ok "Page", .object [] none, .object [] none), (.ok "Book", book, book')] [] []
      (List.reverse_perm _).symm (List.Perm.refl _) ?_ (by simp) (by simp)
    exact List.forall_mem_cons.2 ⟨.same _ _, List.forall_mem_singleton.2 hbook⟩
  refine ⟨by decide +kernel, (ofText_eq_of_rearranged hs ht ?_ ?_ ?_).1⟩
  · refine .object [(.ok "schemas", schemas, schemas'),
      (.ok "version", .text (.ok "v1"), .text (.ok "v1")),
      (.ok "name", .text (.ok "books"), .text (.ok "books"))] [] [(.ok "kind", .null)]
      (List.reverse_perm _).symm (List.Perm.refl _) ?_ (by simp) ?_
    · refine List.forall_mem_cons.2 ⟨hschemas, List.forall_mem_cons.2 ⟨.same _ _, ?_⟩⟩
      exact List.forall_mem_singleton.2 (.same _ _)
    · simp only [List.forall_mem_singleton]
      exact ⟨.description, "kind", rfl, rfl, by decide, rfl⟩
  · simp [schemas, book, DistinctKeys, DistinctInMembers, keysOf, Except.toOption]
  · simp [schemas', book', large, DistinctKeys, DistinctInMembers, DistinctInItems, keysOf,
      Except.toOption]

end Description

end ClientGen
