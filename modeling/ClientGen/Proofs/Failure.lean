import ClientGen.Proofs.Success

/-!
# Computations that fail

The counterpart of computations that succeed: `Traced.error?` is the error of a computation that
fails. One computation after another fails where the first one does or, after that one succeeded,
the second, `bind_result_eq_error`. If it does not matter to the second what value it gets, the
first error there is comes out, `error?_bind_const`, and what the second reports comes after what
the first does, `events_bind_const`. A fold fails at one of its elements, `exists_of_foldlM_error`.
-/

namespace ClientGen.Traced

variable {α β : Type}

/-- The error of a computation that fails. -/
def error? (x : Traced α) : Option Error :=
  match x.result with
  | .error e => some e
  | .ok _ => none

theorem error?_eq_some {x : Traced α} {e : Error} : x.error? = some e ↔ x.result = .error e := by
  rcases x with ⟨events, e' | a⟩ <;> simp [error?]

@[simp] theorem error?_pure (a : α) : (pure a : Traced α).error? = none := rfl

/-- The first error counts, if the second computation fails in the same way on every value. -/
theorem error?_bind_const {x : Traced α} {f : α → Traced β} {second : Option Error}
    (h : ∀ a, (f a).error? = second) : (x >>= f).error? = x.error?.or second := by
  rcases x with ⟨events, e | a⟩
  · rfl
  · exact h a

/-- What only goes on with a value does not fail. -/
theorem error?_bind_pure (x : Traced α) (f : α → β) :
    (x >>= fun a => pure (f a)).error? = x.error? :=
  (error?_bind_const fun _ => error?_pure _).trans (Option.or_none)

/-- If the second computation reports the same on every value, it is reported unless the first one
fails. -/
theorem events_bind_const {x : Traced α} {f : α → Traced β} {more : List Event}
    (h : ∀ a, (f a).events = more) :
    (x >>= f).events = x.events ++ if x.error? = none then more else [] := by
  rcases x with ⟨events, e | a⟩
  · exact (List.append_nil _).symm
  · exact congrArg (events ++ ·) (h a)

theorem bind_result_eq_error {x : Traced α} {f : α → Traced β} {e : Error} :
    (x >>= f).result = .error e ↔
      x.result = .error e ∨ ∃ a, x.result = .ok a ∧ (f a).result = .error e := by
  rcases x with ⟨events, e' | a⟩ <;> simp

theorem mapError_result_eq_error {f : Error → Error} {x : Traced α} {e : Error} :
    (x.mapError f).result = .error e ↔ ∃ cause, x.result = .error cause ∧ f cause = e := by
  rcases x with ⟨events, e' | a⟩
  · constructor
    · intro h
      exact ⟨e', rfl, Except.error.inj h⟩
    · rintro ⟨cause, h, rfl⟩
      cases h
      rfl
  · refine iff_of_false (fun h => by cases h) ?_
    rintro ⟨cause, h, -⟩
    cases h

theorem pure_result_ne_error (a : α) (e : Error) : (pure a : Traced α).result ≠ .error e := by
  intro h
  cases h

/-- A computation that only goes on with a value fails where the first one does. -/
theorem bind_pure_result_eq_error {x : Traced α} {f : α → β} {e : Error}
    (h : (x >>= fun a => pure (f a)).result = .error e) : x.result = .error e := by
  rwa [← error?_eq_some, error?_bind_pure, error?_eq_some] at h

/-- A fold that fails does so at one of its elements. -/
theorem exists_of_foldlM_error {f : β → α → Traced β} {l : List α} {b : β} {e : Error}
    (h : (l.foldlM f b).result = .error e) : ∃ a ∈ l, ∃ b', (f b' a).result = .error e := by
  induction l generalizing b with
  | nil => exact absurd h (pure_result_ne_error b e)
  | cons a rest ih =>
    rw [List.foldlM_cons] at h
    rcases bind_result_eq_error.1 h with h | ⟨b', -, h⟩
    · exact ⟨a, List.mem_cons_self, b, h⟩
    · obtain ⟨a', ha', h⟩ := ih h
      exact ⟨a', List.mem_cons_of_mem _ ha', h⟩

end ClientGen.Traced
