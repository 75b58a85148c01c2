import ClientGen.Traced

/-!
# Computations that succeed

What it takes for one result after another to be there, `bind_eq_ok`, and for a traced computation
to give a value: `report_bind_result` (reporting an event does not stand in the way),
`mapError_result_eq_ok` (nor does putting errors in other terms), `fail_result_ne_ok` (failing
does). Together with `Traced.bind_result_eq_ok` they take a computation that succeeded apart, step
by step.

Where two computations do the same on different data, `Image` says that they succeed on the same
inputs, with values that correspond.
-/

namespace ClientGen

/-! ## Results one after the other -/

section

variable {ε α β : Type} {x : Except ε α} {f : α → Except ε β}

theorem bind_eq_ok {b : β} : x >>= f = .ok b ↔ ∃ a, x = .ok a ∧ f a = .ok b := by
  cases x <;> simp [bind, Except.bind]

theorem bind_eq_error {e : ε} :
    x >>= f = .error e ↔ x = .error e ∨ ∃ a, x = .ok a ∧ f a = .error e := by
  cases x <;> simp [bind, Except.bind]

theorem isOk_iff : x.isOk = true ↔ ∃ a, x = .ok a := by
  cases x with
  | error e => exact iff_of_false nofun nofun
  | ok a => exact iff_of_true rfl ⟨a, rfl⟩

end

/-! ## Traced computations -/

namespace Traced

variable {α β : Type}

theorem pure_result_eq_ok {a b : α} : (pure a : Traced α).result = .ok b ↔ a = b := by
  rw [pure_eq]
  exact ⟨fun h => Except.ok.inj h, fun h => h ▸ rfl⟩

theorem fail_result_ne_ok (e : Error) (a : α) : (fail e : Traced α).result ≠ .ok a := by
  intro h
  cases h

/-- What comes after a reported event decides. -/
@[simp] theorem report_bind_result (e : Event) (x : Traced α) :
    (do report e; x : Traced α).result = x.result := rfl

/-- Only errors are put in other terms. -/
theorem mapError_result_eq_ok {f : Error → Error} {x : Traced α} {a : α} :
    (x.mapError f).result = .ok a ↔ x.result = .ok a := by
  rcases x with ⟨events, e | b⟩
  · constructor <;> intro h <;> cases h
  · exact Iff.rfl

/-- A result that exists and passes a test. -/
theorem exists_of_any {x : Traced α} {p : α → Bool} (h : x.result.toOption.any p = true) :
    ∃ a, x.result = .ok a ∧ p a = true := by
  cases hx : x.result with
  | error e => rw [hx] at h; cases h
  | ok a => rw [hx] at h; exact ⟨a, rfl, h⟩

/-! ## Computations alike -/

/-- Whenever one of the two computations succeeds so does the other, and the second one then gives
the value of the first under `f`. What they report, and how they fail, may differ. -/
def Image {α β : Type} (f : α → β) (x : Traced α) (y : Traced β) : Prop :=
  y.result.toOption = x.result.toOption.map f

variable {γ δ : Type} {f : α → β}

theorem image_pure {a : α} {b : β} (h : b = f a) : Image f (pure a) (pure b) :=
  congrArg some h

theorem image_fail {e e' : Error} : Image f (fail e) (fail e') := rfl

theorem Image.report_bind {e e' : Event} {x : Traced α} {y : Traced β} (h : Image f x y) :
    Image f (do report e; x) (do report e'; y) := h

theorem Image.mapError {c c' : Error → Error} {x : Traced α} {y : Traced β} (h : Image f x y) :
    Image f (x.mapError c) (y.mapError c') := by
  rcases x with ⟨events, e | a⟩ <;> rcases y with ⟨events', e' | b⟩ <;> exact h

/-- Computations stay alike if they go on alike. -/
theorem Image.bind {g : γ → δ} {x : Traced α} {y : Traced β} {k : α → Traced γ} {l : β → Traced δ}
    (h : Image f x y) (hkl : ∀ a, Image g (k a) (l (f a))) : Image g (x >>= k) (y >>= l) := by
  rcases x with ⟨events, e | a⟩ <;> rcases y with ⟨events', e' | b⟩
  · rfl
  · cases h
  · cases h
  · cases h
    exact hkl a

/-- Folds over lists that correspond are alike, if they are step by step. -/
theorem Image.foldlM {σ τ : Type} {F : σ → τ} {step : σ → α → Traced σ} {step' : τ → β → Traced τ}
    (h : ∀ s a, Image F (step s a) (step' (F s) (f a))) (l : List α) (s : σ) :
    Image F (l.foldlM step s) ((l.map f).foldlM step' (F s)) := by
  induction l generalizing s with
  | nil => exact image_pure rfl
  | cons a rest ih =>
    rw [List.foldlM_cons, List.map_cons, List.foldlM_cons]
    exact (h s a).bind ih

/-- The same for folds over one list. -/
theorem Image.foldlM_same {σ τ : Type} {F : σ → τ} {step : σ → α → Traced σ}
    {step' : τ → α → Traced τ} (h : ∀ s a, Image F (step s a) (step' (F s) a)) (l : List α)
    (s : σ) :
    Image F (l.foldlM step s) (l.foldlM step' (F s)) := by
  have hsame := Image.foldlM (f := id) h l s
  rwa [List.map_id] at hsame

end Traced

end ClientGen
