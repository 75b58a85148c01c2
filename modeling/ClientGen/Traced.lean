import ClientGen.Error
import ClientGen.Event

/-!
# Computations that report events

A traced computation gives a value or an error and, in either case, the events it reported. One
after the other, computations report the events of the first and then those of the second, which is
not started if the first fails.
-/

namespace ClientGen

/-- A value or an error, with the events reported on the way to it. -/
structure Traced (α : Type) where
  events : List Event := []
  result : Except Error α

namespace Traced

variable {α β : Type}

/-- The value, with nothing reported. -/
protected def pure (a : α) : Traced α where
  result := .ok a

/-- One computation after another. -/
protected def bind (x : Traced α) (f : α → Traced β) : Traced β :=
  match x with
  | ⟨events, .error e⟩ => ⟨events, .error e⟩
  | ⟨events, .ok a⟩ =>
    let ⟨more, result⟩ := f a
    ⟨events ++ more, result⟩

instance : Monad Traced where
  pure := Traced.pure
  bind := Traced.bind

/-- Reports an event. -/
def report (e : Event) : Traced Unit where
  events := [e]
  result := .ok ()

/-- Fails, with nothing reported. -/
def fail (e : Error) : Traced α where
  result := .error e

/-- A value or an error, with nothing reported. -/
def ofExcept (result : Except Error α) : Traced α where
  result

/-- The computation with its error, if it has one, put in other terms. -/
def mapError (f : Error → Error) (x : Traced α) : Traced α :=
  { x with result := x.result.mapError f }

/-! ## Laws -/

@[simp] theorem pure_eq (a : α) : (pure a : Traced α) = ⟨[], .ok a⟩ := rfl

@[simp] theorem bind_ok (events : List Event) (a : α) (f : α → Traced β) :
    (Traced.mk events (.ok a) >>= f) = ⟨events ++ (f a).events, (f a).result⟩ := rfl

@[simp] theorem bind_error (events : List Event) (e : Error) (f : α → Traced β) :
    (Traced.mk events (.error e) >>= f) = ⟨events, .error e⟩ := rfl

@[ext] theorem ext' {x y : Traced α} (he : x.events = y.events) (hr : x.result = y.result) :
    x = y := by
  cases x; cases y; simp_all

instance : LawfulMonad Traced :=
  LawfulMonad.mk' Traced
    (fun x => by
      rcases x with ⟨events, _ | a⟩ <;> simp [Functor.map, Traced.bind, Traced.pure])
    (fun a f => by simp [Bind.bind, Traced.bind])
    (fun x f g => by
      rcases x with ⟨events, _ | a⟩
      · rfl
      · rcases hf : f a with ⟨more, _ | b⟩ <;> simp [hf])

/-- A computation succeeds after another exactly when both do, the second on the value of the
first. -/
theorem bind_result_eq_ok {x : Traced α} {f : α → Traced β} {b : β} :
    (x >>= f).result = .ok b ↔ ∃ a, x.result = .ok a ∧ (f a).result = .ok b := by
  rcases x with ⟨events, _ | a⟩ <;> simp

end Traced

end ClientGen
