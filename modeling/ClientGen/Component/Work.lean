import ClientGen.Component
import ClientGen.Traced

/-!
# Working on a stack of components

Steps that change a stack of components one after the other, report events and may fail. A step that
fails leaves the stack as it is at that moment, and the steps after it are not taken. A scoped
component is closed whether or not the steps inside it fail.
-/

namespace ClientGen.Component

/-- Where work has got to: what was reported, the stack, and a value or an error. -/
structure Progress (α : Type) where
  events : List Event := []
  stack : Stack
  result : Except Error α

/-- Work on a stack of components. -/
def Work (α : Type) := Stack → Progress α

namespace Work

variable {α β : Type}

/-- The value, with nothing done. -/
protected def pure (a : α) : Work α :=
  fun stack => { stack, result := .ok a }

/-- One piece of work after another. -/
protected def bind (x : Work α) (f : α → Work β) : Work β := fun stack =>
  match x stack with
  | ⟨events, stack, .error e⟩ => ⟨events, stack, .error e⟩
  | ⟨events, stack, .ok a⟩ =>
    let ⟨more, stack, result⟩ := f a stack
    ⟨events ++ more, stack, result⟩

instance : Monad Work where
  pure := Work.pure
  bind := Work.bind

/-- A traced computation that leaves the stack alone. -/
def traced (x : Traced α) : Work α :=
  fun stack => ⟨x.events, stack, x.result⟩

instance : MonadLift Traced Work := ⟨traced⟩

/-- What the stack is asked. -/
def ask (f : Stack → α) : Work α :=
  fun stack => { stack, result := .ok (f stack) }

/-- A change of the stack. -/
def change (f : Stack → Stack) : Work Unit :=
  fun stack => { stack := f stack, result := .ok () }

/-- Opens a component. -/
def openChild (spec : Spec) : Work Handle := fun stack =>
  let (opened, handle) := stack.openChild spec
  ⟨[.opening handle.name handle.depth], opened, .ok handle⟩

/-- Closes a component. A stack on which that is not possible stays as it is. -/
def close (handle : Handle) : Work Unit := fun stack =>
  match stack.close handle with
  | .ok closed => ⟨[.closing handle.name], closed, .ok ()⟩
  | .error e => ⟨[], stack, .error e⟩

/-- Opens a component, does the work inside it, and closes it whether or not the work fails. The
error of the work counts before that of closing. -/
def within (spec : Spec) (inside : Work α) : Work α := fun stack =>
  let opened := Work.openChild spec stack
  match opened.result with
  | .error e => ⟨opened.events, opened.stack, .error e⟩
  | .ok handle =>
    let built := inside opened.stack
    let closed := Work.close handle built.stack
    ⟨opened.events ++ built.events ++ closed.events, closed.stack,
      do let a ← built.result; closed.result; return a⟩

end Work

end ClientGen.Component
