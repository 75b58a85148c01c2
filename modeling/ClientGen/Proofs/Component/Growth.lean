import ClientGen.Component.Work

/-!
# Work that only adds components

Between opening a component and closing it, the work inside sees a stack that is one deeper. If that
work leaves the innermost component on top of an unchanged stack, then opening, working and closing
together nest the component in the class that was current before, `within_eq`, and no more.

`Work.Grows` says of a piece of work that on every stack with a current class of a given name all it
does is to nest finished components in that class, and which ones these are if it succeeds. What it
reports and whether it succeeds is that of a computation without any stack. Work that leaves the
stack alone grows, `grows_traced`, and so does one piece of growing work after another,
`Grows.bind`, and work in a scope, `grows_within`.
-/

namespace ClientGen

/-- The computation between two events, whether or not it fails. -/
def Traced.between {α : Type} (first last : Event) (x : Traced α) : Traced α where
  events := first :: x.events ++ [last]
  result := x.result

namespace Component

/-! ## Nesting components -/

namespace Draft

/-- The class with finished components nested in it, one after the other. -/
def nestAll (parts : List Draft) (c : Class) : Class :=
  { c with
    nested := c.nested ++ parts.map fun d => .ofClass d.finish
    factories := c.factories ++ parts.map factory }

@[simp] theorem nestAll_nil (c : Class) : nestAll [] c = c := by
  cases c
  simp [nestAll]

theorem nestAll_append (parts more : List Draft) (c : Class) :
    nestAll (parts ++ more) c = nestAll more (nestAll parts c) := by
  simp [nestAll]

theorem nestIn_eq_nestAll (d : Draft) : d.nestIn = nestAll [d] := rfl

end Draft

/-! ## The current class -/

namespace Stack

variable (s : Stack)

@[simp] theorem current_modifyCurrent (f : Class → Class) :
    (s.modifyCurrent f).current = f s.current := by
  obtain ⟨root, drafts⟩ := s
  cases drafts <;> rfl

@[simp] theorem depth_modifyCurrent (f : Class → Class) :
    (s.modifyCurrent f).depth = s.depth := by
  obtain ⟨root, drafts⟩ := s
  cases drafts <;> rfl

@[simp] theorem modifyCurrent_modifyCurrent (f g : Class → Class) :
    (s.modifyCurrent f).modifyCurrent g = s.modifyCurrent (g ∘ f) := by
  obtain ⟨root, drafts⟩ := s
  cases drafts <;> rfl

@[simp] theorem modifyCurrent_id : s.modifyCurrent (fun c => c) = s := by
  obtain ⟨root, drafts⟩ := s
  cases drafts <;> rfl

/-- The stack with a component on top. -/
def push (d : Draft) : Stack :=
  { s with drafts := d :: s.drafts }

@[simp] theorem depth_push (d : Draft) : (s.push d).depth = s.depth + 1 := rfl

theorem openChild_eq (spec : Spec) :
    s.openChild spec = (s.push (.new (s.childName spec.identifier) spec),
      ⟨s.depth + 1, s.childName spec.identifier⟩) := rfl

/-- The component on top can be closed with the handle that counts it. -/
theorem close_push (d : Draft) (name : QualifiedName) :
    (s.push d).close ⟨s.depth + 1, name⟩ = .ok (s.modifyCurrent d.nestIn) := by
  show (if s.depth + 1 = (s.push d).depth then _ else _) = _
  rw [depth_push, if_pos rfl]
  rfl

end Stack

namespace Work

/-! ## Opening and closing -/

variable {α β : Type}

/-- Work in a scope that ends with its component on top nests that component in the class that was
current before, whether or not the work fails. -/
theorem within_eq {spec : Spec} {inside : Work α} {s : Stack} {events : List Event} {d : Draft}
    {result : Except Error α}
    (h : inside (s.push (.new (s.childName spec.identifier) spec)) = ⟨events, s.push d, result⟩) :
    within spec inside s =
      ⟨.opening (s.childName spec.identifier) (s.depth + 1) :: events ++
        [.closing (s.childName spec.identifier)], s.modifyCurrent d.nestIn, result⟩ := by
  have hclose : Work.close ⟨s.depth + 1, s.childName spec.identifier⟩ (s.push d) =
      ⟨[.closing (s.childName spec.identifier)], s.modifyCurrent d.nestIn, .ok ()⟩ := by
    rw [Work.close, Stack.close_push]
  unfold within Work.openChild
  simp only [Stack.openChild_eq, h, hclose]
  cases result with
  | error e => rfl
  | ok a => rfl

/-! ## Growing -/

/-- On every stack of the given depth with a current class of the given name, the work reports and
gives what the computation reports and gives; all it does to the stack is to nest components in the
current class, the given ones if it succeeds. -/
def Grows (w : Work α) (owner : QualifiedName) (depth : Nat) (x : Traced α) (parts : List Draft) :
    Prop :=
  ∀ s : Stack, s.current.name = owner → s.depth = depth →
    ∃ got, w s = ⟨x.events, s.modifyCurrent (Draft.nestAll got), x.result⟩ ∧
      ∀ a, x.result = .ok a → got = parts

variable {owner : QualifiedName} {depth : Nat} {x : Traced α} {parts more : List Draft}

theorem grows_traced (x : Traced α) : (Work.traced x).Grows owner depth x [] := by
  intro s _ _
  refine ⟨[], ?_, fun _ _ => rfl⟩
  have hnone : Draft.nestAll [] = fun c => c := funext Draft.nestAll_nil
  rw [hnone, Stack.modifyCurrent_id]
  rfl

/-- One piece of growing work after another nests the components of both. -/
theorem Grows.bind {w : Work α} {f : α → Work β} {g : α → Traced β}
    (hw : w.Grows owner depth x parts)
    (hf : ∀ a, x.result = .ok a → (f a).Grows owner depth (g a) more) :
    (w >>= f).Grows owner depth (x >>= g) (parts ++ more) := by
  intro s hname hdepth
  obtain ⟨got, hs, hgot⟩ := hw s hname hdepth
  obtain ⟨events, e | a⟩ := x
  · refine ⟨got, ?_, fun _ h => by cases h⟩
    show Work.bind w f s = _
    rw [Work.bind, hs]
    rfl
  · cases hgot a rfl
    obtain ⟨others, hothers, hmore⟩ := hf a rfl (s.modifyCurrent (Draft.nestAll parts))
      (by rw [Stack.current_modifyCurrent]; exact hname) (by rw [Stack.depth_modifyCurrent, hdepth])
    have hcompose : Draft.nestAll others ∘ Draft.nestAll parts = Draft.nestAll (parts ++ others) :=
      funext fun c => (Draft.nestAll_append parts others c).symm
    rw [Stack.modifyCurrent_modifyCurrent, hcompose] at hothers
    refine ⟨parts ++ others, ?_, ?_⟩
    · show Work.bind w f s = _
      rw [Work.bind, hs]
      show Progress.mk (events ++ (f a _).events) (f a _).stack (f a _).result = _
      rw [hothers]
      rfl
    · intro b hb
      rw [hmore b hb]

/-- The name that a component will get depends on the name of the current class only. -/
theorem grows_childName_bind {identifier : Identifier} {f : QualifiedName → Work α}
    (hf : (f (owner.nested identifier.typeName)).Grows owner depth x parts) :
    (Work.ask (·.childName identifier) >>= f).Grows owner depth x parts := by
  intro s hname hdepth
  obtain ⟨got, hs, hgot⟩ := hf s hname hdepth
  refine ⟨got, ?_, hgot⟩
  have hchild : s.childName identifier = owner.nested identifier.typeName := by
    rw [Stack.childName, hname]
  show Progress.mk ([] ++ (f (s.childName identifier) s).events)
    (f (s.childName identifier) s).stack (f (s.childName identifier) s).result = _
  rw [hchild, hs]
  rfl

/-- Work in a scope nests the one component of that scope, if the work inside ends with it on top.
-/
theorem grows_within {spec : Spec} {type : QualifiedName} {inside : Work α} {d : Draft}
    (htype : owner.nested spec.identifier.typeName = type)
    (h : ∀ s : Stack, s.depth = depth →
      ∃ d', inside (s.push (.new type spec)) = ⟨x.events, s.push d', x.result⟩ ∧
        ∀ a, x.result = .ok a → d' = d) :
    (within spec inside).Grows owner depth
      (x.between (.opening type (depth + 1)) (.closing type)) [d] := by
  intro s hname hdepth
  obtain ⟨d', hd', hd⟩ := h s hdepth
  have hchild : s.childName spec.identifier = type := by
    rw [Stack.childName, hname, htype]
  refine ⟨[d'], ?_, ?_⟩
  · rw [within_eq (hchild ▸ hd'), hchild, hdepth, Draft.nestIn_eq_nestAll]
    rfl
  · intro a ha
    rw [hd a ha]

end Work

end Component

end ClientGen
