import ClientGen.Proofs.Declaration.Tree
import Mathlib.Data.List.Nodup

/-!
# Declarations of different names

In a sound class, whatever is nested has the name of the class at the front of its own. So two
declarations can have one name only if they stand side by side, or if declarations around them do
that stand side by side and have one name: `nodup_names_iff` for the declarations inside one
declaration, and `nodup_names_forest` for several that have names of one length.
-/

namespace ClientGen

namespace QualifiedName

/-- The name is the other one or that of a type nested in it, at any depth. -/
def IsInside (q outer : QualifiedName) : Prop :=
  q.package = outer.package ∧ outer.names <+: q.names

variable {p q outer other : QualifiedName}

theorem ext_names (hpackage : p.package = q.package) (hnames : p.names = q.names) : p = q := by
  obtain ⟨package, enclosing, simpleName⟩ := p
  obtain ⟨package', enclosing', simpleName'⟩ := q
  obtain ⟨henclosing, hsimple⟩ := List.append_inj' hnames rfl
  cases hpackage
  cases henclosing
  cases hsimple
  rfl

theorem IsInside.refl (q : QualifiedName) : q.IsInside q :=
  ⟨rfl, List.prefix_rfl⟩

theorem IsInside.trans_isDirectlyIn (h : q.IsInside p) (hp : p.IsDirectlyIn outer) :
    q.IsInside outer := by
  obtain ⟨hpackage, segment, hnames⟩ := hp
  exact ⟨h.1.trans hpackage, (hnames ▸ List.prefix_append _ _ : outer.names <+: p.names).trans h.2⟩

/-- A name is inside one name of each length only. -/
theorem IsInside.unique (h : q.IsInside outer) (h' : q.IsInside other)
    (hlength : outer.names.length = other.names.length) : outer = other := by
  refine ext_names (h.1.symm.trans h'.1) ?_
  rw [List.prefix_iff_eq_take.1 h.2, List.prefix_iff_eq_take.1 h'.2, hlength]

theorem IsDirectlyIn.length_eq (h : q.IsDirectlyIn outer) :
    q.names.length = outer.names.length + 1 := by
  obtain ⟨-, segment, hnames⟩ := h
  rw [hnames, List.length_append, List.length_singleton]

/-- No name is inside one that is nested in it. -/
theorem IsDirectlyIn.not_isInside (h : q.IsDirectlyIn outer) : ¬outer.IsInside q := by
  rintro ⟨-, hprefix⟩
  have hlength := hprefix.length_le
  rw [h.length_eq] at hlength
  omega

theorem nested_injective (outer : QualifiedName) : Function.Injective outer.nested := by
  intro a b h
  exact congrArg simpleName h

end QualifiedName

namespace DeclarationOf

/-- The declarations directly nested in a declaration have different names. -/
def SiblingsApart (d : Declaration) : Prop :=
  (d.nested.map (·.name)).Nodup

/-- Nowhere in a declaration two siblings have the same name. -/
def AllApart (d : Declaration) : Prop :=
  ∀ e ∈ d.all, e.SiblingsApart

theorem allApart_iff {d : Declaration} :
    d.AllApart ↔ d.SiblingsApart ∧ ∀ x ∈ d.nested, x.AllApart :=
  forall_mem_all

variable {Known : QualifiedName → Prop}

/-- Everything in a sound declaration has a name inside the declaration's own. -/
theorem isInside_of_mem_all {d : Declaration} (h : d.AllSound Known) :
    ∀ e ∈ d.all, e.name.IsInside d.name := by
  induction d using DeclarationOf.induction with
  | node d ih =>
    obtain ⟨⟨-, hdirect⟩, hbelow⟩ := allSound_iff.1 h
    refine forall_mem_all.2 ⟨QualifiedName.IsInside.refl d.name, fun x hx e he => ?_⟩
    exact (ih x hx (hbelow x hx) e he).trans_isDirectlyIn (hdirect x hx)

/-- Of sound declarations with names of one length, two have names in common inside only if their
own names are equal. -/
theorem disjoint_names_iff {d e : Declaration} (hd : d.AllSound Known) (he : e.AllSound Known)
    (hlength : d.name.names.length = e.name.names.length) :
    (d.all.map (·.name)).Disjoint (e.all.map (·.name)) ↔ d.name ≠ e.name := by
  constructor
  · intro hdisjoint hname
    have hself (x : Declaration) : x.name ∈ x.all.map (·.name) := by
      rw [all_eq]
      exact List.mem_cons_self
    exact hdisjoint (hself d) (hname ▸ hself e)
  · intro hname q hqd hqe
    obtain ⟨x, hx, rfl⟩ := List.mem_map.1 hqd
    obtain ⟨y, hy, hxy⟩ := List.mem_map.1 hqe
    have hinside : x.name.IsInside e.name := hxy ▸ isInside_of_mem_all he y hy
    exact hname ((isInside_of_mem_all hd x hx).unique hinside hlength)

/-- Several sound declarations, with names of one length. -/
theorem nodup_names_forest {ds : List Declaration} (hsound : ∀ d ∈ ds, d.AllSound Known)
    (hlength : ∀ d ∈ ds, ∀ e ∈ ds, d.name.names.length = e.name.names.length) :
    ((ds.flatMap all).map (·.name)).Nodup ↔
      (ds.map (·.name)).Nodup ∧ ∀ d ∈ ds, (d.all.map (·.name)).Nodup := by
  have hpairs : ds.Pairwise (fun d e => (d.all.map (·.name)).Disjoint (e.all.map (·.name))) ↔
      (ds.map (·.name)).Nodup := by
    rw [List.Nodup, List.pairwise_map]
    exact List.Pairwise.iff_of_mem fun hd he =>
      disjoint_names_iff (hsound _ hd) (hsound _ he) (hlength _ hd _ he)
  rw [List.map_flatMap, List.nodup_flatMap, and_comm]
  exact and_congr_left' hpairs

/-- **Names differ if those of siblings do.** Inside a sound declaration all names are different
exactly if nowhere two declarations directly nested in the same one have the same name. -/
theorem nodup_names_iff {d : Declaration} (h : d.AllSound Known) :
    (d.all.map (·.name)).Nodup ↔ d.AllApart := by
  induction d using DeclarationOf.induction with
  | node d ih =>
    obtain ⟨⟨-, hdirect⟩, hbelow⟩ := allSound_iff.1 h
    have htop : d.name ∉ (d.nested.flatMap all).map (·.name) := by
      intro hmem
      obtain ⟨e, he, hname⟩ := List.mem_map.1 hmem
      obtain ⟨x, hx, he⟩ := List.mem_flatMap.1 he
      exact (hdirect x hx).not_isInside (hname ▸ isInside_of_mem_all (hbelow x hx) e he)
    have hlength : ∀ x ∈ d.nested, ∀ y ∈ d.nested,
        x.name.names.length = y.name.names.length := by
      intro x hx y hy
      rw [(hdirect x hx).length_eq, (hdirect y hy).length_eq]
    have hcons : (d.all.map (·.name)).Nodup ↔ ((d.nested.flatMap all).map (·.name)).Nodup := by
      rw [all_eq, List.map_cons, List.nodup_cons]
      exact and_iff_right htop
    rw [hcons, allApart_iff, nodup_names_forest hbelow hlength]
    exact and_congr_right' (forall₂_congr fun x hx => ih x hx (hbelow x hx))

end DeclarationOf

end ClientGen
