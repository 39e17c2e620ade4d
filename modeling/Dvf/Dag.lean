/-
**Finite dependency relations.**

A dependency graph is a function `deps : α → List α` that lists the direct dependencies of each
vertex, possibly with repetitions.  This module collects what the scheduling of such a graph rests
on: the transitive dependencies of a vertex, acyclicity, lists in which every vertex comes after
its dependencies, and the minimal element of a finite set of vertices.

Main definitions:

* `Dag.Dep`, `Dag.Below` — direct and proper transitive dependency;
* `Dag.Acyclic` — no vertex is a proper transitive dependency of itself;
* `Dag.Topological` — every vertex of a list comes after all of its dependencies.

Main results:

* `Dag.Topological.idxOf_lt` — dependencies have smaller positions;
* `Dag.Topological.acyclic` — a topological list of all vertices excludes cycles;
* `Dag.Acyclic.exists_minimal` — a nonempty finite set of vertices of an acyclic graph has a
  vertex none of whose dependencies is in the set.
-/

import Mathlib.Data.Fintype.Card
import Mathlib.Data.List.Nodup
import Mathlib.Data.Set.Finite.Basic
import Mathlib.Logic.Relation
import Mathlib.Order.WellFounded

set_option autoImplicit false

namespace Dag

variable {α : Type*} {deps : α → List α}

/-! ### Transitive dependencies -/

/-- `b` depends directly on `a`. -/
def Dep (deps : α → List α) (a b : α) : Prop := a ∈ deps b

/-- `a` is a proper transitive dependency of `b`. -/
def Below (deps : α → List α) (a b : α) : Prop := Relation.TransGen (Dep deps) a b

/-- No vertex depends on itself, directly or through others. -/
def Acyclic (deps : α → List α) : Prop := ∀ a, ¬ Below deps a a

theorem Below.single {a b : α} (h : a ∈ deps b) : Below deps a b := Relation.TransGen.single h

theorem Below.trans {a b c : α} (h₁ : Below deps a b) (h₂ : Below deps b c) : Below deps a c :=
  Relation.TransGen.trans h₁ h₂

/-- A transitive dependency is reached through a direct one. -/
theorem below_iff {a b : α} : Below deps a b ↔ ∃ d ∈ deps b, a = d ∨ Below deps a d := by
  constructor
  · intro h
    cases h with
    | single h => exact ⟨a, h, Or.inl rfl⟩
    | tail h₁ h₂ => exact ⟨_, h₂, Or.inr h₁⟩
  · rintro ⟨d, hd, rfl | h⟩
    · exact Below.single hd
    · exact h.trans (Below.single hd)

/-- A property that passes from the direct dependencies of a vertex to all of them passes to all
its transitive dependencies. -/
theorem Below.of_closed {P : α → Prop} (hP : ∀ b, P b → ∀ d ∈ deps b, P d) {a b : α}
    (h : Below deps a b) (hb : P b) : P a := by
  induction h using Relation.TransGen.head_induction_on with
  | single h => exact hP _ hb _ h
  | head h _ ih => exact hP _ ih _ h

/-! ### Topological lists -/

/-- Every vertex of the list comes after all of its dependencies. -/
def Topological (deps : α → List α) (l : List α) : Prop :=
  ∀ l₁ a l₂, l = l₁ ++ a :: l₂ → ∀ d ∈ deps a, d ∈ l₁

theorem topological_nil : Topological deps [] := by
  intro l₁ a l₂ h
  simp at h

/-- A vertex may follow a topological list that has all its dependencies. -/
theorem Topological.concat {l : List α} {a : α} (h : Topological deps l)
    (ha : ∀ d ∈ deps a, d ∈ l) : Topological deps (l ++ [a]) := by
  intro l₁ b l₂ heq d hd
  rcases List.eq_nil_or_concat l₂ with rfl | ⟨l₂', z, rfl⟩
  · obtain ⟨rfl, hab⟩ := List.append_inj' heq rfl
    obtain rfl : a = b := by simpa using hab
    exact ha d hd
  · have heq' : l ++ [a] = (l₁ ++ b :: l₂') ++ [z] := by simpa using heq
    exact h l₁ b l₂' (List.append_inj' heq' rfl).1 d hd

/-- The dependencies of the vertices of a topological list are in the list. -/
theorem Topological.dep_mem {l : List α} (h : Topological deps l) {a d : α} (ha : a ∈ l)
    (hd : d ∈ deps a) : d ∈ l := by
  obtain ⟨l₁, l₂, rfl⟩ := List.append_of_mem ha
  exact List.mem_append_left _ (h l₁ a l₂ rfl d hd)

/-- The transitive dependencies of the vertices of a topological list are in the list. -/
theorem Topological.below_mem {l : List α} (h : Topological deps l) {a b : α} (hb : b ∈ l)
    (hab : Below deps a b) : a ∈ l :=
  hab.of_closed (fun _ hb _ hd => h.dep_mem hb hd) hb

/-- **Dependencies come first**: in a topological list without repetitions a transitive dependency
has a smaller position. -/
theorem Topological.idxOf_lt [DecidableEq α] {l : List α} (h : Topological deps l)
    (hnd : l.Nodup) {a b : α} (hb : b ∈ l) (hab : Below deps a b) : l.idxOf a < l.idxOf b := by
  -- one edge: the list splits at `b`, and the dependency is in the part before it
  have hdep : ∀ a b, b ∈ l → a ∈ deps b → l.idxOf a < l.idxOf b := by
    intro a b hb ha
    obtain ⟨l₁, l₂, rfl⟩ := List.append_of_mem hb
    have ha₁ : a ∈ l₁ := h l₁ b l₂ rfl a ha
    have hb₁ : b ∉ l₁ := fun hb₁ =>
      (List.nodup_append.1 hnd).2.2 b hb₁ b List.mem_cons_self rfl
    rw [List.idxOf_append_of_mem ha₁, List.idxOf_append_of_notMem hb₁]
    have := List.idxOf_lt_length_of_mem ha₁
    omega
  induction hab using Relation.TransGen.head_induction_on with
  | single h₁ => exact hdep _ _ hb h₁
  | head h₁ h₂ ih => exact (hdep _ _ (h.below_mem hb h₂) h₁).trans ih

/-- In a list without repetitions, being topological is about positions. -/
theorem topological_iff_idxOf [DecidableEq α] {l : List α} (hnd : l.Nodup) :
    Topological deps l ↔ ∀ b ∈ l, ∀ a ∈ deps b, a ∈ l ∧ l.idxOf a < l.idxOf b := by
  constructor
  · intro h b hb a ha
    exact ⟨h.dep_mem hb ha, h.idxOf_lt hnd hb (Below.single ha)⟩
  · rintro h l₁ b l₂ rfl a ha
    obtain ⟨-, hlt⟩ := h b (by simp) a ha
    have hb₁ : b ∉ l₁ := fun hb₁ =>
      (List.nodup_append.1 hnd).2.2 b hb₁ b List.mem_cons_self rfl
    by_contra ha₁
    rw [List.idxOf_append_of_notMem ha₁, List.idxOf_append_of_notMem hb₁, List.idxOf_cons_self]
      at hlt
    omega

/-- A topological list that has every vertex with a dependency excludes cycles. -/
theorem Topological.acyclic {l : List α} (h : Topological deps l) (hnd : l.Nodup)
    (hall : ∀ a, a ∉ l → deps a = []) : Acyclic deps := by
  classical
  intro a ha
  have hal : a ∈ l := by
    by_contra hal
    obtain ⟨d, hd, _⟩ := below_iff.1 ha
    rw [hall a hal] at hd
    exact List.not_mem_nil hd
  exact lt_irrefl _ (h.idxOf_lt hnd hal ha)

/-- Acyclicity is reflected by a map that takes dependencies to dependencies. -/
theorem Acyclic.of_map {β : Type*} {deps' : β → List β} (h : Acyclic deps') (f : α → β)
    (hf : ∀ b, ∀ a ∈ deps b, f a ∈ deps' (f b)) : Acyclic deps := by
  intro a ha
  have hmap : Relation.TransGen (Dep deps') (f a) (f a) :=
    Relation.TransGen.lift (p := Dep deps') f (fun a b hab => hf b a hab) _ _ ha
  exact h (f a) hmap

/-! ### Minimal vertices -/

/-- **Minimal vertices**: in an acyclic graph a nonempty finite set has a vertex none of whose
dependencies is in the set. -/
theorem Acyclic.exists_minimal (h : Acyclic deps) (S : Finset α) (hS : S.Nonempty) :
    ∃ a ∈ S, ∀ d ∈ deps a, d ∉ S := by
  let r : S → S → Prop := fun a b => Below deps a.1 b.1
  have : IsTrans S r := ⟨fun _ _ _ h₁ h₂ => Below.trans h₁ h₂⟩
  have : Std.Irrefl r := ⟨fun a ha => h a.1 ha⟩
  have hwf : WellFounded r := Finite.wellFounded_of_trans_of_irrefl r
  obtain ⟨a₀, ha₀⟩ := hS
  obtain ⟨a, _, hmin⟩ := hwf.has_min Set.univ ⟨⟨a₀, ha₀⟩, trivial⟩
  exact ⟨a.1, a.2, fun d hd hdS => hmin ⟨d, hdS⟩ trivial (Below.single hd)⟩

end Dag
