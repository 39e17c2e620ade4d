/-
**Kahn's algorithm with a sorted queue.**

The loop of `Kahn` with one change: the queue is sorted before a vertex is taken off it, so that
among the vertices that are ready the smallest is emitted first.  The invariant of `Kahn` does not
see the order of the queue, so what is emitted is characterised as before.  What sorting adds is
the place of the vertices without dependencies, which are ready from the start: exactly the
vertices that are smaller, and all of whose transitive dependencies are smaller, come before.

Main definitions:

* `Kahn.sortedLoop` — the loop, with a bound on the number of iterations;
* `Kahn.AheadOf` — a vertex and all its transitive dependencies are smaller than a given one;
* `Kahn.SourcesPlaced` — what has been emitted before and after the vertices without dependencies.

Main results:

* `Kahn.SourcesPlaced.concat` — emitting a smallest vertex of the queue keeps the places: **before
  a vertex without dependencies come the vertices that are ahead of it**;
* `Kahn.sortedLoop_spec` — with one iteration allowed per vertex the loop leaves no vertex whose
  dependencies have all been emitted, and every vertex without dependencies is in its place.
-/

import Dvf.Kahn
import Mathlib.Data.List.Sort

set_option autoImplicit false

namespace Kahn

open Dag

variable {α : Type*} [LinearOrder α]

/-! ### The loop -/

/-- The loop on the queue, the in-degrees and the order emitted so far; the queue is sorted before
its first vertex is taken.  The first argument bounds the number of iterations. -/
def sortedLoop (adj : α → List α) : ℕ → List α → (α → ℤ) → List α → List α
  | 0, _, _, order => order
  | fuel + 1, queue, inDegree, order =>
      match queue.insertionSort (· ≤ ·) with
      | [] => order
      | cur :: rest =>
          let st := (adj cur).foldl relax (rest, inDegree)
          sortedLoop adj fuel st.1 st.2 (order ++ [cur])

theorem sortedLoop_nil (adj : α → List α) (fuel : ℕ) (inDegree : α → ℤ) (order : List α) :
    sortedLoop adj fuel [] inDegree order = order := by
  cases fuel <;> rfl

theorem sortedLoop_cons {adj : α → List α} {fuel : ℕ} {queue rest : List α} {cur : α}
    {inDegree : α → ℤ} {order : List α} (h : queue.insertionSort (· ≤ ·) = cur :: rest) :
    sortedLoop adj (fuel + 1) queue inDegree order =
      sortedLoop adj fuel ((adj cur).foldl relax (rest, inDegree)).1
        ((adj cur).foldl relax (rest, inDegree)).2 (order ++ [cur]) := by
  rw [sortedLoop, h]

theorem Inv.perm {ids : List α} {deps : α → List α} {queue queue' : List α} {inDegree : α → ℤ}
    {order : List α} (h : Inv ids deps queue inDegree order) (hp : queue.Perm queue') :
    Inv ids deps queue' inDegree order where
  nodup := (hp.append_left order).nodup_iff.1 h.nodup
  subset := fun v hv => h.subset v ((hp.append_left order).mem_iff.2 hv)
  degree := h.degree
  zero := fun v hv => (hp.append_left order).mem_iff.symm.trans (h.zero v hv)
  topo := h.topo

theorem insertionSort_eq_cons {queue : List α} (h : queue ≠ []) :
    ∃ cur rest, queue.insertionSort (· ≤ ·) = cur :: rest ∧ queue.Perm (cur :: rest) ∧
      ∀ v ∈ queue, cur ≤ v := by
  have hperm := List.perm_insertionSort (· ≤ ·) queue
  have hsorted := List.pairwise_insertionSort (· ≤ ·) queue
  cases hs : queue.insertionSort (· ≤ ·) with
  | nil =>
      rw [hs] at hperm
      exact absurd hperm.symm.eq_nil h
  | cons cur rest =>
      rw [hs] at hperm hsorted
      refine ⟨cur, rest, rfl, hperm.symm, fun v hv => ?_⟩
      rcases List.mem_cons.1 (hperm.mem_iff.2 hv) with rfl | hv'
      · exact le_rfl
      · exact (List.pairwise_cons.1 hsorted).1 v hv'

/-! ### The place of the vertices without dependencies -/

/-- The vertex `x` and all its transitive dependencies are smaller than `p`. -/
def AheadOf (deps : α → List α) (p x : α) : Prop := x < p ∧ ∀ y, Below deps y x → y < p

theorem AheadOf.dep {deps : α → List α} {p x d : α} (h : AheadOf deps p x) (hd : d ∈ deps x) :
    AheadOf deps p d :=
  ⟨h.2 d (Below.single hd), fun y hy => h.2 y (hy.trans (Below.single hd))⟩

theorem aheadOf_of_topological {deps : α → List α} {l : List α} (h : Topological deps l) {p : α}
    (hlt : ∀ x ∈ l, x < p) {x : α} (hx : x ∈ l) : AheadOf deps p x :=
  ⟨hlt x hx, fun y hy => hlt y (h.below_mem hx hy)⟩

/-- Where the vertices without dependencies are, in an order emitted so far: one that has been
emitted came right after the vertices that are ahead of it, and one that has not been is larger
than everything emitted. -/
structure SourcesPlaced (ids : List α) (deps : α → List α) (order : List α) : Prop where
  before : ∀ l₁ p l₂, order = l₁ ++ p :: l₂ → deps p = [] →
    ∀ x ∈ ids, x ∈ l₁ ↔ AheadOf deps p x
  pending : ∀ p ∈ ids, p ∉ order → deps p = [] → ∀ x ∈ order, x < p

theorem sourcesPlaced_nil (ids : List α) (deps : α → List α) : SourcesPlaced ids deps [] where
  before := by simp
  pending := by simp

theorem Inv.source_mem {ids : List α} {deps : α → List α} {queue : List α} {inDegree : α → ℤ}
    {order : List α} (h : Inv ids deps queue inDegree order) {p : α} (hp : p ∈ ids)
    (hsrc : deps p = []) : p ∈ order ++ queue := by
  rw [h.zero p hp, h.degree p, hsrc]
  rfl

/-- **When a smallest vertex of the queue is larger than `x` and all its dependencies, `x` has been
emitted**: the first of them that had not been would be in the queue. -/
theorem Inv.mem_of_aheadOf {ids : List α} {deps adj : α → List α} (hG : Graph ids deps adj)
    (hac : Acyclic deps) {queue : List α} {inDegree : α → ℤ} {order : List α}
    (h : Inv ids deps queue inDegree order) {p : α} (hmin : ∀ v ∈ queue, p ≤ v) {x : α}
    (hx : x ∈ ids) (hahead : AheadOf deps p x) : x ∈ order := by
  classical
  by_contra hxo
  obtain ⟨m, hm, hmdep⟩ := hac.exists_minimal
    (ids.toFinset.filter fun v => v ∉ order ∧ AheadOf deps p v) ⟨x, by simp [hx, hxo, hahead]⟩
  simp only [Finset.mem_filter, List.mem_toFinset] at hm hmdep
  obtain ⟨hmids, hmo, hmahead⟩ := hm
  have hdeps : ∀ d ∈ deps m, d ∈ order := by
    intro d hd
    by_contra hdo
    exact hmdep d hd ⟨hG.closed m hmids d hd, hdo, hmahead.dep hd⟩
  have hzero : inDegree m = 0 := by
    rw [h.degree m]
    simpa using hdeps
  have hmq : m ∈ queue := by
    have := (h.zero m hmids).2 hzero
    simpa [hmo] using this
  exact absurd (hmin m hmq) (not_le.2 hmahead.1)

/-- **Emitting a smallest vertex of the queue keeps the places.** -/
theorem SourcesPlaced.concat {ids : List α} {deps adj : α → List α} (hG : Graph ids deps adj)
    (hac : Acyclic deps) {cur : α} {queue : List α} {inDegree : α → ℤ} {order : List α}
    (h : Inv ids deps queue inDegree order) (hcur : cur ∈ queue) (hmin : ∀ v ∈ queue, cur ≤ v)
    (hs : SourcesPlaced ids deps order) : SourcesPlaced ids deps (order ++ [cur]) where
  before := by
    intro l₁ p l₂ heq hsrc x hx
    rcases List.eq_nil_or_concat l₂ with rfl | ⟨l₂', z, rfl⟩
    · -- the vertex just emitted
      obtain ⟨rfl, hp⟩ := List.append_inj' heq rfl
      obtain rfl : cur = p := by simpa using hp
      have hids : cur ∈ ids := h.subset cur (List.mem_append_right _ hcur)
      have hnot : cur ∉ order := fun hc => (List.nodup_append.1 h.nodup).2.2 cur hc cur hcur rfl
      exact ⟨aheadOf_of_topological h.topo (hs.pending cur hids hnot hsrc),
        h.mem_of_aheadOf hG hac hmin hx⟩
    · have heq' : order ++ [cur] = (l₁ ++ p :: l₂') ++ [z] := by simpa using heq
      exact hs.before l₁ p l₂' (List.append_inj' heq' rfl).1 hsrc x hx
  pending := by
    intro p hp hnot hsrc x hx
    simp only [List.mem_append, List.mem_singleton, not_or] at hnot
    rcases List.mem_append.1 hx with hx | hx
    · exact hs.pending p hp hnot.1 hsrc x hx
    · -- the vertex is still in the queue, and the one just emitted was a smallest
      obtain rfl : x = cur := by simpa using hx
      have hpq : p ∈ queue := by simpa [hnot.1] using h.source_mem hp hsrc
      exact lt_of_le_of_ne (hmin p hpq) (Ne.symm hnot.2)

/-! ### What the loop emits -/

/-- **The loop ends within one iteration per vertex**, with nothing left to emit and every vertex
without dependencies in its place. -/
theorem sortedLoop_spec {ids : List α} {deps adj : α → List α} (hG : Graph ids deps adj)
    (hac : Acyclic deps) :
    ∀ (fuel : ℕ) (queue : List α) (inDegree : α → ℤ) (order : List α),
      Inv ids deps queue inDegree order → SourcesPlaced ids deps order →
      ids.length ≤ fuel + order.length →
        Emitted ids deps (sortedLoop adj fuel queue inDegree order) ∧
          SourcesPlaced ids deps (sortedLoop adj fuel queue inDegree order) := by
  intro fuel
  induction fuel with
  | zero =>
      intro queue inDegree order h hs hfuel
      -- all vertices are emitted, so the queue is empty
      have hle := h.length_le
      obtain rfl : queue = [] := List.length_eq_zero_iff.1 (by omega)
      exact ⟨h.emitted, hs⟩
  | succ fuel ih =>
      intro queue inDegree order h hs hfuel
      by_cases hq : queue = []
      · subst hq
        rw [sortedLoop_nil]
        exact ⟨h.emitted, hs⟩
      · obtain ⟨cur, rest, hsort, hperm, hmin⟩ := insertionSort_eq_cons hq
        rw [sortedLoop_cons hsort]
        have hcur : cur ∈ queue := hperm.mem_iff.2 List.mem_cons_self
        refine ih _ _ _ ((h.perm hperm).step hG) (hs.concat hG hac h hcur hmin) ?_
        rw [List.length_append, List.length_singleton]
        omega

end Kahn
