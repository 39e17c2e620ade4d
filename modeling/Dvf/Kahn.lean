/-
**Kahn's algorithm with a first-in-first-out queue.**

The loop takes a vertex off the queue, appends it to the order and lowers the in-degree of each of
its dependents, once per edge; a dependent whose in-degree reaches zero joins the queue.  The
in-degrees and the lists of dependents are given; repeated edges count as often as they occur, and
nothing is assumed about the order in which dependents are listed or vertices are seeded.

Main definitions:

* `Kahn.relax` — lowering the in-degree of one dependent;
* `Kahn.loop` — the loop, with a bound on the number of iterations;
* `Kahn.Graph` — the dependents lists are the reverse of the dependency lists;
* `Kahn.Inv` — the loop invariant.

Main results:

* `Kahn.foldl_relax` — one pass over a list of dependents lowers every in-degree by the number of
  occurrences and enqueues exactly the vertices that reach zero, once each;
* `Kahn.Inv.step` — an iteration keeps the invariant;
* `Kahn.loop_spec` — with one iteration allowed per vertex the loop leaves no vertex whose
  dependencies have all been emitted;
* `Kahn.Emitted.length_eq_iff` — **all vertices are emitted exactly when the graph is acyclic**.
-/

import Dvf.Dag
import Mathlib.Data.Finset.Dedup
import Mathlib.Data.List.Perm.Subperm

set_option autoImplicit false

namespace Kahn

open Dag

variable {α : Type*} [DecidableEq α]

/-! ### The loop -/

/-- Lowering the in-degree of `next`; it joins the queue when the in-degree reaches zero. -/
def relax (st : List α × (α → ℤ)) (next : α) : List α × (α → ℤ) :=
  let inDegree := Function.update st.2 next (st.2 next - 1)
  if inDegree next = 0 then (st.1 ++ [next], inDegree) else (st.1, inDegree)

/-- The loop on the queue, the in-degrees and the order emitted so far.  The first argument bounds
the number of iterations; `Kahn.loop_spec` shows that the number of vertices is enough. -/
def loop (adj : α → List α) : ℕ → List α → (α → ℤ) → List α → List α
  | 0, _, _, order => order
  | _ + 1, [], _, order => order
  | fuel + 1, cur :: queue, inDegree, order =>
      let st := (adj cur).foldl relax (queue, inDegree)
      loop adj fuel st.1 st.2 (order ++ [cur])

theorem loop_cons (adj : α → List α) (fuel : ℕ) (cur : α) (queue : List α) (inDegree : α → ℤ)
    (order : List α) :
    loop adj (fuel + 1) (cur :: queue) inDegree order =
      loop adj fuel ((adj cur).foldl relax (queue, inDegree)).1
        ((adj cur).foldl relax (queue, inDegree)).2 (order ++ [cur]) := rfl

/-- **One pass over a list of dependents**: every in-degree drops by the number of occurrences in
the list, and the vertices that cross zero are enqueued once each. -/
theorem foldl_relax (l : List α) (queue : List α) (inDegree : α → ℤ) :
    ∃ new, l.foldl relax (queue, inDegree) = (queue ++ new, fun v => inDegree v - l.count v) ∧
      new.Nodup ∧ ∀ v, v ∈ new ↔ 0 < inDegree v ∧ inDegree v ≤ l.count v := by
  induction l generalizing queue inDegree with
  | nil =>
      exact ⟨[], by simp, List.nodup_nil, fun v => by simp⟩
  | cons x l ih =>
      -- the in-degrees after the first element of the list
      set d := Function.update inDegree x (inDegree x - 1) with hd
      have hdx : d x = inDegree x - 1 := by simp [hd]
      have hdv : ∀ v, v ≠ x → d v = inDegree v := fun v hv => by simp [hd, hv]
      have hsub : (fun v => d v - (l.count v : ℤ)) =
          fun v => inDegree v - ((x :: l).count v : ℤ) := by
        funext v
        by_cases hv : v = x
        · subst hv
          rw [hdx, List.count_cons_self]
          omega
        · rw [hdv v hv, List.count_cons_of_ne (Ne.symm hv)]
      by_cases h0 : d x = 0
      · obtain ⟨new, hfold, hnd, hmem⟩ := ih (queue ++ [x]) d
        have hxnew : x ∉ new := fun hx => by
          have := ((hmem x).1 hx).1
          omega
        refine ⟨x :: new, ?_, List.nodup_cons.2 ⟨hxnew, hnd⟩, fun v => ?_⟩
        · rw [List.foldl_cons, relax, if_pos h0, hfold, hsub]
          simp
        · by_cases hv : v = x
          · subst hv
            simp only [List.mem_cons, true_or, List.count_cons_self, true_iff]
            omega
          · rw [List.mem_cons, hmem v, hdv v hv, List.count_cons_of_ne (Ne.symm hv)]
            simp [hv]
      · obtain ⟨new, hfold, hnd, hmem⟩ := ih queue d
        refine ⟨new, ?_, hnd, fun v => ?_⟩
        · rw [List.foldl_cons, relax, if_neg h0, hfold, hsub]
        · by_cases hv : v = x
          · subst hv
            rw [hmem v, hdx, List.count_cons_self]
            omega
          · rw [hmem v, hdv v hv, List.count_cons_of_ne (Ne.symm hv)]

/-! ### The loop invariant -/

/-- The vertices `ids` with their dependencies, and dependents lists that are the reverse of them
edge by edge. -/
structure Graph (ids : List α) (deps adj : α → List α) : Prop where
  /-- The vertices are listed once. -/
  nodup : ids.Nodup
  /-- Dependencies are vertices. -/
  closed : ∀ v ∈ ids, ∀ d ∈ deps v, d ∈ ids
  /-- Only vertices have dependencies. -/
  support : ∀ v, v ∉ ids → deps v = []
  /-- A dependent is listed as often as it lists the dependency. -/
  edges : ∀ u v, (adj u).count v = (deps v).count u

/-- The invariant of the loop: the in-degree of a vertex counts its dependencies that have not
been emitted, and the vertices emitted or queued are those of in-degree zero. -/
structure Inv (ids : List α) (deps : α → List α) (queue : List α) (inDegree : α → ℤ)
    (order : List α) : Prop where
  nodup : (order ++ queue).Nodup
  subset : ∀ v ∈ order ++ queue, v ∈ ids
  degree : ∀ v, inDegree v = (deps v).countP (fun d => d ∉ order)
  zero : ∀ v ∈ ids, v ∈ order ++ queue ↔ inDegree v = 0
  topo : Topological deps order

/-- Emitting one more vertex removes its occurrences from the dependencies still awaited. -/
theorem countP_notMem_concat (l order : List α) {c : α} (hc : c ∉ order) :
    l.countP (fun d => d ∉ order) = l.countP (fun d => d ∉ order ++ [c]) + l.count c := by
  induction l with
  | nil => rfl
  | cons x l ih =>
      by_cases hx : x = c
      · subst hx
        simp [hc] at ih ⊢
        omega
      · simp [List.countP_cons, hx] at ih ⊢
        omega

/-- A vertex of in-degree zero has all its dependencies emitted. -/
theorem Inv.deps_mem {ids : List α} {deps : α → List α} {queue : List α} {inDegree : α → ℤ}
    {order : List α} (h : Inv ids deps queue inDegree order) {v : α} (hv : inDegree v = 0) :
    ∀ d ∈ deps v, d ∈ order := by
  intro d hd
  have h0 : (deps v).countP (fun d => d ∉ order) = 0 := by
    have := h.degree v
    omega
  simpa using List.countP_eq_zero.1 h0 d hd

/-- **An iteration keeps the invariant.** -/
theorem Inv.step {ids : List α} {deps adj : α → List α} (hG : Graph ids deps adj) {cur : α}
    {queue : List α} {inDegree : α → ℤ} {order : List α}
    (h : Inv ids deps (cur :: queue) inDegree order) :
    Inv ids deps ((adj cur).foldl relax (queue, inDegree)).1
      ((adj cur).foldl relax (queue, inDegree)).2 (order ++ [cur]) := by
  obtain ⟨new, hfold, hnd, hmem⟩ := foldl_relax (adj cur) queue inDegree
  rw [hfold]
  have hcur : cur ∈ ids := h.subset cur (by simp)
  have hcur0 : inDegree cur = 0 := (h.zero cur hcur).1 (by simp)
  have hcurO : cur ∉ order := fun hc =>
    (List.nodup_append.1 h.nodup).2.2 cur hc cur List.mem_cons_self rfl
  -- lowering by the occurrences in `adj cur` is counting with `cur` emitted
  have hdeg : ∀ v, inDegree v - ((adj cur).count v : ℤ) =
      (deps v).countP (fun d => d ∉ order ++ [cur]) := by
    intro v
    have := countP_notMem_concat (deps v) order hcurO
    rw [h.degree v, hG.edges cur v]
    omega
  have hnew : ∀ v ∈ new, v ∈ ids := by
    intro v hv
    by_contra hids
    have := (hmem v).1 hv
    rw [hG.edges, hG.support v hids, List.count_nil] at this
    omega
  have hold : ∀ v, v ∈ order ++ [cur] ++ queue ↔ v ∈ order ++ cur :: queue := by
    intro v
    simp
  refine ⟨?_, ?_, hdeg, ?_, h.topo.concat (h.deps_mem hcur0)⟩
  · -- new vertices had a positive in-degree, the others zero
    rw [← List.append_assoc]
    refine List.nodup_append.2 ⟨by simpa using h.nodup, hnd, ?_⟩
    rintro v hv w hw rfl
    have hv' := (hold v).1 hv
    have := (h.zero v (h.subset v hv')).1 hv'
    have := ((hmem v).1 hw).1
    omega
  · intro v hv
    rw [← List.append_assoc, List.mem_append] at hv
    rcases hv with hv | hv
    · exact h.subset v ((hold v).1 hv)
    · exact hnew v hv
  · intro v hv
    have hz := h.zero v hv
    have hd := hdeg v
    have hd₀ := h.degree v
    rw [← List.append_assoc, List.mem_append, hold v, hz, hmem v]
    dsimp only
    constructor
    · rintro (h0 | h0) <;> omega
    · intro h0
      omega

/-! ### What the loop emits -/

/-- What holds of the emitted order when the loop ends. -/
structure Emitted (ids : List α) (deps : α → List α) (order : List α) : Prop where
  nodup : order.Nodup
  subset : ∀ v ∈ order, v ∈ ids
  topo : Topological deps order
  /-- No vertex is left whose dependencies have all been emitted. -/
  full : ∀ v ∈ ids, (∀ d ∈ deps v, d ∈ order) → v ∈ order

/-- When the queue is empty the emitted order is complete. -/
theorem Inv.emitted {ids : List α} {deps : α → List α} {inDegree : α → ℤ} {order : List α}
    (h : Inv ids deps [] inDegree order) : Emitted ids deps order where
  nodup := by simpa using h.nodup
  subset := fun v hv => h.subset v (by simpa using hv)
  topo := h.topo
  full := by
    intro v hv hd
    have h0 : inDegree v = 0 := by
      rw [h.degree v]
      simpa using hd
    simpa using (h.zero v hv).2 h0

/-- A duplicate-free list of vertices is no longer than the list of all of them. -/
theorem Inv.length_le {ids : List α} {deps : α → List α} {queue : List α} {inDegree : α → ℤ}
    {order : List α} (h : Inv ids deps queue inDegree order) :
    order.length + queue.length ≤ ids.length := by
  have := (List.subperm_of_subset h.nodup h.subset).length_le
  simpa using this

/-- **The loop ends within one iteration per vertex**, with nothing left to emit. -/
theorem loop_spec {ids : List α} {deps adj : α → List α} (hG : Graph ids deps adj) :
    ∀ (fuel : ℕ) (queue : List α) (inDegree : α → ℤ) (order : List α),
      Inv ids deps queue inDegree order → ids.length ≤ fuel + order.length →
        Emitted ids deps (loop adj fuel queue inDegree order) := by
  intro fuel
  induction fuel with
  | zero =>
      intro queue inDegree order h hfuel
      -- all vertices are emitted, so the queue is empty
      have hle := h.length_le
      obtain rfl : queue = [] := List.length_eq_zero_iff.1 (by omega)
      exact h.emitted
  | succ fuel ih =>
      intro queue inDegree order h hfuel
      cases queue with
      | nil => exact h.emitted
      | cons cur queue =>
          rw [loop_cons]
          refine ih _ _ _ (h.step hG) ?_
          rw [List.length_append, List.length_singleton]
          omega

/-- The state from which the loop starts satisfies the invariant: the in-degrees count all
dependencies, and the queue holds the vertices without any. -/
theorem Inv.init {ids : List α} {deps : α → List α} {queue : List α} (hnd : queue.Nodup)
    (hq : ∀ v, v ∈ queue ↔ v ∈ ids ∧ deps v = []) :
    Inv ids deps queue (fun v => ((deps v).length : ℤ)) [] where
  nodup := by simpa using hnd
  subset := fun v hv => ((hq v).1 (by simpa using hv)).1
  degree := by
    intro v
    simp
  zero := by
    intro v hv
    simp [hq v, hv]
  topo := topological_nil

omit [DecidableEq α] in
/-- When all vertices are emitted, the order lists them all. -/
theorem Emitted.perm {ids : List α} {deps : α → List α} {order : List α}
    (h : Emitted ids deps order) (hlen : order.length = ids.length) : order.Perm ids :=
  (List.subperm_of_subset h.nodup h.subset).perm_of_length_le hlen.ge

/-- **All vertices are emitted exactly when the graph is acyclic.** -/
theorem Emitted.length_eq_iff {ids : List α} {deps adj : α → List α} (hG : Graph ids deps adj)
    {order : List α} (h : Emitted ids deps order) :
    order.length = ids.length ↔ Acyclic deps := by
  constructor
  · intro hlen
    exact h.topo.acyclic h.nodup fun v hv =>
      hG.support v fun hv' => hv ((h.perm hlen).mem_iff.2 hv')
  · intro hac
    -- a vertex that is missing and minimal among the missing ones could have been emitted
    have hall : ∀ v ∈ ids, v ∈ order := by
      by_contra hne
      push Not at hne
      obtain ⟨v, hv, hvo⟩ := hne
      obtain ⟨m, hm, hmin⟩ := hac.exists_minimal (ids.toFinset \ order.toFinset)
        ⟨v, by simp [hv, hvo]⟩
      simp only [Finset.mem_sdiff, List.mem_toFinset] at hm hmin
      refine hm.2 (h.full m hm.1 fun d hd => ?_)
      by_contra hdo
      exact hmin d hd ⟨hG.closed m hm.1 d hd, hdo⟩
    refine le_antisymm (List.subperm_of_subset h.nodup h.subset).length_le ?_
    exact (List.subperm_of_subset hG.nodup hall).length_le

end Kahn
