/-
**What a workflow is for**: the abstract statuses of a dependency graph.

A plan assigns a status to each vertex of a graph with dependency lists.  It is safe when started
vertices have all their dependencies passed and exactly the vertices with a failed transitive
dependency are skipped.  Three moves keep a plan safe: starting a pending vertex all of whose
dependencies passed, passing a running vertex, and failing a running vertex while skipping every
pending vertex that has a failed transitive dependency.  Nothing here depends on how the skipped
vertices are computed; that the single pass of the workflow manager computes them is
`Dvf/WorkflowSafety.lean`.

Main definitions:

* `Dvf.FailedBelow` — some proper transitive dependency has failed;
* `Dvf.Safe` — the safety of a plan;
* `Dvf.skipBelow` — skipping the pending vertices with a failed transitive dependency.

Main results:

* `Dvf.Safe.below_passed` — everything below a started vertex has passed;
* `Dvf.Safe.start`, `Dvf.Safe.pass`, `Dvf.Safe.fail` — the three moves keep a plan safe;
* `Dvf.Safe.skipped_iff_of_outcome` — **in a finished safe plan the outcomes decide everything**: a
  vertex is skipped exactly when some transitive dependency was to fail.
-/

import Dvf.Dag
import Dvf.Workflow

set_option autoImplicit false

namespace Dvf

open Dag

variable {α : Type*} {deps : α → List α} {σ : α → Option StepStatus}

/-- The statuses of a step that has been dispatched. -/
def StepStatus.isStarted : StepStatus → Bool
  | running | passed | failed => true
  | pending | skipped => false

/-- Some proper transitive dependency of `a` has failed. -/
def FailedBelow (deps : α → List α) (σ : α → Option StepStatus) (a : α) : Prop :=
  ∃ f, Below deps f a ∧ σ f = some .failed

/-- **Safety of a plan.** -/
structure Safe (deps : α → List α) (σ : α → Option StepStatus) : Prop where
  /-- Started vertices have all their dependencies passed. -/
  started : ∀ a st, σ a = some st → st.isStarted = true → ∀ d ∈ deps a, σ d = some .passed
  /-- Skipped are the vertices with a failed transitive dependency. -/
  skipped : ∀ a, σ a = some .skipped ↔ FailedBelow deps σ a

theorem Safe.below_passed (h : Safe deps σ) {a : α} (ha : ∀ d ∈ deps a, σ d = some .passed) :
    ∀ b, Below deps b a → σ b = some .passed := by
  intro b hb
  obtain ⟨d, hd, hbd⟩ := below_iff.1 hb
  rcases hbd with rfl | hbd
  · exact ha b hd
  · exact hbd.of_closed (P := fun v => σ v = some .passed)
      (fun v hv => h.started v .passed hv rfl) (ha d hd)

/-! ### Moves that fail nothing -/

/-- Changing a vertex without a failure below it, from one unfailed and unskipped status to
another, keeps the skipped vertices right. -/
theorem Safe.skipped_update [DecidableEq α] (h : Safe deps σ) {a : α} {st st' : StepStatus}
    (ha : σ a = some st) (hst : st ≠ .failed ∧ st ≠ .skipped)
    (hst' : st' ≠ .failed ∧ st' ≠ .skipped) (b : α) :
    Function.update σ a (some st') b = some .skipped ↔
      FailedBelow deps (Function.update σ a (some st')) b := by
  have hfail : ∀ f, Function.update σ a (some st') f = some .failed ↔ σ f = some .failed := by
    intro f
    by_cases hf : f = a
    · subst hf
      simp [ha, hst.1, hst'.1]
    · simp [hf]
  have hbelow : FailedBelow deps (Function.update σ a (some st')) b ↔ FailedBelow deps σ b := by
    simp only [FailedBelow, hfail]
  rw [hbelow, ← h.skipped b]
  by_cases hb : b = a
  · subst hb
    simp [ha, hst.2, hst'.2]
  · simp [hb]

/-- A change of a vertex that had not passed keeps dependencies passed. -/
theorem Safe.started_update [DecidableEq α] (h : Safe deps σ) {a : α} {st₀ : StepStatus}
    (ha : σ a = some st₀) (hst₀ : st₀ ≠ .passed) (hd : ∀ d ∈ deps a, σ d = some .passed)
    (st' : StepStatus) {b : α} {st : StepStatus}
    (hb : Function.update σ a (some st') b = some st) (hst : st.isStarted = true) :
    ∀ d ∈ deps b, Function.update σ a (some st') d = some .passed := by
  intro d hdb
  have hda : σ d = some .passed := by
    by_cases hba : b = a
    · subst hba
      exact hd d hdb
    · exact h.started b st (by simpa [hba] using hb) hst d hdb
  have hne : d ≠ a := by
    rintro rfl
    rw [ha] at hda
    exact hst₀ (Option.some_inj.1 hda)
  simpa [hne] using hda

/-- **Starting** a pending vertex whose dependencies have passed. -/
theorem Safe.start [DecidableEq α] (h : Safe deps σ) {a : α} (ha : σ a = some .pending)
    (hd : ∀ d ∈ deps a, σ d = some .passed) :
    Safe deps (Function.update σ a (some .running)) where
  started := fun _ _ hb hst => h.started_update ha (by simp) hd _ hb hst
  skipped := h.skipped_update ha (by simp) (by simp)

/-- **Passing** a running vertex. -/
theorem Safe.pass [DecidableEq α] (h : Safe deps σ) {a : α} (ha : σ a = some .running) :
    Safe deps (Function.update σ a (some .passed)) where
  started := fun _ _ hb hst =>
    h.started_update ha (by simp) (h.started a .running ha rfl) _ hb hst
  skipped := h.skipped_update ha (by simp) (by simp)

/-! ### Failing a vertex -/

open Classical in
/-- Skipping every pending vertex with a failed transitive dependency. -/
noncomputable def skipBelow (deps : α → List α) (σ : α → Option StepStatus) :
    α → Option StepStatus :=
  fun a => if σ a = some .pending ∧ FailedBelow deps σ a then some .skipped else σ a

theorem skipBelow_eq_iff {a : α} {st : StepStatus} (hp : st ≠ .pending) (hs : st ≠ .skipped) :
    skipBelow deps σ a = some st ↔ σ a = some st := by
  unfold skipBelow
  split
  · next hc => simp [hc.1, Ne.symm hp, Ne.symm hs]
  · rfl

theorem failedBelow_skipBelow {a : α} :
    FailedBelow deps (skipBelow deps σ) a ↔ FailedBelow deps σ a := by
  have hfail : ∀ f, skipBelow deps σ f = some .failed ↔ σ f = some .failed :=
    fun f => skipBelow_eq_iff (by simp) (by simp)
  simp only [FailedBelow, hfail]

/-- A running vertex that fails: what is below a started vertex has passed, so the vertices above
the failed one are pending or skipped. -/
theorem Safe.not_failedBelow_of_fail [DecidableEq α] (h : Safe deps σ) {a : α}
    (ha : σ a = some .running) {b : α} {st : StepStatus}
    (hb : Function.update σ a (some .failed) b = some st) (hst : st.isStarted = true) :
    ¬ FailedBelow deps (Function.update σ a (some .failed)) b := by
  have hdb : ∀ d ∈ deps b, σ d = some .passed := by
    by_cases hba : b = a
    · subst hba
      exact h.started b .running ha rfl
    · exact h.started b st (by simpa [hba] using hb) hst
  rintro ⟨f, hf, hfail⟩
  have hpass : σ f = some .passed := h.below_passed hdb f hf
  have hfa : f ≠ a := by
    rintro rfl
    rw [ha] at hpass
    cases hpass
  simp [hfa, hpass] at hfail

theorem Safe.failedBelow_of_skipped [DecidableEq α] (h : Safe deps σ) {a : α}
    (ha : σ a = some .running) {b : α}
    (hb : Function.update σ a (some .failed) b = some .skipped) :
    FailedBelow deps (Function.update σ a (some .failed)) b := by
  have hba : b ≠ a := by
    rintro rfl
    simp at hb
  obtain ⟨f, hf, hfail⟩ := (h.skipped b).1 (by simpa [hba] using hb)
  refine ⟨f, hf, ?_⟩
  by_cases hfa : f = a
  · subst hfa
    simp
  · simpa [hfa] using hfail

/-- **Failing** a running vertex and skipping what is above it. -/
theorem Safe.fail [DecidableEq α] (h : Safe deps σ) {a : α} (ha : σ a = some .running)
    (hknown : ∀ b, FailedBelow deps (Function.update σ a (some .failed)) b → ∃ st, σ b = some st) :
    Safe deps (skipBelow deps (Function.update σ a (some .failed))) where
  started := by
    intro b st hb hst d hdb
    rw [skipBelow_eq_iff (by rintro rfl; cases hst) (by rintro rfl; cases hst)] at hb
    rw [skipBelow_eq_iff (by simp) (by simp)]
    exact h.started_update ha (by simp) (h.started a .running ha rfl) _ hb hst d hdb
  skipped := by
    intro b
    rw [failedBelow_skipBelow]
    constructor
    · intro hb
      unfold skipBelow at hb
      split at hb
      · next hc => exact hc.2
      · exact h.failedBelow_of_skipped ha hb
    · intro hb
      obtain ⟨st, hst⟩ := hknown b hb
      have hst' : ∃ st', Function.update σ a (some .failed) b = some st' := by
        by_cases hba : b = a
        · exact ⟨.failed, by simp [hba]⟩
        · exact ⟨st, by simpa [hba] using hst⟩
      obtain ⟨st', hst'⟩ := hst'
      -- a started vertex has no failure below it; a pending one is skipped now
      cases st' with
      | pending => simp [skipBelow, hst', hb]
      | skipped => simp [skipBelow, hst']
      | running => exact absurd hb (h.not_failedBelow_of_fail ha hst' rfl)
      | passed => exact absurd hb (h.not_failedBelow_of_fail ha hst' rfl)
      | failed => exact absurd hb (h.not_failedBelow_of_fail ha hst' rfl)

/-! ### Finished plans -/

/-- **In a finished safe plan the outcomes decide who is skipped**: if passed and failed vertices
ended as assigned, a vertex is skipped exactly when some transitive dependency is assigned to
fail. -/
theorem Safe.skipped_iff_of_outcome (h : Safe deps σ) {outcome : α → Bool}
    (hpass : ∀ a, σ a = some .passed → outcome a = true)
    (hfail : ∀ a, σ a = some .failed → outcome a = false)
    (hdone : ∀ a, ∀ b, Below deps b a → σ b = some .passed ∨ σ b = some .failed ∨
      σ b = some .skipped) (a : α) :
    σ a = some .skipped ↔ ∃ f, Below deps f a ∧ outcome f = false := by
  rw [h.skipped a]
  constructor
  · rintro ⟨f, hf, hσ⟩
    exact ⟨f, hf, hfail f hσ⟩
  · rintro ⟨f, hf, hout⟩
    rcases hdone a f hf with hσ | hσ | hσ
    · rw [hpass f hσ] at hout
      cases hout
    · exact ⟨f, hf, hσ⟩
    · -- the dependency that was to fail was skipped itself: something below it failed
      obtain ⟨g, hg, hσg⟩ := (h.skipped f).1 hσ
      exact ⟨g, hg.trans hf, hσg⟩

end Dvf
