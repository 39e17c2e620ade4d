/-
**The scheduler** (`internal/core/scheduler.go`): a FIFO queue of test runs with a limit on how many
of them execute at once.

A scheduler is what its lock protects: the limit, the number of executing runs and the queue.  The
limit is positive and the number of executing runs stays within it, by construction.  `Next` loops
until `TryNext` would succeed; the notification channel only decides when a blocked `Next` looks
again, and is left out here; `Dvf/Pool.lean` has it.

Main definitions:

* `Dvf.Scheduler`, `Dvf.newScheduler` — schedulers;
* `Dvf.Scheduler.enqueue`, `Dvf.Scheduler.tryNext`, `Dvf.Scheduler.release` — the operations;
* `Dvf.Scheduler.CanTake` — there is a free slot and a waiting run.

Main results:

* `Dvf.Scheduler.tryNext_eq_some_iff`, `Dvf.Scheduler.tryNext_eq_none_iff` — when a run is taken,
  and which.
-/

import Dvf.Types
import Mathlib.Tactic.Common

set_option autoImplicit false

namespace Dvf

/-- A scheduler. -/
structure Scheduler where
  maxConcurrent : ℕ
  activeCount : ℕ
  queue : List TestRun
  max_pos : 0 < maxConcurrent
  active_le : activeCount ≤ maxConcurrent

/-- `NewScheduler`. -/
def newScheduler (maxConcurrent : ℤ) : Scheduler where
  maxConcurrent := if maxConcurrent ≤ 0 then 1 else maxConcurrent.toNat
  activeCount := 0
  queue := []
  max_pos := by
    split
    · exact Nat.one_pos
    · omega
  active_le := Nat.zero_le _

namespace Scheduler

/-- `Enqueue`. -/
def enqueue (s : Scheduler) (run : TestRun) : Scheduler := { s with queue := s.queue ++ [run] }

/-- `TryNext`, and what `Next` returns once it does. -/
def tryNext (s : Scheduler) : Option (TestRun × Scheduler) :=
  if h : s.activeCount < s.maxConcurrent then
    match s.queue with
    | [] => none
    | run :: rest =>
        some (run, { s with queue := rest, activeCount := s.activeCount + 1, active_le := h })
  else none

/-- `Release`. -/
def release (s : Scheduler) : Scheduler :=
  { s with
    activeCount := s.activeCount - 1
    active_le := Nat.le_trans (Nat.sub_le _ _) s.active_le }

@[simp] theorem queue_newScheduler (n : ℤ) : (newScheduler n).queue = [] := rfl

@[simp] theorem queue_enqueue (s : Scheduler) (run : TestRun) :
    (s.enqueue run).queue = s.queue ++ [run] := rfl

@[simp] theorem queue_release (s : Scheduler) : s.release.queue = s.queue := rfl

/-- A run is taken when a slot is free: the first one of the queue. -/
theorem tryNext_eq_some_iff {s s' : Scheduler} {run : TestRun} :
    s.tryNext = some (run, s') ↔
      s.queue = run :: s'.queue ∧ s'.activeCount = s.activeCount + 1 ∧
        s'.maxConcurrent = s.maxConcurrent := by
  unfold tryNext
  split
  · next hlt =>
      cases hq : s.queue with
      | nil => simp
      | cons first rest =>
          simp only [Option.some.injEq, Prod.mk.injEq, List.cons.injEq]
          constructor
          · rintro ⟨rfl, rfl⟩
            exact ⟨⟨rfl, rfl⟩, rfl, rfl⟩
          · rintro ⟨⟨rfl, rfl⟩, hactive, hmax⟩
            cases s'
            simp_all
  · next hge =>
      have hle := s'.active_le
      constructor
      · intro h
        cases h
      · rintro ⟨_, hactive, hmax⟩
        omega

/-- A slot is free and a run is waiting. -/
def CanTake (s : Scheduler) : Prop := s.activeCount < s.maxConcurrent ∧ s.queue ≠ []

theorem tryNext_eq_none_iff {s : Scheduler} : s.tryNext = none ↔ ¬ s.CanTake := by
  unfold tryNext CanTake
  split
  · next hlt =>
      cases s.queue with
      | nil => simp
      | cons run rest => simp [hlt]
  · next hge => simp [hge]

end Scheduler

end Dvf
