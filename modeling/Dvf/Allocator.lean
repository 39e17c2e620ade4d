/-
**The resource allocator** (`internal/core/allocator.go`): a budget of processors and memory.

`TryAcquire` reserves what still fits, `Release` gives it back and never goes below zero.  Integers
are exact here; `Dvf/ResourceBudget.lean` has the allocator with the integers of the source.  The
detection of the host's processors and memory is an argument.

Main definitions:

* `Dvf.Allocation`, `Dvf.ResourceAllocator`, `Dvf.newResourceAllocator` — requests and budgets;
* `Dvf.ResourceAllocator.tryAcquire`, `Dvf.ResourceAllocator.release` — the operations.

Main results:

* `Dvf.ResourceAllocator.tryAcquire_spec` — what a successful reservation does, and when there is
  none.
-/

import Dvf.Engine

set_option autoImplicit false

namespace Dvf

/-- The budget of the host. -/
structure ResourceAllocator where
  totalCPUs : ℤ
  totalMemMB : ℤ
  usedCPUs : ℤ := 0
  usedMemMB : ℤ := 0
  deriving DecidableEq, Repr

/-- `NewResourceAllocator`, on a host with these numbers. -/
def newResourceAllocator (hostCPUs hostMemMB totalCPUs totalMemMB : ℤ) : ResourceAllocator where
  totalCPUs := if totalCPUs ≤ 0 then hostCPUs else totalCPUs
  totalMemMB := if totalMemMB ≤ 0 then hostMemMB else totalMemMB

namespace ResourceAllocator

/-- `TryAcquire`. -/
def tryAcquire (r : ResourceAllocator) (a : Allocation) : Bool × ResourceAllocator :=
  if a.cpus < 0 ∨ a.memMB < 0 then (false, r)
  else if r.usedCPUs + a.cpus > r.totalCPUs then (false, r)
  else if r.usedMemMB + a.memMB > r.totalMemMB then (false, r)
  else (true, { r with usedCPUs := r.usedCPUs + a.cpus, usedMemMB := r.usedMemMB + a.memMB })

/-- `Release`. -/
def release (r : ResourceAllocator) (a : Allocation) : ResourceAllocator :=
  let cpus := r.usedCPUs - a.cpus
  let memMB := r.usedMemMB - a.memMB
  { r with
    usedCPUs := if cpus < 0 then 0 else cpus
    usedMemMB := if memMB < 0 then 0 else memMB }

theorem tryAcquire_of_le {r : ResourceAllocator} {a : Allocation} (hcpus : 0 ≤ a.cpus)
    (hmem : 0 ≤ a.memMB) (hcpus' : r.usedCPUs + a.cpus ≤ r.totalCPUs)
    (hmem' : r.usedMemMB + a.memMB ≤ r.totalMemMB) :
    r.tryAcquire a = (true,
      { r with usedCPUs := r.usedCPUs + a.cpus, usedMemMB := r.usedMemMB + a.memMB }) := by
  rw [tryAcquire, if_neg (by omega), if_neg (by omega), if_neg (by omega)]

/-- **A reservation** succeeds when the request is not negative and fits, and is then in use. -/
theorem tryAcquire_spec (r : ResourceAllocator) (a : Allocation) :
    r.tryAcquire a = (false, r) ∨
      0 ≤ a.cpus ∧ 0 ≤ a.memMB ∧ r.usedCPUs + a.cpus ≤ r.totalCPUs ∧
        r.usedMemMB + a.memMB ≤ r.totalMemMB ∧
        r.tryAcquire a = (true,
          { r with usedCPUs := r.usedCPUs + a.cpus, usedMemMB := r.usedMemMB + a.memMB }) := by
  by_cases h : (0 ≤ a.cpus ∧ 0 ≤ a.memMB) ∧ r.usedCPUs + a.cpus ≤ r.totalCPUs ∧
      r.usedMemMB + a.memMB ≤ r.totalMemMB
  · exact .inr ⟨h.1.1, h.1.2, h.2.1, h.2.2, tryAcquire_of_le h.1.1 h.1.2 h.2.1 h.2.2⟩
  · left
    rw [tryAcquire]
    split_ifs <;> first | rfl | omega

theorem release_of_le {r : ResourceAllocator} {a : Allocation} (hcpus : a.cpus ≤ r.usedCPUs)
    (hmem : a.memMB ≤ r.usedMemMB) :
    r.release a =
      { r with usedCPUs := r.usedCPUs - a.cpus, usedMemMB := r.usedMemMB - a.memMB } := by
  unfold release
  dsimp only
  rw [if_neg (by omega), if_neg (by omega)]

end ResourceAllocator

end Dvf
