/-
**The admission test on machine integers** (`internal/core/allocator.go`).

`Dvf/Allocator.lean` has the allocator over the integers.  The source computes with Go's `int`, 64
bits wide: the sum of what is in use and what is asked for is taken before it is compared, and wraps
around.  A request of nearly `2 ^ 63` processors, made while one is in use, has a negative sum,
which is below every limit: it is granted, and the counter is negative from then on.  `CanFit` makes
the same sums, and does not look at the sign of the request at all.

Here the operations are followed on words, with `Dvf.wrapped` for the sums that they compare.  A
request is judged as it should be just when it is not negative and no sum reaches `2 ^ 63`, or one
of the wrapped sums is above its limit, so that the request is refused in any case.  Where no
request is granted that does not fit, the words are the integers of `Dvf/Allocator.lean`.

Main definitions:

* `Dvf.WordAllocation`, `Dvf.ResourceBudget` — requests and budgets;
* `Dvf.ResourceBudget.tryAcquire`, `Dvf.ResourceBudget.release`, `Dvf.ResourceBudget.canFit` — the
  operations;
* `Dvf.wrapped`, `Dvf.ResourceBudget.Regular` — sums of 64 bits, and requests whose sums are exact;
* `Dvf.Bookings`, `Dvf.Bookings.step` — calls of `TryAcquire` and matching calls of `Release`.

Main results:

* `Dvf.ResourceBudget.admissionExact_iff` — **when a request is judged as it should be**;
* `Dvf.ResourceBudget.tryAcquire_refines` — such a call is one of the allocator over the integers;
* `Dvf.Bookings.books_of_obeys` — where all calls are such, what is in use is what is held, and the
  words are integers.
-/

import Dvf.Allocator
import Dvf.Machine
import Mathlib.Algebra.BigOperators.Group.List.Basic
import Mathlib.Algebra.Order.BigOperators.Group.List
import Mathlib.Algebra.Order.Ring.Int

set_option autoImplicit false

namespace Dvf

/-! ### The source -/

/-- `Allocation`, of machine integers. -/
structure WordAllocation where
  cpus : Int64
  memMB : Int64
  deriving DecidableEq

/-- `ResourceBudget`: the state of an allocator. -/
structure ResourceBudget where
  totalCPUs : Int64
  totalMemMB : Int64
  usedCPUs : Int64 := 0
  usedMemMB : Int64 := 0
  deriving DecidableEq

namespace ResourceBudget

/-- `NewResourceAllocator`, on a host with these numbers. -/
def newResourceAllocator (hostCPUs hostMemMB totalCPUs totalMemMB : Int64) : ResourceBudget where
  totalCPUs := if totalCPUs ≤ 0 then hostCPUs else totalCPUs
  totalMemMB := if totalMemMB ≤ 0 then hostMemMB else totalMemMB

/-- `TryAcquire`. -/
def tryAcquire (b : ResourceBudget) (a : WordAllocation) : Bool × ResourceBudget :=
  if a.cpus < 0 ∨ a.memMB < 0 then (false, b)
  else if b.usedCPUs + a.cpus > b.totalCPUs then (false, b)
  else if b.usedMemMB + a.memMB > b.totalMemMB then (false, b)
  else (true, { b with usedCPUs := b.usedCPUs + a.cpus, usedMemMB := b.usedMemMB + a.memMB })

/-- `Release`. -/
def release (b : ResourceBudget) (a : WordAllocation) : ResourceBudget :=
  let cpus := b.usedCPUs - a.cpus
  let memMB := b.usedMemMB - a.memMB
  { b with
    usedCPUs := if cpus < 0 then 0 else cpus
    usedMemMB := if memMB < 0 then 0 else memMB }

/-- `CanFit`. -/
def canFit (b : ResourceBudget) (a : WordAllocation) : Bool :=
  b.usedCPUs + a.cpus ≤ b.totalCPUs && b.usedMemMB + a.memMB ≤ b.totalMemMB

/-! ### What the test is for -/

/-- The request is not negative, and there is room for it. -/
structure Fits (b : ResourceBudget) (a : WordAllocation) : Prop where
  cpus_nonneg : 0 ≤ a.cpus.toInt
  mem_nonneg : 0 ≤ a.memMB.toInt
  cpus : b.usedCPUs.toInt + a.cpus.toInt ≤ b.totalCPUs.toInt
  mem : b.usedMemMB.toInt + a.memMB.toInt ≤ b.totalMemMB.toInt

/-- The request is granted when it fits, and `CanFit` says what `TryAcquire` would. -/
structure AdmissionExact (b : ResourceBudget) (a : WordAllocation) : Prop where
  tryAcquire : (b.tryAcquire a).1 = true ↔ b.Fits a
  canFit : b.canFit a = (b.tryAcquire a).1

end ResourceBudget

/-- The sum of two numbers of 64 bits, wrapped around if it has to be. -/
def wrapped (n : ℤ) : ℤ :=
  if n < -2 ^ 63 then n + 2 ^ 64 else if 2 ^ 63 ≤ n then n - 2 ^ 64 else n

theorem wrapped_of_lt {n : ℤ} (hlow : -2 ^ 63 ≤ n) (hhigh : n < 2 ^ 63) : wrapped n = n := by
  rw [wrapped, if_neg (not_lt.2 hlow), if_neg (not_le.2 hhigh)]

/-- **A comparison of machine integers.** -/
theorem add_le_iff_wrapped (used amount total : Int64) :
    used + amount ≤ total ↔ wrapped (used.toInt + amount.toInt) ≤ total.toInt := by
  have h₁ := used.toInt_lt
  have h₂ := used.le_toInt
  have h₃ := amount.toInt_lt
  have h₄ := amount.le_toInt
  have h₅ := total.toInt_lt
  have h₆ := total.le_toInt
  rw [Int64.le_iff_toInt_le, Int64.toInt_add, Int.bmod_def]
  unfold wrapped
  omega

namespace ResourceBudget

variable (b : ResourceBudget) (a : WordAllocation)

def BothPass : Prop :=
  wrapped (b.usedCPUs.toInt + a.cpus.toInt) ≤ b.totalCPUs.toInt ∧
    wrapped (b.usedMemMB.toInt + a.memMB.toInt) ≤ b.totalMemMB.toInt

/-- The request is not negative, and no sum reaches `2 ^ 63`. -/
structure Regular : Prop where
  cpus_nonneg : 0 ≤ a.cpus.toInt
  mem_nonneg : 0 ≤ a.memMB.toInt
  cpus : b.usedCPUs.toInt + a.cpus.toInt < 2 ^ 63
  mem : b.usedMemMB.toInt + a.memMB.toInt < 2 ^ 63

theorem canFit_eq_true_iff : b.canFit a = true ↔ b.BothPass a := by
  rw [canFit, Bool.and_eq_true, decide_eq_true_eq, decide_eq_true_eq, add_le_iff_wrapped,
    add_le_iff_wrapped]
  rfl

/-- **What `TryAcquire` does**: it refuses and changes nothing, or the request is not negative and
passes the comparisons, and is then in use. -/
theorem tryAcquire_cases :
    b.tryAcquire a = (false, b) ∧ ¬ (0 ≤ a.cpus.toInt ∧ 0 ≤ a.memMB.toInt ∧ b.BothPass a) ∨
      (0 ≤ a.cpus.toInt ∧ 0 ≤ a.memMB.toInt ∧ b.BothPass a) ∧
        b.tryAcquire a = (true,
          { b with usedCPUs := b.usedCPUs + a.cpus, usedMemMB := b.usedMemMB + a.memMB }) := by
  have hcpus : a.cpus < 0 ↔ ¬ 0 ≤ a.cpus.toInt := by
    rw [Int64.lt_iff_toInt_lt, Int64.toInt_zero, not_le]
  have hmem : a.memMB < 0 ↔ ¬ 0 ≤ a.memMB.toInt := by
    rw [Int64.lt_iff_toInt_lt, Int64.toInt_zero, not_le]
  have hgt : ∀ x y : Int64, x > y ↔ ¬ x ≤ y := fun x y => by
    rw [gt_iff_lt, Int64.lt_iff_toInt_lt, Int64.le_iff_toInt_le, not_le]
  unfold tryAcquire
  split
  · next h =>
      rw [hcpus, hmem, ← not_and_or] at h
      exact Or.inl ⟨rfl, fun h' => h ⟨h'.1, h'.2.1⟩⟩
  · next hsign =>
      rw [hcpus, hmem, ← not_and_or, not_not] at hsign
      split
      · next h =>
          rw [hgt, add_le_iff_wrapped] at h
          exact Or.inl ⟨rfl, fun h' => h h'.2.2.1⟩
      · next hpass =>
          rw [hgt, add_le_iff_wrapped, not_not] at hpass
          split
          · next h =>
              rw [hgt, add_le_iff_wrapped] at h
              exact Or.inl ⟨rfl, fun h' => h h'.2.2.2⟩
          · next hpass' =>
              rw [hgt, add_le_iff_wrapped, not_not] at hpass'
              exact Or.inr ⟨⟨hsign.1, hsign.2, hpass, hpass'⟩, rfl⟩

theorem tryAcquire_eq_true_iff :
    (b.tryAcquire a).1 = true ↔ 0 ≤ a.cpus.toInt ∧ 0 ≤ a.memMB.toInt ∧ b.BothPass a := by
  rcases b.tryAcquire_cases a with ⟨h, hnot⟩ | ⟨hall, h⟩
  · rw [h]
    exact iff_of_false Bool.false_ne_true hnot
  · rw [h]
    exact iff_of_true rfl hall

variable {b a}

theorem Regular.bothPass_iff (h : b.Regular a) : b.BothPass a ↔ b.Fits a := by
  have hcpus := wrapped_of_lt (n := b.usedCPUs.toInt + a.cpus.toInt)
    (le_add_of_le_of_nonneg b.usedCPUs.le_toInt h.cpus_nonneg) h.cpus
  have hmem := wrapped_of_lt (n := b.usedMemMB.toInt + a.memMB.toInt)
    (le_add_of_le_of_nonneg b.usedMemMB.le_toInt h.mem_nonneg) h.mem
  rw [BothPass, hcpus, hmem]
  exact ⟨fun hpass => ⟨h.cpus_nonneg, h.mem_nonneg, hpass.1, hpass.2⟩, fun hfits =>
    ⟨hfits.cpus, hfits.mem⟩⟩

theorem Fits.regular (h : b.Fits a) : b.Regular a :=
  ⟨h.cpus_nonneg, h.mem_nonneg, h.cpus.trans_lt b.totalCPUs.toInt_lt,
    h.mem.trans_lt b.totalMemMB.toInt_lt⟩

theorem Fits.bothPass (h : b.Fits a) : b.BothPass a := h.regular.bothPass_iff.2 h

/-- A request is granted as it should be if it is negative, or fits once it passes. -/
theorem tryAcquire_exact_iff : ((b.tryAcquire a).1 = true ↔ b.Fits a) ↔
    (0 ≤ a.cpus.toInt → 0 ≤ a.memMB.toInt → b.BothPass a → b.Fits a) := by
  rw [tryAcquire_eq_true_iff]
  constructor
  · intro h hcpus hmem hpass
    exact h.1 ⟨hcpus, hmem, hpass⟩
  · intro h
    exact ⟨fun h' => h h'.1 h'.2.1 h'.2.2,
      fun hfits => ⟨hfits.cpus_nonneg, hfits.mem_nonneg, hfits.bothPass⟩⟩

variable (b a)

/-- **When a request is judged as it should be**, in any state of the allocator: when it is not
negative and neither sum reaches `2 ^ 63`, or when one of the sums, wrapped around where it has to
be, is above its limit. -/
theorem admissionExact_iff : b.AdmissionExact a ↔
    b.Regular a ∨ b.totalCPUs.toInt < wrapped (b.usedCPUs.toInt + a.cpus.toInt) ∨
      b.totalMemMB.toInt < wrapped (b.usedMemMB.toInt + a.memMB.toInt) := by
  rw [← not_le, ← not_le, ← not_and_or]
  constructor
  · intro h
    refine or_not_of_imp fun hpass => ?_
    have hfits : b.Fits a := by
      rw [← h.tryAcquire, ← h.canFit, canFit_eq_true_iff]
      exact hpass
    exact hfits.regular
  · intro h
    -- a request that passes both comparisons fits
    have hfits : b.BothPass a → b.Fits a := fun hpass =>
      (h.resolve_right fun hnot => hnot hpass).bothPass_iff.1 hpass
    refine ⟨tryAcquire_exact_iff.2 fun _ _ => hfits, ?_⟩
    rw [Bool.eq_iff_iff, canFit_eq_true_iff, tryAcquire_eq_true_iff]
    constructor
    · intro hpass
      exact ⟨(hfits hpass).cpus_nonneg, (hfits hpass).mem_nonneg, hpass⟩
    · exact fun h' => h'.2.2

end ResourceBudget

/-! ### The allocator over the integers -/

def WordAllocation.abs (a : WordAllocation) : Allocation := ⟨a.cpus.toInt, a.memMB.toInt⟩

def ResourceBudget.abs (b : ResourceBudget) : ResourceAllocator :=
  ⟨b.totalCPUs.toInt, b.totalMemMB.toInt, b.usedCPUs.toInt, b.usedMemMB.toInt⟩

theorem toInt_add_of_le {x y z : Int64} (hy : 0 ≤ y.toInt) (h : x.toInt + y.toInt ≤ z.toInt) :
    (x + y).toInt = x.toInt + y.toInt := by
  have h₁ := x.le_toInt
  have h₂ := z.toInt_lt
  rw [Int64.toInt_add, Int.bmod_eq_of_le]
  · omega
  · omega

theorem toInt_sub_of_le {x y : Int64} (hy : 0 ≤ y.toInt) (h : y.toInt ≤ x.toInt) :
    (x - y).toInt = x.toInt - y.toInt := by
  have h₁ := x.toInt_lt
  rw [Int64.toInt_sub, Int.bmod_eq_of_le]
  · omega
  · omega

namespace ResourceBudget

variable {b : ResourceBudget} {a : WordAllocation}

/-- **A request that is granted as it should be** is one to the allocator over the integers. -/
theorem tryAcquire_refines (h : (b.tryAcquire a).1 = true ↔ b.Fits a) :
    b.abs.tryAcquire a.abs = ((b.tryAcquire a).1, (b.tryAcquire a).2.abs) := by
  rcases b.tryAcquire_cases a with ⟨heq, _⟩ | ⟨_, heq⟩
  · rw [heq] at h ⊢
    rcases b.abs.tryAcquire_spec a.abs with habs | ⟨h₁, h₂, h₃, h₄, _⟩
    · exact habs
    · exact absurd (h.2 ⟨h₁, h₂, h₃, h₄⟩) Bool.false_ne_true
  · rw [heq] at h ⊢
    have hfits : b.Fits a := h.1 rfl
    have hcpus := toInt_add_of_le hfits.cpus_nonneg hfits.cpus
    have hmem := toInt_add_of_le hfits.mem_nonneg hfits.mem
    rw [ResourceAllocator.tryAcquire_of_le hfits.cpus_nonneg hfits.mem_nonneg hfits.cpus hfits.mem]
    simp only [abs, WordAllocation.abs, hcpus, hmem]

theorem release_of_le (hcpus : 0 ≤ a.cpus.toInt) (hmem : 0 ≤ a.memMB.toInt)
    (hcpus' : a.cpus.toInt ≤ b.usedCPUs.toInt) (hmem' : a.memMB.toInt ≤ b.usedMemMB.toInt) :
    b.release a =
      { b with usedCPUs := b.usedCPUs - a.cpus, usedMemMB := b.usedMemMB - a.memMB } := by
  have hnot : ¬ b.usedCPUs - a.cpus < 0 := by
    rw [Int64.lt_iff_toInt_lt, Int64.toInt_zero, toInt_sub_of_le hcpus hcpus']
    omega
  have hnot' : ¬ b.usedMemMB - a.memMB < 0 := by
    rw [Int64.lt_iff_toInt_lt, Int64.toInt_zero, toInt_sub_of_le hmem hmem']
    omega
  rw [release, if_neg hnot, if_neg hnot']

theorem release_refines (hcpus : 0 ≤ a.cpus.toInt) (hmem : 0 ≤ a.memMB.toInt)
    (hcpus' : a.cpus.toInt ≤ b.usedCPUs.toInt) (hmem' : a.memMB.toInt ≤ b.usedMemMB.toInt) :
    b.abs.release a.abs = (b.release a).abs := by
  rw [ResourceAllocator.release_of_le hcpus' hmem', release_of_le hcpus hmem hcpus' hmem']
  simp only [abs, WordAllocation.abs, toInt_sub_of_le hcpus hcpus', toInt_sub_of_le hmem hmem']

end ResourceBudget

/-! ### Calls and matching calls -/

/-- An allocator, and the requests that were granted and are not given back. -/
structure Bookings where
  budget : ResourceBudget
  held : List WordAllocation := []
  deriving DecidableEq

/-- A call. -/
inductive Bookings.Call
  | tryAcquire (a : WordAllocation)
  | release (a : WordAllocation)
  deriving DecidableEq

namespace Bookings

/-- A call in a state: only what is held is given back. -/
def step (s : Bookings) : Call → Option Bookings
  | .tryAcquire a =>
      some
        { budget := (s.budget.tryAcquire a).2
          held := if (s.budget.tryAcquire a).1 then a :: s.held else s.held }
  | .release a =>
      if a ∈ s.held then some { budget := s.budget.release a, held := s.held.erase a } else none

/-- The call does not grant what does not fit. -/
def Sound (s : Bookings) : Call → Prop
  | .tryAcquire a =>
      0 ≤ a.cpus.toInt → 0 ≤ a.memMB.toInt → s.budget.BothPass a → s.budget.Fits a
  | .release _ => True

/-- What is in use is what is held, nothing that is held is negative, and all of it is within the
limits. -/
structure Inv (s : Bookings) : Prop where
  nonneg : ∀ a ∈ s.held, 0 ≤ a.cpus.toInt ∧ 0 ≤ a.memMB.toInt
  cpus : s.budget.usedCPUs.toInt = (s.held.map fun a => a.cpus.toInt).sum
  mem : s.budget.usedMemMB.toInt = (s.held.map fun a => a.memMB.toInt).sum
  within : s.held ≠ [] → s.budget.usedCPUs.toInt ≤ s.budget.totalCPUs.toInt ∧
    s.budget.usedMemMB.toInt ≤ s.budget.totalMemMB.toInt

theorem le_sum {held : List WordAllocation} {a : WordAllocation} {f : WordAllocation → ℤ}
    (h : a ∈ held) (hf : ∀ x ∈ held, 0 ≤ f x) : f a ≤ (held.map f).sum :=
  List.single_le_sum (List.forall_mem_map.2 hf) _ (List.mem_map_of_mem h)

theorem Inv.le_used {s : Bookings} (hs : s.Inv) {a : WordAllocation} (ha : a ∈ s.held) :
    a.cpus.toInt ≤ s.budget.usedCPUs.toInt ∧ a.memMB.toInt ≤ s.budget.usedMemMB.toInt := by
  rw [hs.cpus, hs.mem]
  exact ⟨le_sum ha fun x hx => (hs.nonneg x hx).1, le_sum ha fun x hx => (hs.nonneg x hx).2⟩

/-- **A call that grants only what fits keeps the books.** -/
theorem Inv.step {s s' : Bookings} {c : Call} (hs : s.Inv) (hsound : s.Sound c)
    (h : s.step c = some s') : s'.Inv := by
  cases c with
  | tryAcquire a =>
      cases h
      rcases s.budget.tryAcquire_cases a with ⟨heq, _⟩ | ⟨⟨hcpus, hmem, hpass⟩, heq⟩
      · rw [heq]
        exact hs
      · have hfits := hsound hcpus hmem hpass
        have hcpus' := toInt_add_of_le hfits.cpus_nonneg hfits.cpus
        have hmem' := toInt_add_of_le hfits.mem_nonneg hfits.mem
        rw [heq]
        refine ⟨List.forall_mem_cons.2 ⟨⟨hcpus, hmem⟩, hs.nonneg⟩, ?_, ?_, fun _ => ⟨?_, ?_⟩⟩
        · simp only [if_true, List.map_cons, List.sum_cons]
          rw [hcpus', hs.cpus, Int.add_comm]
        · simp only [if_true, List.map_cons, List.sum_cons]
          rw [hmem', hs.mem, Int.add_comm]
        · simpa only [hcpus'] using hfits.cpus
        · simpa only [hmem'] using hfits.mem
  | release a =>
      simp only [Bookings.step] at h
      split at h
      · next ha =>
          cases h
          obtain ⟨hcpus, hmem⟩ := hs.nonneg a ha
          obtain ⟨hcpus', hmem'⟩ := hs.le_used ha
          have hwithin := hs.within (List.ne_nil_of_mem ha)
          rw [ResourceBudget.release_of_le hcpus hmem hcpus' hmem']
          refine ⟨fun x hx => hs.nonneg x (List.mem_of_mem_erase hx), ?_, ?_, fun _ => ⟨?_, ?_⟩⟩
          · rw [toInt_sub_of_le hcpus hcpus', hs.cpus, ← List.sum_map_erase _ ha]
            exact add_sub_cancel_left _ _
          · rw [toInt_sub_of_le hmem hmem', hs.mem, ← List.sum_map_erase _ ha]
            exact add_sub_cancel_left _ _
          · rw [toInt_sub_of_le hcpus hcpus']
            exact (Int.sub_le_self _ hcpus).trans hwithin.1
          · rw [toInt_sub_of_le hmem hmem']
            exact (Int.sub_le_self _ hmem).trans hwithin.2
      · cases h

def start (hostCPUs hostMemMB totalCPUs totalMemMB : Int64) : Bookings where
  budget := ResourceBudget.newResourceAllocator hostCPUs hostMemMB totalCPUs totalMemMB

theorem inv_start (hostCPUs hostMemMB totalCPUs totalMemMB : Int64) :
    (start hostCPUs hostMemMB totalCPUs totalMemMB).Inv :=
  ⟨by simp [start], rfl, rfl, fun hne => absurd rfl hne⟩

/-- A call of the allocator over the integers. -/
def exactStep (r : ResourceAllocator) : Call → ResourceAllocator
  | .tryAcquire a => (r.tryAcquire a.abs).2
  | .release a => r.release a.abs

theorem abs_step {s s' : Bookings} {c : Call} (hs : s.Inv) (hsound : s.Sound c)
    (h : s.step c = some s') : s'.budget.abs = exactStep s.budget.abs c := by
  cases c with
  | tryAcquire a =>
      cases h
      have hexact := ResourceBudget.tryAcquire_exact_iff.2 hsound
      rw [exactStep, ResourceBudget.tryAcquire_refines hexact]
  | release a =>
      simp only [Bookings.step] at h
      split at h
      · next ha =>
          cases h
          obtain ⟨hcpus, hmem⟩ := hs.nonneg a ha
          obtain ⟨hcpus', hmem'⟩ := hs.le_used ha
          exact (ResourceBudget.release_refines hcpus hmem hcpus' hmem').symm
      · cases h

theorem abs_run {cs : List Call} : ∀ {s t : Bookings}, s.Inv → Machine.Obeys step Sound s cs →
    Machine.run step s cs = some t → t.budget.abs = cs.foldl exactStep s.budget.abs := by
  induction cs with
  | nil =>
      intro s t _ _ h
      cases h
      rfl
  | cons c cs ih =>
      intro s t hs hsound h
      obtain ⟨s', hs', hrun⟩ := Machine.run_cons_eq_some.1 h
      rw [ih (hs.step hsound.1 hs') (hsound.2 s' hs') hrun, abs_step hs hsound.1 hs',
        List.foldl_cons]

/-- **The books of an allocator**: after any calls that grant only what fits, what is in use is
what is held, and the budget is the one of the allocator over the integers after the same calls. -/
theorem books_of_obeys {hostCPUs hostMemMB totalCPUs totalMemMB : Int64} {cs : List Call}
    {s : Bookings}
    (hsound : Machine.Obeys step Sound (start hostCPUs hostMemMB totalCPUs totalMemMB) cs)
    (h : Machine.run step (start hostCPUs hostMemMB totalCPUs totalMemMB) cs = some s) :
    s.Inv ∧ s.budget.abs =
      cs.foldl exactStep (start hostCPUs hostMemMB totalCPUs totalMemMB).budget.abs := by
  have hstart := inv_start hostCPUs hostMemMB totalCPUs totalMemMB
  exact ⟨Machine.run_invariant (fun _ _ _ => Inv.step) hstart hsound h, abs_run hstart hsound h⟩

/-- **A processor too many**: of eight processors one is taken, and then `2 ^ 63 - 1` more are
granted, which leaves the counter negative.  In the same state `CanFit` has room for a negative
number of processors, which `TryAcquire` refuses. -/
theorem overflowing_request_granted :
    Machine.run step (start 1 1 8 16384) [.tryAcquire ⟨1, 2048⟩] =
        some ⟨⟨8, 16384, 1, 2048⟩, [⟨1, 2048⟩]⟩ ∧
      ResourceBudget.tryAcquire ⟨8, 16384, 1, 2048⟩ ⟨9223372036854775807, 0⟩ =
        (true, ⟨8, 16384, -9223372036854775808, 2048⟩) ∧
      ¬ ResourceBudget.Fits ⟨8, 16384, 1, 2048⟩ ⟨9223372036854775807, 0⟩ ∧
      ResourceBudget.canFit ⟨8, 16384, 1, 2048⟩ ⟨-1, 0⟩ = true ∧
      (ResourceBudget.tryAcquire ⟨8, 16384, 1, 2048⟩ ⟨-1, 0⟩).1 = false := by
  refine ⟨by decide +kernel, by decide +kernel, fun h => ?_, by decide +kernel, by decide +kernel⟩
  have hcpus := h.cpus
  revert hcpus
  decide +kernel

end Bookings

end Dvf
