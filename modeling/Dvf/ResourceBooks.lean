/-
**The books of the host** (`internal/core/execution_engine.go`, `internal/core/allocator.go`).

The worker takes runs from the scheduler, and each of them is executed in a goroutine of its own
that releases its slot at the end.  The executions share the allocator and the agent coordinator,
and are interleaved call by call; every other call gets any answer, except that no two created
machines have the same id.  Since each execution gives back what it takes, the allocator counts
exactly what the executions hold, and the coordinator has entries only for machines of executions
that are under way.

Main definitions:

* `Dvf.EngineHost`, `Dvf.EngineHost.answer` — the allocator and the coordinator;
* `Dvf.EngineSystem`, `Dvf.EngineAct`, `Dvf.EngineSystem.step` — executions that are interleaved;
* `Dvf.EngineSystem.usedBy` — what the executions hold of a resource that is counted.

Main results:

* `Dvf.EngineHost.Answered.of_answer` — what an answer does to the books;
* `Dvf.EngineSystem.Balanced.step` — the books agree with what the executions hold;
* `Dvf.resources_given_back` — **every resource that a run takes is given back exactly once**.
-/

import Dvf.Resources
import Mathlib.Algebra.Order.BigOperators.Group.Multiset

set_option autoImplicit false

namespace Dvf

/-! ### The host -/

/-- The allocator, the machines with an entry in the coordinator, and all machines that were ever
created. -/
structure EngineHost where
  allocator : ResourceAllocator
  entries : Finset String := ∅
  created : List String := []

/-- The answer to a call.  The ids of machines are new; what else is answered comes from `ans`. -/
def EngineHost.answer (w : EngineHost) :
    (c : Call) → ((c : Call) → c.Resp) → Option (c.Resp × EngineHost)
  | .tryAcquire alloc, _ =>
      some ((w.allocator.tryAcquire alloc).1,
        { w with allocator := (w.allocator.tryAcquire alloc).2 })
  | .release alloc, _ => some ((), { w with allocator := w.allocator.release alloc })
  | .registerVM vmID, _ => some ((), { w with entries := insert vmID w.entries })
  | .unregisterVM vmID, _ => some ((), { w with entries := w.entries.erase vmID })
  | .createVM device, ans =>
      match ans (.createVM device) with
      | .ok vm =>
          if vm.id ∈ w.created then none
          else some (.ok vm, { w with created := vm.id :: w.created })
      | .error err => some (.error err, w)
  | c, ans => some (ans c, w)

/-! ### Executions that are interleaved -/

abbrev Execution := Prog.Thread Call Call.Resp (Except String Unit) Held

/-- The scheduler, the host, and the executions under way. -/
structure EngineSystem where
  scheduler : Scheduler
  host : EngineHost
  threads : List Execution := []

/-- A run is submitted, the worker takes the next one, an execution makes its next call, or one that
has returned releases its slot. -/
inductive EngineAct
  | submit (run : TestRun)
  | next
  | advance (k : ℕ) (ans : (c : Call) → c.Resp)
  | finish (k : ℕ)

namespace EngineSystem

/-- **One action.** -/
def step (e : EngineConfig) (s : EngineSystem) : EngineAct → Option EngineSystem
  | .submit run => some { s with scheduler := s.scheduler.enqueue run }
  | .next =>
      match s.scheduler.tryNext with
      | some (run, scheduler) =>
          some { s with
            scheduler := scheduler
            threads := s.threads ++ [⟨executeTestRun e run, {}⟩] }
      | none => none
  | .advance k ans =>
      (Prog.Thread.advance engineProtocol EngineHost.answer s.host s.threads k ans).map fun x =>
        { s with host := x.1, threads := x.2 }
  | .finish k =>
      match s.threads[k]? with
      | some ⟨.pure _, _⟩ =>
          some { s with threads := s.threads.eraseIdx k, scheduler := s.scheduler.release }
      | _ => none

def start (maxConcurrent : ℤ) (allocator : ResourceAllocator) : EngineSystem where
  scheduler := newScheduler maxConcurrent
  host := { allocator := allocator }

end EngineSystem

/-! ### Counting -/

@[simp] def Resource.cpus : Resource → ℤ
  | .budget alloc => alloc.cpus
  | _ => 0

@[simp] def Resource.memMB : Resource → ℤ
  | .budget alloc => alloc.memMB
  | _ => 0

/-- How much resources count, one by one. -/
def cost (f : Resource → ℤ) (m : Multiset Resource) : ℤ := (m.map f).sum

variable {f : Resource → ℤ}

@[simp] theorem cost_zero : cost f 0 = 0 := rfl

@[simp] theorem cost_singleton (ρ : Resource) : cost f {ρ} = f ρ := by simp [cost]

theorem cost_add (m n : Multiset Resource) : cost f (m + n) = cost f m + cost f n := by
  simp [cost]

theorem cost_next {q : Held} {c : Call} (hc : engineProtocol.allowed q c) (r : c.Resp) :
    cost f (engineProtocol.next q c r).resources =
      cost f q.resources - cost f (engineLedger.gives c) + cost f (engineLedger.takes c r) := by
  obtain ⟨rest, hrest⟩ := Multiset.le_iff_exists_add.1 hc.1
  change cost f (q.resources - engineLedger.gives c + engineLedger.takes c r) = _
  rw [hrest, add_tsub_cancel_left, cost_add, cost_add]
  omega

theorem cost_nonneg {m : Multiset Resource} (h : ∀ ρ ∈ m, 0 ≤ f ρ) : 0 ≤ cost f m := by
  refine Multiset.sum_nonneg fun x hx => ?_
  obtain ⟨ρ, hρ, rfl⟩ := Multiset.mem_map.1 hx
  exact h ρ hρ

theorem le_cost {m : Multiset Resource} (h : ∀ ρ ∈ m, 0 ≤ f ρ) {ρ : Resource} (hρ : ρ ∈ m) :
    f ρ ≤ cost f m := by
  obtain ⟨rest, rfl⟩ := Multiset.exists_cons_of_mem hρ
  have hrest : 0 ≤ cost f rest := cost_nonneg fun ρ' h' => h ρ' (Multiset.mem_cons_of_mem h')
  have hcons : cost f (ρ ::ₘ rest) = f ρ + cost f rest := by simp [cost]
  omega

def EngineSystem.usedBy (f : Resource → ℤ) (ts : List Execution) : ℤ :=
  (ts.map fun th => cost f th.state.resources).sum

namespace EngineHost

/-- **What an answer does to the books**: the allocator counts what was given and taken, an entry
that is there was there and was not given back or has just been taken, and a machine that was handed
out is new. -/
structure Answered (w : EngineHost) (c : Call) (r : c.Resp) (w' : EngineHost) : Prop where
  totals : w'.allocator.totalCPUs = w.allocator.totalCPUs ∧
    w'.allocator.totalMemMB = w.allocator.totalMemMB
  used : (∀ alloc, c = .release alloc →
      alloc.cpus ≤ w.allocator.usedCPUs ∧ alloc.memMB ≤ w.allocator.usedMemMB) →
    w'.allocator.usedCPUs = w.allocator.usedCPUs - cost Resource.cpus (engineLedger.gives c) +
        cost Resource.cpus (engineLedger.takes c r) ∧
      w'.allocator.usedMemMB = w.allocator.usedMemMB - cost Resource.memMB (engineLedger.gives c) +
        cost Resource.memMB (engineLedger.takes c r)
  fits : ∀ ρ ∈ engineLedger.takes c r, 0 ≤ ρ.cpus ∧ 0 ≤ ρ.memMB
  within : cost Resource.cpus (engineLedger.takes c r) = 0 ∧
      cost Resource.memMB (engineLedger.takes c r) = 0 ∨
    w'.allocator.usedCPUs ≤ w'.allocator.totalCPUs ∧
      w'.allocator.usedMemMB ≤ w'.allocator.totalMemMB
  entries : ∀ vmID ∈ w'.entries, vmID ∈ w.entries ∧ .entry vmID ∉ engineLedger.gives c ∨
    .entry vmID ∈ engineLedger.takes c r
  created : w'.created = c.created r ++ w.created ∧ ∀ vmID ∈ c.created r, vmID ∉ w.created

/-- A call that has no effect on the books. -/
theorem Answered.of_plain {w : EngineHost} {c : Call} {r : c.Resp}
    (hcpus : cost Resource.cpus (engineLedger.gives c) = 0 ∧
      cost Resource.memMB (engineLedger.gives c) = 0)
    (htakes : cost Resource.cpus (engineLedger.takes c r) = 0 ∧
      cost Resource.memMB (engineLedger.takes c r) = 0)
    (hfits : ∀ ρ ∈ engineLedger.takes c r, 0 ≤ ρ.cpus ∧ 0 ≤ ρ.memMB)
    (hentry : ∀ vmID, .entry vmID ∉ engineLedger.gives c) (hcreated : c.created r = []) :
    Answered w c r w where
  totals := ⟨rfl, rfl⟩
  used _ := by
    rw [hcpus.1, hcpus.2, htakes.1, htakes.2]
    omega
  fits := hfits
  within := Or.inl htakes
  entries vmID h := Or.inl ⟨h, hentry vmID⟩
  created := by simp [hcreated]

theorem Answered.of_answer {w w' : EngineHost} {c : Call} {ans : (c : Call) → c.Resp} {r : c.Resp}
    (h : w.answer c ans = some (r, w')) : Answered w c r w' := by
  cases c with
  | tryAcquire alloc =>
      cases h
      obtain hno | ⟨hcpus, hmem, hfc, hfm, hyes⟩ := w.allocator.tryAcquire_spec alloc
      · rw [hno]
        exact .of_plain ⟨rfl, rfl⟩ ⟨rfl, rfl⟩ (by simp [engineLedger]) (by simp [engineLedger]) rfl
      · rw [hyes]
        refine ⟨⟨rfl, rfl⟩, fun _ => ?_, ?_, Or.inr ⟨hfc, hfm⟩, fun vmID hv => Or.inl ⟨hv, ?_⟩, ?_⟩
        · simp [engineLedger]
        · simp [engineLedger, hcpus, hmem]
        · simp [engineLedger]
        · simp [Call.created]
  | release alloc =>
      cases h
      refine ⟨⟨rfl, rfl⟩, fun hle => ?_, by simp [engineLedger], Or.inl ⟨rfl, rfl⟩,
        fun vmID hv => Or.inl ⟨hv, by simp [engineLedger]⟩, by simp [Call.created]⟩
      obtain ⟨hcpus, hmem⟩ := hle alloc rfl
      rw [ResourceAllocator.release_of_le hcpus hmem]
      simp [engineLedger]
  | registerVM vmID =>
      cases h
      refine ⟨⟨rfl, rfl⟩, fun _ => by simp [engineLedger], by simp [engineLedger],
        Or.inl (by simp [engineLedger]), fun id hid => ?_, by simp [Call.created]⟩
      obtain rfl | hid := Finset.mem_insert.1 hid
      · exact Or.inr (by simp [engineLedger])
      · exact Or.inl ⟨hid, by simp [engineLedger]⟩
  | unregisterVM vmID =>
      cases h
      refine ⟨⟨rfl, rfl⟩, fun _ => by simp [engineLedger], by simp [engineLedger],
        Or.inl ⟨rfl, rfl⟩, fun id hid => ?_, by simp [Call.created]⟩
      obtain ⟨hne, hid⟩ := Finset.mem_erase.1 hid
      exact Or.inl ⟨hid, by simpa [engineLedger] using hne⟩
  | createVM device =>
      rw [answer] at h
      split at h
      · next vm _ =>
          split at h
          · cases h
          · next hnew =>
              cases h
              exact ⟨⟨rfl, rfl⟩, fun _ => by simp [engineLedger], by simp [engineLedger],
                Or.inl (by simp [engineLedger]),
                fun id hid => Or.inl ⟨hid, by simp [engineLedger]⟩,
                by simpa [Call.created] using hnew⟩
      · cases h
        exact .of_plain ⟨rfl, rfl⟩ ⟨rfl, rfl⟩ (by simp [engineLedger]) (by simp [engineLedger]) rfl
  | startVM vmID =>
      cases h
      cases ans (.startVM vmID) with
      | ok u | error err =>
          exact .of_plain ⟨rfl, rfl⟩ (by simp [engineLedger]) (by simp [engineLedger])
            (by simp [engineLedger]) rfl
  | stopVM ctx vmID | destroyVM ctx vmID =>
      cases h
      exact .of_plain (by simp [engineLedger]) ⟨rfl, rfl⟩ (by simp [engineLedger])
        (by simp [engineLedger]) rfl
  | _ =>
      cases h
      exact .of_plain ⟨rfl, rfl⟩ ⟨rfl, rfl⟩ (by simp [engineLedger]) (by simp [engineLedger]) rfl

end EngineHost

/-! ### The books and the executions -/

section Next

variable {q : Held} {c : Call} {r : c.Resp} {ρ : Resource}

theorem mem_of_mem_next (h : ρ ∈ (engineProtocol.next q c r).resources) :
    ρ ∈ q.resources ∨ ρ ∈ engineLedger.takes c r :=
  (Multiset.mem_add.1 h).imp (fun h => Multiset.mem_of_le (Multiset.sub_le_self _ _) h) id

theorem mem_next_of_mem (h : ρ ∈ q.resources) (hgives : ρ ∉ engineLedger.gives c) :
    ρ ∈ (engineProtocol.next q c r).resources := by
  refine Multiset.mem_add.2 (Or.inl ?_)
  rw [← Multiset.count_pos, Multiset.count_sub, Multiset.count_eq_zero_of_notMem hgives]
  simpa using Multiset.count_pos.2 h

theorem mem_next_of_takes (h : ρ ∈ engineLedger.takes c r) :
    ρ ∈ (engineProtocol.next q c r).resources :=
  Multiset.mem_add.2 (Or.inr h)

theorem machine_of_entry {vmID : String} (h : .entry vmID ∈ engineLedger.takes c r) :
    vmID ∈ c.machine := by
  cases c with
  | registerVM id =>
      have hid : Resource.entry vmID = .entry id := Multiset.mem_singleton.1 h
      cases hid
      rfl
  | tryAcquire alloc => cases r <;> simp [engineLedger] at h
  | createVM device => cases r <;> simp [engineLedger] at h
  | startVM id => cases r <;> simp [engineLedger] at h
  | _ => simp [engineLedger] at h

end Next

namespace EngineSystem

variable {e : EngineConfig} {s s' : EngineSystem} {l₁ l₂ ts : List Execution} {th : Execution}

theorem usedBy_append : usedBy f (l₁ ++ l₂) = usedBy f l₁ + usedBy f l₂ := by simp [usedBy]

theorem usedBy_cons : usedBy f (th :: ts) = cost f th.state.resources + usedBy f ts := by
  simp [usedBy]

theorem usedBy_nonneg (h : ∀ th ∈ ts, ∀ ρ ∈ th.state.resources, 0 ≤ f ρ) : 0 ≤ usedBy f ts := by
  induction ts with
  | nil => exact Int.le_refl 0
  | cons th ts ih =>
      rw [List.forall_mem_cons] at h
      rw [usedBy_cons]
      have hth := cost_nonneg h.1
      have hts := ih h.2
      omega

theorem le_usedBy (h : ∀ th ∈ ts, ∀ ρ ∈ th.state.resources, 0 ≤ f ρ) (hth : th ∈ ts) {ρ : Resource}
    (hρ : ρ ∈ th.state.resources) : f ρ ≤ usedBy f ts := by
  obtain ⟨l₁, l₂, rfl⟩ := List.append_of_mem hth
  rw [List.forall_mem_append, List.forall_mem_cons] at h
  rw [usedBy_append, usedBy_cons]
  have h₁ := usedBy_nonneg h.1
  have h₂ := usedBy_nonneg h.2.2
  have hle := le_cost h.2.1 hρ
  omega

/-- **The books agree with what the executions hold.** -/
structure Balanced (s : EngineSystem) : Prop where
  follows : ∀ th ∈ s.threads, th.Ok engineProtocol fun _ q => q.resources = 0
  nonneg : ∀ th ∈ s.threads, ∀ ρ ∈ th.state.resources, 0 ≤ ρ.cpus ∧ 0 ≤ ρ.memMB
  cpus : s.host.allocator.usedCPUs = usedBy Resource.cpus s.threads
  memMB : s.host.allocator.usedMemMB = usedBy Resource.memMB s.threads
  within : s.host.allocator.usedCPUs ≤ s.host.allocator.totalCPUs ∧
    s.host.allocator.usedMemMB ≤ s.host.allocator.totalMemMB
  entries : ∀ vmID ∈ s.host.entries, ∃ th ∈ s.threads, .entry vmID ∈ th.state.resources
  own : ∀ th ∈ s.threads, ∀ vmID, .entry vmID ∈ th.state.resources → vmID ∈ th.state.mine
  known : ∀ th ∈ s.threads, ∀ vmID ∈ th.state.mine, vmID ∈ s.host.created
  apart : s.threads.Pairwise fun th th' => List.Disjoint th.state.mine th'.state.mine
  active : s.scheduler.activeCount = s.threads.length

theorem Balanced.start {allocator : ResourceAllocator} (hcpus : allocator.usedCPUs = 0)
    (hmem : allocator.usedMemMB = 0) (htcpus : 0 ≤ allocator.totalCPUs)
    (htmem : 0 ≤ allocator.totalMemMB) (n : ℤ) : (start n allocator).Balanced where
  follows _ h := by cases h
  nonneg _ h := by cases h
  cpus := hcpus
  memMB := hmem
  within := ⟨hcpus ▸ htcpus, hmem ▸ htmem⟩
  entries _ h := by cases h
  own _ h := by cases h
  known _ h := by cases h
  apart := .nil
  active := rfl

theorem Balanced.release_le (hs : s.Balanced) (hth : th ∈ s.threads) {alloc : Allocation}
    (hallowed : engineProtocol.allowed th.state (.release alloc)) :
    alloc.cpus ≤ s.host.allocator.usedCPUs ∧ alloc.memMB ≤ s.host.allocator.usedMemMB := by
  have hρ : Resource.budget alloc ∈ th.state.resources := Multiset.singleton_le.1 hallowed.1
  rw [hs.cpus, hs.memMB]
  exact ⟨le_usedBy (f := Resource.cpus) (fun th hth ρ hρ => (hs.nonneg th hth ρ hρ).1) hth hρ,
    le_usedBy (f := Resource.memMB) (fun th hth ρ hρ => (hs.nonneg th hth ρ hρ).2) hth hρ⟩

theorem usedBy_next {c : Call} {g g' : EngineProg (Except String Unit)} {q : Held}
    (hc : engineProtocol.allowed q c) (r : c.Resp) :
    usedBy f (l₁ ++ ⟨g', engineProtocol.next q c r⟩ :: l₂) =
      usedBy f (l₁ ++ ⟨g, q⟩ :: l₂) - cost f (engineLedger.gives c) +
        cost f (engineLedger.takes c r) := by
  simp only [usedBy_append, usedBy_cons, cost_next hc r]
  omega

theorem disjoint_created {c : Call} {r : c.Resp} {q q' : Held} {created : List String}
    (hdisj : List.Disjoint q.mine q'.mine) (hnew : ∀ vmID ∈ c.created r, vmID ∉ created)
    (hknown : ∀ vmID ∈ q'.mine, vmID ∈ created) :
    List.Disjoint (engineProtocol.next q c r).mine q'.mine := by
  intro vmID hv hv'
  obtain hv | hv := List.mem_append.1 hv
  · exact hdisj hv hv'
  · exact hnew vmID hv (hknown vmID hv')

/-- The allocator stays within its budget, as what is taken was checked. -/
theorem Balanced.within_answer (hs : s.Balanced) (hth : th ∈ s.threads) {c : Call} {r : c.Resp}
    {w' : EngineHost} (hc : engineProtocol.allowed th.state c) (hspec : s.host.Answered c r w')
    (hcpus : w'.allocator.usedCPUs = s.host.allocator.usedCPUs -
      cost Resource.cpus (engineLedger.gives c) + cost Resource.cpus (engineLedger.takes c r))
    (hmem : w'.allocator.usedMemMB = s.host.allocator.usedMemMB -
      cost Resource.memMB (engineLedger.gives c) + cost Resource.memMB (engineLedger.takes c r)) :
    w'.allocator.usedCPUs ≤ w'.allocator.totalCPUs ∧
      w'.allocator.usedMemMB ≤ w'.allocator.totalMemMB := by
  obtain ⟨htc, htm⟩ | hle := hspec.within
  · have hheld : ∀ ρ ∈ engineLedger.gives c, 0 ≤ ρ.cpus ∧ 0 ≤ ρ.memMB := fun ρ hρ =>
      hs.nonneg th hth ρ (Multiset.mem_of_le hc.1 hρ)
    have hgc : 0 ≤ cost Resource.cpus (engineLedger.gives c) :=
      cost_nonneg fun ρ h => (hheld ρ h).1
    have hgm : 0 ≤ cost Resource.memMB (engineLedger.gives c) :=
      cost_nonneg fun ρ h => (hheld ρ h).2
    obtain ⟨htotalc, htotalm⟩ := hspec.totals
    obtain ⟨hwc, hwm⟩ := hs.within
    omega
  · exact hle

/-- **A call of one execution keeps the books.** -/
theorem Balanced.advance (hs : s.Balanced) {k : ℕ} {ans : (c : Call) → c.Resp}
    (h : s.step e (.advance k ans) = some s') : s'.Balanced := by
  obtain ⟨⟨w', ts'⟩, hadv, rfl⟩ := Option.map_eq_some_iff.1 h
  obtain ⟨c, g, q, r, hk, hans, rfl⟩ := Prog.Thread.exists_of_advance hadv
  have hspec := EngineHost.Answered.of_answer hans
  have hmem : (⟨.call c g, q⟩ : Execution) ∈ s.threads := List.mem_of_getElem? hk
  obtain ⟨hallowed, hrest⟩ := hs.follows _ hmem
  obtain ⟨hcpus, hmemMB⟩ := hspec.used fun alloc halloc => by
    subst halloc
    exact hs.release_le hmem hallowed
  have hwithin := hs.within_answer hmem hallowed hspec hcpus hmemMB
  obtain ⟨hcreated, hnew⟩ := hspec.created
  -- the execution stands between others, which stay as they are
  obtain ⟨scheduler, host, threads⟩ := s
  obtain ⟨l₁, l₂, rfl, -, hset⟩ := Machine.split_of_getElem? hk
  rw [hset]
  refine ⟨Machine.forall_mem_replace hs.follows (hrest r),
    Machine.forall_mem_replace hs.nonneg fun ρ hρ => ?_, ?_, ?_, hwithin, fun vmID hv => ?_,
    Machine.forall_mem_replace hs.own fun vmID hv => ?_,
    Machine.forall_mem_replace (x := ⟨.call c g, q⟩) (fun th hth vmID hv => ?_) fun vmID hv => ?_,
    Machine.pairwise_replace (fun _ _ => List.Disjoint.symm) hs.apart fun th hth hdisj => ?_, ?_⟩
  · exact (mem_of_mem_next hρ).elim (hs.nonneg _ hmem ρ) (hspec.fits ρ)
  · rw [usedBy_next (g := .call c g) hallowed, ← hs.cpus]
    exact hcpus
  · rw [usedBy_next (g := .call c g) hallowed, ← hs.memMB]
    exact hmemMB
  · obtain ⟨hv, hgives⟩ | hv := hspec.entries vmID hv
    · exact Machine.exists_mem_replace (hs.entries vmID hv) fun h => mem_next_of_mem h hgives
    · exact ⟨_, List.mem_append_right _ List.mem_cons_self, mem_next_of_takes hv⟩
  · refine List.mem_append_left _ ?_
    obtain hv | hv := mem_of_mem_next hv
    · exact hs.own _ hmem vmID hv
    · exact hallowed.2 vmID (machine_of_entry hv)
  · rw [hcreated]
    exact List.mem_append_right _ (hs.known th hth vmID hv)
  · rw [hcreated]
    obtain hv | hv := List.mem_append.1 hv
    · exact List.mem_append_right _ (hs.known _ hmem vmID hv)
    · exact List.mem_append_left _ hv
  · exact disjoint_created hdisj hnew (hs.known th hth)
  · have hactive := hs.active
    simp only [List.length_append, List.length_cons] at hactive ⊢
    exact hactive

/-- A run that the worker takes starts with nothing in its hands. -/
theorem Balanced.next (hs : s.Balanced) (h : s.step e .next = some s') : s'.Balanced := by
  rw [EngineSystem.step] at h
  split at h
  · next run scheduler htake =>
      cases h
      obtain ⟨-, hactive, -⟩ := Scheduler.tryNext_eq_some_iff.1 htake
      have hall : ∀ {P : Execution → Prop}, (∀ th ∈ s.threads, P th) →
          P ⟨executeTestRun e run, {}⟩ →
          ∀ th ∈ s.threads ++ [⟨executeTestRun e run, {}⟩], P th := by
        intro P hold hnew
        rw [List.forall_mem_append, List.forall_mem_singleton]
        exact ⟨hold, hnew⟩
      have hused : ∀ f,
          usedBy f (s.threads ++ [⟨executeTestRun e run, {}⟩]) = usedBy f s.threads := by
        intro f
        rw [usedBy_append, usedBy_cons]
        simp [usedBy]
      refine ⟨hall hs.follows (Held.follows_executeTestRun e run), hall hs.nonneg (by simp), ?_, ?_,
        hs.within, fun vmID hv => ?_, hall hs.own (by simp), hall hs.known (by simp), ?_, ?_⟩
      · rw [hused]
        exact hs.cpus
      · rw [hused]
        exact hs.memMB
      · obtain ⟨th, hth, hentry⟩ := hs.entries vmID hv
        exact ⟨th, List.mem_append_left _ hth, hentry⟩
      · rw [List.pairwise_append]
        exact ⟨hs.apart, List.pairwise_singleton _ _, by simp⟩
      · rw [List.length_append, List.length_singleton, ← hs.active]
        exact hactive
  · cases h

theorem Balanced.resources_of_pure (hs : s.Balanced) {r : Except String Unit} {q : Held}
    (hth : (⟨.pure r, q⟩ : Execution) ∈ s.threads) : q.resources = 0 :=
  hs.follows _ hth

/-- The slot of an execution that has returned is free again. -/
theorem Balanced.finish (hs : s.Balanced) {k : ℕ} (h : s.step e (.finish k) = some s') :
    s'.Balanced := by
  rw [EngineSystem.step] at h
  split at h
  · next r q hk =>
      cases h
      have hzero := hs.resources_of_pure (List.mem_of_getElem? hk)
      obtain ⟨scheduler, host, threads⟩ := s
      obtain ⟨l₁, l₂, rfl, herase, -⟩ := Machine.split_of_getElem? hk
      rw [herase]
      have hall : ∀ {P : Execution → Prop}, (∀ th ∈ l₁ ++ ⟨.pure r, q⟩ :: l₂, P th) →
          ∀ th ∈ l₁ ++ l₂, P th := by
        intro P h th hth
        exact h th (List.mem_append.2 ((List.mem_append.1 hth).imp_right (List.mem_cons_of_mem _)))
      have hused : ∀ f, usedBy f (l₁ ++ ⟨.pure r, q⟩ :: l₂) = usedBy f (l₁ ++ l₂) := by
        intro f
        simp only [usedBy_append, usedBy_cons, hzero, cost_zero, zero_add]
      refine ⟨hall hs.follows, hall hs.nonneg, hs.cpus.trans (hused _), hs.memMB.trans (hused _),
        hs.within, fun vmID hv => ?_, hall hs.own, hall hs.known, ?_, ?_⟩
      · obtain ⟨th, hth, hentry⟩ := hs.entries vmID hv
        obtain hth | hth := List.mem_append.1 hth
        · exact ⟨th, List.mem_append_left _ hth, hentry⟩
        · obtain rfl | hth := List.mem_cons.1 hth
          · simp [hzero] at hentry
          · exact ⟨th, List.mem_append_right _ hth, hentry⟩
      · exact hs.apart.sublist (List.Sublist.append_left (List.sublist_cons_self _ _) _)
      · have hactive := hs.active
        simp only [List.length_append, List.length_cons, Scheduler.release] at hactive ⊢
        omega
  · cases h

theorem Balanced.step (hs : s.Balanced) {a : EngineAct} (h : s.step e a = some s') :
    s'.Balanced := by
  cases a with
  | submit run =>
      cases h
      exact { hs with active := hs.active }
  | next => exact hs.next h
  | advance k ans => exact hs.advance h
  | finish k => exact hs.finish h

/-- **The books of a run of the machine**, from a new allocator on. -/
theorem Balanced.of_reachable {hostCPUs hostMemMB totalCPUs totalMemMB maxConcurrent : ℤ}
    (hcpus : 0 ≤ hostCPUs) (hmem : 0 ≤ hostMemMB)
    (h : Machine.Reachable (EngineSystem.step e) (EngineSystem.start maxConcurrent
      (newResourceAllocator hostCPUs hostMemMB totalCPUs totalMemMB)) s) : s.Balanced := by
  have htc : 0 ≤ (newResourceAllocator hostCPUs hostMemMB totalCPUs totalMemMB).totalCPUs := by
    change 0 ≤ if totalCPUs ≤ 0 then hostCPUs else totalCPUs
    split <;> omega
  have htm : 0 ≤ (newResourceAllocator hostCPUs hostMemMB totalCPUs totalMemMB).totalMemMB := by
    change 0 ≤ if totalMemMB ≤ 0 then hostMemMB else totalMemMB
    split <;> omega
  exact h.invariant (.start rfl rfl htc htm maxConcurrent) fun _ _ _ hs hstep => hs.step hstep

/-- No entry is left for an execution that has returned: it would hold the entry. -/
theorem Balanced.notMem_entries (hs : s.Balanced) {r : Except String Unit} {q : Held}
    (hth : (⟨.pure r, q⟩ : Execution) ∈ s.threads) {vmID : String} (hv : vmID ∈ q.mine) :
    vmID ∉ s.host.entries := by
  intro hentry
  obtain ⟨th, hmem, hheld⟩ := hs.entries vmID hentry
  by_cases heq : th = ⟨.pure r, q⟩
  · subst heq
    have hzero : q.resources = 0 := hs.resources_of_pure hth
    simp [hzero] at hheld
  · have hsymm : Std.Symm fun th th' : Execution => List.Disjoint th.state.mine th'.state.mine :=
      ⟨fun _ _ => List.Disjoint.symm⟩
    have hdisj := hs.apart.forall hmem hth heq
    exact hdisj (hs.own th hmem vmID hheld) hv

end EngineSystem

theorem given_eq_taken {e : EngineConfig} {run : TestRun} {tr : List ((c : Call) × c.Resp)}
    {r : Except String Unit} (h : (executeTestRun e run).Runs tr r) :
    engineLedger.given tr = engineLedger.taken tr := by
  have hfollows : (executeTestRun e run).Follows engineLedger.protocol (fun _ held => held = 0) 0 :=
    Prog.Follows.project (P := engineProtocol) (q := {}) Held.resources (fun _ _ hc => hc.1)
      (fun _ _ _ _ => rfl) (Held.follows_executeTestRun e run)
  obtain ⟨held, rfl, hbalance⟩ := Ledger.balance h hfollows
  rw [zero_add, zero_add] at hbalance
  exact hbalance.symm

/-- **Every resource that a run takes is given back exactly once.**  Whatever its calls are
answered, a complete execution releases the share of the budget that it acquired, removes the entry
of its machine from the coordinator, stops the machine if it was started, and destroys it, each as
often as it was taken.  So, however executions are interleaved, the allocator counts what they hold,
within its budget, and nothing when no run is executing; as many slots are taken as there are
executions; and one that has returned holds nothing, not even an entry in the coordinator. -/
theorem resources_given_back (e : EngineConfig)
    {hostCPUs hostMemMB totalCPUs totalMemMB maxConcurrent : ℤ} (hcpus : 0 ≤ hostCPUs)
    (hmem : 0 ≤ hostMemMB) :
    (∀ (run : TestRun) (tr : List ((c : Call) × c.Resp)) (r : Except String Unit),
      (executeTestRun e run).Runs tr r → engineLedger.given tr = engineLedger.taken tr) ∧
    ∀ s : EngineSystem, Machine.Reachable (EngineSystem.step e) (EngineSystem.start maxConcurrent
        (newResourceAllocator hostCPUs hostMemMB totalCPUs totalMemMB)) s →
      (s.host.allocator.usedCPUs = EngineSystem.usedBy Resource.cpus s.threads ∧
        s.host.allocator.usedMemMB = EngineSystem.usedBy Resource.memMB s.threads) ∧
      (s.host.allocator.usedCPUs ≤ s.host.allocator.totalCPUs ∧
        s.host.allocator.usedMemMB ≤ s.host.allocator.totalMemMB) ∧
      (s.threads = [] → s.host.allocator.usedCPUs = 0 ∧ s.host.allocator.usedMemMB = 0) ∧
      s.scheduler.activeCount = s.threads.length ∧
      ∀ (r : Except String Unit) (q : Held), (⟨.pure r, q⟩ : Execution) ∈ s.threads →
        q.resources = 0 ∧ ∀ vmID ∈ q.mine, vmID ∉ s.host.entries := by
  refine ⟨fun _ _ _ h => given_eq_taken h, fun s hs => ?_⟩
  have hbal := EngineSystem.Balanced.of_reachable hcpus hmem hs
  refine ⟨⟨hbal.cpus, hbal.memMB⟩, hbal.within, fun hnil => ?_, hbal.active, fun r q hth => ?_⟩
  · rw [hbal.cpus, hbal.memMB, hnil]
    exact ⟨rfl, rfl⟩
  · exact ⟨hbal.resources_of_pure hth, fun _ => hbal.notMem_entries hth⟩

/-- Answers that let an execution come to its end. -/
def agreeable : (c : Call) → c.Resp
  | .updateTestRunStatus .. => .ok ()
  | .getTestResults _ => .ok []
  | .findDevice id => .ok { id := id, targetModes := ["qemu"] }
  | .loadTestSuite suiteID _ => .ok { id := suiteID, steps := [] }
  | .tryAcquire _ => true
  | .release _ => ()
  | .submitLater _ => ()
  | .createVM _ => .ok { id := "vm-1", status := .creating }
  | .startVM _ => .ok ()
  | .stopVM .. => .ok ()
  | .destroyVM .. => .ok ()
  | .registerVM _ => ()
  | .unregisterVM _ => ()
  | .waitForAgent _ => .ok ()
  | .sendCommand .. => .ok { status := "PASSED" }
  | .runWorkflow .. => .ok

/-- A run is submitted and taken, and its execution has created its machine and entered it. -/
def underWay : List EngineAct :=
  [.submit { id := "run", deviceID := "dev", testSuiteID := "suite", status := .pending }, .next] ++
    List.replicate 6 (.advance 0 agreeable)

/-- The processors of a run that is under way are counted as used, and are held by it. -/
theorem resources_given_back_under_way : ∃ s : EngineSystem,
    Machine.run (EngineSystem.step ⟨some ⟨2, 1024⟩, true⟩)
        (EngineSystem.start 1 (newResourceAllocator 4 8192 0 0)) underWay = some s ∧
      s.host.allocator.usedCPUs = 2 ∧ s.host.entries = {"vm-1"} ∧
      EngineSystem.usedBy Resource.cpus s.threads = 2 := by
  have hrun : ((Machine.run (EngineSystem.step ⟨some ⟨2, 1024⟩, true⟩)
      (EngineSystem.start 1 (newResourceAllocator 4 8192 0 0)) underWay).map fun s =>
        (s.host.allocator.usedCPUs, s.host.entries)) = some (2, {"vm-1"}) := by decide
  obtain ⟨s, hs, hval⟩ := Option.map_eq_some_iff.1 hrun
  obtain ⟨hused, hentries⟩ := Prod.mk.inj hval
  have hbooks := ((resources_given_back ⟨some ⟨2, 1024⟩, true⟩ (by decide) (by decide)).2 s
    ⟨_, hs⟩).1
  exact ⟨s, hs, hused, hentries, hbooks.1 ▸ hused⟩

end Dvf
