/-
**Recovery after a crash** (`RecoverState` of `internal/core/state_manager.go`).

After a restart the scheduler is empty, and `RecoverState` fills it from the store.  Runs that were
running or queued are marked `ERRORED` in the store and put into the queue of the new scheduler as
pending; pending ones are put there as they are.  The mark stays in the store until the run is
dispatched, so a second crash before that finds a run that looks finished.

Main definitions:

* `Dvf.RecoverEnv`, `Dvf.Recovery` — the answers of the store, and what a recovery works on;
* `Dvf.recoverState` — the recovery, with its loops `Dvf.recoverRun` and `Dvf.recoverVM`;
* `Dvf.restarts` — restarts one after the other.

Main results:

* `Dvf.recoverState_spec`, `Dvf.recoverState_vms` — what a recovery leaves in the store and in the
  queue, and what it kills;
* `Dvf.recoverState_idempotent_iff` — **a second recovery in a row changes nothing exactly when no
  run was pending;**
* `Dvf.mem_queue_restarts_iff` — which runs are queued after some restarts;
* `Dvf.restarts_keep_all_iff` — **no unfinished run is lost exactly when there is only one restart,
  or every unfinished run was still pending.**
-/

import Dvf.Scheduler
import Dvf.Store

set_option autoImplicit false

namespace Dvf

open Go

/-! ### The recovery -/

/-- The orders of the map loops, the times of the status writes, and which store calls fail, with
the text of the error. -/
structure RecoverEnv where
  runOrder : RangeOrder String
  vmOrder : RangeOrder String
  clock : String → ℤ := fun _ => 0
  listRunsErr : Option String := none
  updateRunErr : String → Option String := fun _ => none
  listVMsErr : Option String := none
  updateVMErr : String → Option String := fun _ => none

/-- All calls on the test runs, and the listing of the machines, succeed. -/
structure RecoverEnv.StoreOk (env : RecoverEnv) : Prop where
  listRuns : env.listRunsErr = none
  updateRun : ∀ id, env.updateRunErr id = none
  listVMs : env.listVMsErr = none

structure RecoverEnv.AllOk (env : RecoverEnv) : Prop extends env.StoreOk where
  updateVM : ∀ id, env.updateVMErr id = none

/-- What a recovery works on; `killed` are the processes that were sent `SIGKILL`. -/
structure Recovery where
  store : Store
  scheduler : Scheduler
  killed : List ℤ := []

/-- A store call that may fail. -/
def tryStore {β : Type} (err : Option String) (op : Except String β) : Except String β :=
  match err with
  | some e => .error e
  | none => op

def markInterrupted (env : RecoverEnv) (store : Store) (run : TestRun) : Except String Store :=
  tryStore (env.updateRunErr run.id) (store.updateTestRunStatus (env.clock run.id) run.id .errored
    "orchestrator restarted — re-queued for retry")

/-- One run of the first loop. -/
def recoverRun (env : RecoverEnv) (r : Recovery) (run : TestRun) : Recovery :=
  match run.status with
  | .running | .queued =>
      match markInterrupted env r.store run with
      | .error _ => r
      | .ok store =>
          { r with
            store := store
            scheduler := r.scheduler.enqueue { run with status := .pending, vmID := "" } }
  | .pending => { r with scheduler := r.scheduler.enqueue run }
  | _ => r

/-- One machine of the second loop: it is killed if it has a process, and marked. -/
def recoverVM (env : RecoverEnv) (r : Recovery) (vm : VMInstance) : Recovery :=
  let r := if vm.pid > 0 then { r with killed := r.killed ++ [vm.pid] } else r
  match tryStore (env.updateVMErr vm.id) (r.store.updateVMStatus vm.id .error) with
  | .error _ => r
  | .ok store => { r with store := store }

/-- **`RecoverState`.** -/
def recoverState (env : RecoverEnv) (r : Recovery) : Except String Unit × Recovery :=
  match env.listRunsErr with
  | some err => (.error ("listing running test runs for recovery: " ++ err), r)
  | none =>
      let r := (r.store.listRunningTestRuns env.runOrder).foldl (recoverRun env) r
      match env.listVMsErr with
      | some err => (.error ("listing orphaned VMs for recovery: " ++ err), r)
      | none => (.ok (), (r.store.listOrphanedVMs env.vmOrder).foldl (recoverVM env) r)

/-- A restart: the scheduler is new and empty, the store is what the last process left. -/
def restart (maxConcurrent : ℤ) (r : Recovery) (env : RecoverEnv) : Recovery :=
  (recoverState env ⟨r.store, newScheduler maxConcurrent, []⟩).2

/-- **Restarts one after the other**, with nothing dispatched in between. -/
def restarts (maxConcurrent : ℤ) (store : Store) (envs : List RecoverEnv) : Recovery :=
  envs.foldl (restart maxConcurrent) ⟨store, newScheduler maxConcurrent, []⟩

/-! ### Statuses and records -/

namespace TestRunStatus

/-- A status with which a recovery finds a run: it was accepted and is not finished. -/
def isOpen (st : TestRunStatus) : Bool := st = .running || st = .queued || st = .pending

/-- The status of a run that the crash interrupted. -/
def isInterrupted (st : TestRunStatus) : Bool := st = .running || st = .queued

def recovered (st : TestRunStatus) : TestRunStatus := if st.isInterrupted then .errored else st

theorem isOpen_of_isInterrupted (st : TestRunStatus) (h : st.isInterrupted = true) :
    st.isOpen = true := by
  cases st <;> simp_all [isInterrupted, isOpen]

theorem isOpen_iff (st : TestRunStatus) :
    st.isOpen = true ↔ st = .pending ∨ st.isInterrupted = true := by
  cases st <;> decide

theorem isOpen_recovered_iff (st : TestRunStatus) : st.recovered.isOpen = true ↔ st = .pending := by
  cases st <;> decide

@[simp] theorem recovered_recovered (st : TestRunStatus) :
    st.recovered.recovered = st.recovered := by
  cases st <;> rfl

end TestRunStatus

namespace VMStatus

/-- A status with which a recovery finds a machine. -/
def isOrphaned (st : VMStatus) : Bool := st = .creating || st = .booting || st = .runningTest

def recovered (st : VMStatus) : VMStatus := if st.isOrphaned then .error else st

theorem isOrphaned_recovered (st : VMStatus) : st.recovered.isOrphaned = false := by
  cases st <;> rfl

end VMStatus

def VMInstance.recovered (vm : VMInstance) : VMInstance := { vm with status := vm.status.recovered }

/-- The run that a recovery puts into the queue. -/
def TestRun.requeued (run : TestRun) : TestRun :=
  if run.status.isInterrupted then { run with status := .pending, vmID := "" } else run

@[simp] theorem TestRun.id_requeued (run : TestRun) : run.requeued.id = run.id := by
  unfold TestRun.requeued
  split <;> rfl

namespace Store

theorem mem_listRunningTestRuns {s : Store} {o : RangeOrder String} {run : TestRun} :
    run ∈ s.listRunningTestRuns o ↔
      ∃ id, s.testRuns.lookup id = some run ∧ run.status.isOpen = true := by
  simp only [listRunningTestRuns, List.mem_filter, List.mem_filterMap, (o.perm _).mem_iff,
    TestRunStatus.isOpen]
  constructor
  · rintro ⟨⟨id, _, hid⟩, hopen⟩
    exact ⟨id, hid, hopen⟩
  · rintro ⟨id, hid, hopen⟩
    exact ⟨⟨id, AList.lookup_isSome.1 (by rw [hid]; rfl), hid⟩, hopen⟩

theorem exists_listed_iff (s : Store) (o : RangeOrder String) (id : String)
    {p : TestRunStatus → Bool} (hp : ∀ st, p st = true → st.isOpen = true) :
    (∃ run ∈ s.listRunningTestRuns o, run.id = id ∧ p run.status = true) ↔
      ∃ st, s.status id = some st ∧ p st = true := by
  simp only [mem_listRunningTestRuns, Store.status, Option.map_eq_some_iff]
  constructor
  · rintro ⟨run, ⟨k, hk, _⟩, rfl, hst⟩
    rw [s.keyed k run hk]
    exact ⟨_, ⟨run, hk, rfl⟩, hst⟩
  · rintro ⟨st, ⟨run, hrun, rfl⟩, hst⟩
    exact ⟨run, ⟨id, hrun, hp _ hst⟩, s.keyed id run hrun, hst⟩

theorem mem_listOrphanedVMs {s : Store} {o : RangeOrder String} {vm : VMInstance} :
    vm ∈ s.listOrphanedVMs o ↔
      s.vms.lookup vm.id = some vm ∧ vm.status.isOrphaned = true := by
  simp only [listOrphanedVMs, List.mem_filter, List.mem_filterMap, (o.perm _).mem_iff,
    VMStatus.isOrphaned]
  constructor
  · rintro ⟨⟨id, _, hid⟩, horphan⟩
    exact ⟨by rw [s.vmKeyed id vm hid]; exact hid, horphan⟩
  · rintro ⟨hid, horphan⟩
    exact ⟨⟨vm.id, AList.lookup_isSome.1 (by rw [hid]; rfl), hid⟩, horphan⟩

end Store

/-! ### The loop over the runs -/

section Loops

variable {env : RecoverEnv} {r : Recovery} {run : TestRun}

/-- A run with an open status is put into the queue, and marked if it was interrupted. -/
theorem recoverRun_of_isOpen (hok : env.StoreOk) (hopen : run.status.isOpen = true)
    (hknown : r.store.status run.id ≠ none) :
    (recoverRun env r run).scheduler = r.scheduler.enqueue run.requeued ∧
      ∀ id, (recoverRun env r run).store.status id =
        if run.id = id ∧ run.status.isInterrupted = true then some .errored
        else r.store.status id := by
  obtain ⟨st₀, hst₀⟩ := Option.ne_none_iff_exists'.1 hknown
  obtain ⟨store, hstore⟩ := Store.exists_update hst₀ (env.clock run.id) .errored
    "orchestrator restarted — re-queued for retry"
  have hok' : markInterrupted env r.store run = .ok store := by
    rw [markInterrupted, hok.updateRun]
    exact hstore
  have hmark : ∀ id, store.status id =
      if run.id = id then some .errored else r.store.status id := by
    intro id
    rw [Store.status_update hstore]
    simp only [eq_comm]
  unfold recoverRun TestRun.requeued
  cases hst : run.status with
  | running => simp [hok', hmark, TestRunStatus.isInterrupted]
  | queued => simp [hok', hmark, TestRunStatus.isInterrupted]
  | pending => simp [TestRunStatus.isInterrupted]
  | passed => simp [hst, TestRunStatus.isOpen] at hopen
  | failed => simp [hst, TestRunStatus.isOpen] at hopen
  | errored => simp [hst, TestRunStatus.isOpen] at hopen
  | cancelled => simp [hst, TestRunStatus.isOpen] at hopen
  | timeout => simp [hst, TestRunStatus.isOpen] at hopen

/-- **The loop over the runs**: all of them are queued, and the interrupted ones are marked. -/
theorem foldl_recoverRun (hok : env.StoreOk) (runs : List TestRun) :
    ∀ r : Recovery, (∀ run ∈ runs, run.status.isOpen = true ∧ r.store.status run.id ≠ none) →
      (runs.foldl (recoverRun env) r).scheduler.queue =
          r.scheduler.queue ++ runs.map TestRun.requeued ∧
        ∀ id, (runs.foldl (recoverRun env) r).store.status id =
          if ∃ run ∈ runs, run.id = id ∧ run.status.isInterrupted = true then some .errored
          else r.store.status id := by
  induction runs with
  | nil => simp
  | cons run runs ih =>
      intro r hruns
      obtain ⟨hopen, hknown⟩ := hruns run List.mem_cons_self
      obtain ⟨hsched, hstatus⟩ := recoverRun_of_isOpen hok hopen hknown
      obtain ⟨hqueue, hloop⟩ := ih (recoverRun env r run) fun run' hrun' => by
        obtain ⟨hopen', hknown'⟩ := hruns run' (List.mem_cons_of_mem run hrun')
        refine ⟨hopen', ?_⟩
        rw [hstatus]
        split
        · simp
        · exact hknown'
      refine ⟨by simp [hqueue, hsched], fun id => ?_⟩
      rw [List.foldl_cons, hloop id, hstatus id]
      simp only [List.mem_cons, exists_eq_or_imp]
      by_cases hhead : run.id = id ∧ run.status.isInterrupted = true
      · simp [hhead]
      · simp [hhead]

theorem ok_of_tryStore {β : Type} {err : Option String} {op : Except String β} {b : β}
    (h : tryStore err op = .ok b) : op = .ok b := by
  unfold tryStore at h
  split at h
  · cases h
  · exact h

theorem recoverRun_cases (env : RecoverEnv) (r : Recovery) (run : TestRun) :
    (recoverRun env r run).killed = r.killed ∧
      ((recoverRun env r run).store = r.store ∨
        markInterrupted env r.store run = .ok (recoverRun env r run).store) := by
  unfold recoverRun
  split
  · split
    · exact ⟨rfl, Or.inl rfl⟩
    · next hstore => exact ⟨rfl, Or.inr hstore⟩
  · split
    · exact ⟨rfl, Or.inl rfl⟩
    · next hstore => exact ⟨rfl, Or.inr hstore⟩
  · exact ⟨rfl, Or.inl rfl⟩
  · exact ⟨rfl, Or.inl rfl⟩

/-- The loop over the runs leaves the results and the machines alone, and kills nothing. -/
theorem foldl_recoverRun_frame (env : RecoverEnv) (runs : List TestRun) (r : Recovery) :
    (runs.foldl (recoverRun env) r).killed = r.killed ∧
      (runs.foldl (recoverRun env) r).store.vms = r.store.vms ∧
      ∀ k, (runs.foldl (recoverRun env) r).store.getTestResults k = r.store.getTestResults k := by
  induction runs generalizing r with
  | nil => exact ⟨rfl, rfl, fun _ => rfl⟩
  | cons run runs ih =>
      obtain ⟨ihkilled, ihvms, ihresults⟩ := ih (recoverRun env r run)
      obtain ⟨hkilled, hstore⟩ := recoverRun_cases env r run
      refine ⟨ihkilled.trans hkilled, ihvms.trans ?_, fun k => (ihresults k).trans ?_⟩
      · rcases hstore with hstore | hmark
        · rw [hstore]
        · exact Store.vms_update (ok_of_tryStore hmark)
      · rcases hstore with hstore | hmark
        · rw [hstore]
        · exact Store.results_update (ok_of_tryStore hmark) k

/-! ### The loop over the machines -/

/-- A known machine is marked, and its process is killed if it has one. -/
theorem recoverVM_of_known {vm : VMInstance} (hok : ∀ id, env.updateVMErr id = none)
    (hknown : r.store.vms.lookup vm.id ≠ none) :
    (∀ id, (recoverVM env r vm).store.vms.lookup id =
        if vm.id = id then (r.store.vms.lookup id).map fun v => { v with status := .error }
        else r.store.vms.lookup id) ∧
      (recoverVM env r vm).killed = r.killed ++ [vm.pid].filter (0 < ·) := by
  obtain ⟨vm₀, hvm₀⟩ := Option.ne_none_iff_exists'.1 hknown
  obtain ⟨store, hstore⟩ := Store.exists_updateVM hvm₀ .error
  have hlookup : ∀ id, store.vms.lookup id =
      if vm.id = id then (r.store.vms.lookup id).map fun v => { v with status := .error }
      else r.store.vms.lookup id := by
    intro id
    rw [Store.vms_updateVM hstore]
    by_cases hid : vm.id = id
    · rw [if_pos hid.symm, if_pos hid, hid]
    · rw [if_neg (Ne.symm hid), if_neg hid]
  by_cases hpid : vm.pid > 0
  · simp [recoverVM, tryStore, hok, hpid, hstore, hlookup]
  · simp [recoverVM, tryStore, hok, hpid, hstore, hlookup]

/-- **The loop over the machines**: all of them are marked, and those with a process are killed. -/
theorem foldl_recoverVM (hok : ∀ id, env.updateVMErr id = none) (vms : List VMInstance) :
    ∀ r : Recovery, (∀ vm ∈ vms, r.store.vms.lookup vm.id ≠ none) →
      (∀ id, (vms.foldl (recoverVM env) r).store.vms.lookup id =
          if ∃ vm ∈ vms, vm.id = id then
            (r.store.vms.lookup id).map fun v => { v with status := .error }
          else r.store.vms.lookup id) ∧
        (vms.foldl (recoverVM env) r).killed =
          r.killed ++ (vms.map VMInstance.pid).filter (0 < ·) := by
  induction vms with
  | nil => simp
  | cons vm vms ih =>
      intro r hvms
      obtain ⟨hlookup, hkilled⟩ := recoverVM_of_known hok (hvms vm List.mem_cons_self)
      obtain ⟨hloop, hloopKilled⟩ := ih (recoverVM env r vm) fun vm' hvm' => by
        have hknown := hvms vm' (List.mem_cons_of_mem vm hvm')
        rw [hlookup]
        split
        · simpa using hknown
        · exact hknown
      refine ⟨fun id => ?_, ?_⟩
      · rw [List.foldl_cons, hloop id, hlookup id]
        simp only [List.mem_cons, exists_eq_or_imp]
        by_cases hhead : vm.id = id
        · by_cases htail : ∃ vm' ∈ vms, vm'.id = id
          · simp [hhead, htail, Function.comp_def]
          · simp [hhead, htail]
        · simp [hhead]
      · rw [List.foldl_cons, hloopKilled, hkilled, List.append_assoc, List.map_cons,
          ← List.filter_append]
        rfl

/-- One machine of the second loop changes neither the runs, nor the results, nor the queue. -/
theorem recoverVM_frame (env : RecoverEnv) (r : Recovery) (vm : VMInstance) :
    (recoverVM env r vm).store.testRuns = r.store.testRuns ∧
      (recoverVM env r vm).store.testResults = r.store.testResults ∧
      (recoverVM env r vm).scheduler = r.scheduler := by
  have hkill : ∀ r' : Recovery, r' = (if vm.pid > 0 then { r with killed := r.killed ++ [vm.pid] }
      else r) → r'.store = r.store ∧ r'.scheduler = r.scheduler := by
    rintro r' rfl
    split
    · exact ⟨rfl, rfl⟩
    · exact ⟨rfl, rfl⟩
  obtain ⟨hstore, hsched⟩ := hkill _ rfl
  simp only [recoverVM]
  split
  · exact ⟨by rw [hstore], by rw [hstore], hsched⟩
  · next store hup =>
      have hup := ok_of_tryStore hup
      rw [hstore] at hup
      obtain ⟨hruns, hresults⟩ := Store.runs_updateVM hup
      exact ⟨hruns, hresults, hsched⟩

theorem foldl_recoverVM_frame (env : RecoverEnv) (vms : List VMInstance) (r : Recovery) :
    (vms.foldl (recoverVM env) r).store.testRuns = r.store.testRuns ∧
      (vms.foldl (recoverVM env) r).store.testResults = r.store.testResults ∧
      (vms.foldl (recoverVM env) r).scheduler = r.scheduler := by
  induction vms generalizing r with
  | nil => exact ⟨rfl, rfl, rfl⟩
  | cons vm vms ih =>
      obtain ⟨h₁, h₂, h₃⟩ := recoverVM_frame env r vm
      obtain ⟨ih₁, ih₂, ih₃⟩ := ih (recoverVM env r vm)
      exact ⟨ih₁.trans h₁, ih₂.trans h₂, ih₃.trans h₃⟩

/-- **What a recovery does** when the store answers: the open runs are appended to the queue, and
those that were interrupted are marked `ERRORED`. -/
theorem recoverState_spec (r : Recovery) (hok : env.StoreOk) :
    (recoverState env r).1 = .ok () ∧
      (∀ id, (recoverState env r).2.store.status id =
        (r.store.status id).map TestRunStatus.recovered) ∧
      (recoverState env r).2.scheduler.queue =
        r.scheduler.queue ++ (r.store.listRunningTestRuns env.runOrder).map TestRun.requeued := by
  set runs := r.store.listRunningTestRuns env.runOrder with hruns
  have hlisted : ∀ run ∈ runs, run.status.isOpen = true ∧ r.store.status run.id ≠ none := by
    intro run hrun
    obtain ⟨id, hid, hopen⟩ := Store.mem_listRunningTestRuns.1 hrun
    refine ⟨hopen, ?_⟩
    rw [r.store.keyed id run hid, Store.status, hid]
    simp
  obtain ⟨hqueue, hstatus⟩ := foldl_recoverRun hok runs r hlisted
  obtain ⟨htr, _, hsched⟩ := foldl_recoverVM_frame env
    ((runs.foldl (recoverRun env) r).store.listOrphanedVMs env.vmOrder)
    (runs.foldl (recoverRun env) r)
  have heq : recoverState env r = (.ok (), ((runs.foldl (recoverRun env) r).store.listOrphanedVMs
      env.vmOrder).foldl (recoverVM env) (runs.foldl (recoverRun env) r)) := by
    simp only [recoverState, hok.listRuns, hok.listVMs, hruns]
  rw [heq]
  refine ⟨rfl, fun id => ?_, by rw [hsched, hqueue]⟩
  have hsame : ∀ s s' : Store, s.testRuns = s'.testRuns → s.status id = s'.status id :=
    fun s s' h => by rw [Store.status, Store.status, h]
  have hmarked := r.store.exists_listed_iff env.runOrder id TestRunStatus.isOpen_of_isInterrupted
  rw [hsame _ _ htr, hstatus id]
  simp only [hruns, hmarked]
  cases hst : r.store.status id with
  | none => simp
  | some st => by_cases hi : st.isInterrupted = true <;> simp [TestRunStatus.recovered, hi]

/-- **What a recovery does to the machines** when the store answers: those with an orphaned status
are marked `ERROR`, and sent `SIGKILL` if the store has a process id of them. -/
theorem recoverState_vms (r : Recovery) (hok : env.AllOk) :
    (∀ id, (recoverState env r).2.store.vms.lookup id =
        (r.store.vms.lookup id).map VMInstance.recovered) ∧
      ∃ vms : List VMInstance, (∀ vm, vm ∈ vms ↔
          r.store.vms.lookup vm.id = some vm ∧ vm.status.isOrphaned = true) ∧
        (recoverState env r).2.killed = r.killed ++ (vms.map VMInstance.pid).filter (0 < ·) := by
  set r₁ := (r.store.listRunningTestRuns env.runOrder).foldl (recoverRun env) r with hr₁
  obtain ⟨hkilled₁, hvms₁, _⟩ : r₁.killed = r.killed ∧ r₁.store.vms = r.store.vms ∧ _ :=
    foldl_recoverRun_frame env _ r
  set vms := r₁.store.listOrphanedVMs env.vmOrder with hvms
  have hmem : ∀ vm, vm ∈ vms ↔
      r.store.vms.lookup vm.id = some vm ∧ vm.status.isOrphaned = true := by
    intro vm
    rw [hvms, Store.mem_listOrphanedVMs, hvms₁]
  have heq : (recoverState env r).2 = vms.foldl (recoverVM env) r₁ := by
    simp only [recoverState, hok.listRuns, hok.listVMs, hvms, hr₁]
  obtain ⟨hlookup, hkilled⟩ := foldl_recoverVM hok.updateVM vms r₁ fun vm hvm => by
    rw [hvms₁, ((hmem vm).1 hvm).1]
    simp
  refine ⟨fun id => ?_, vms, hmem, by rw [heq, hkilled, hkilled₁]⟩
  rw [heq, hlookup id, hvms₁]
  cases hvm : r.store.vms.lookup id with
  | none => simp
  | some vm =>
      have hid : vm.id = id := r.store.vmKeyed id vm hvm
      have hlisted : (∃ vm' ∈ vms, vm'.id = id) ↔ vm.status.isOrphaned = true := by
        constructor
        · rintro ⟨vm', hvm', rfl⟩
          obtain ⟨hlook, horphan⟩ := (hmem vm').1 hvm'
          rw [hvm] at hlook
          cases hlook
          exact horphan
        · intro horphan
          exact ⟨vm, (hmem vm).2 ⟨by rw [hid]; exact hvm, horphan⟩, hid⟩
      simp only [hlisted]
      by_cases horphan : vm.status.isOrphaned = true
      · simp [horphan, VMInstance.recovered, VMStatus.recovered]
      · simp [horphan, VMInstance.recovered, VMStatus.recovered]

end Loops

/-! ### Two recoveries in a row -/

section Twice

variable {env env₁ env₂ : RecoverEnv}

theorem recoverState_of_nil (r : Recovery) (hok : env.StoreOk)
    (hruns : r.store.listRunningTestRuns env.runOrder = [])
    (hvms : r.store.listOrphanedVMs env.vmOrder = []) : (recoverState env r).2 = r := by
  simp only [recoverState, hok.listRuns, hok.listVMs, hruns, List.foldl_nil, hvms]

theorem listOrphanedVMs_recoverState (r : Recovery) (hok : env₁.AllOk) (o : RangeOrder String) :
    (recoverState env₁ r).2.store.listOrphanedVMs o = [] := by
  rw [List.eq_nil_iff_forall_not_mem]
  intro vm hvm
  obtain ⟨hlookup, horphan⟩ := Store.mem_listOrphanedVMs.1 hvm
  rw [(recoverState_vms r hok).1, Option.map_eq_some_iff] at hlookup
  obtain ⟨vm₀, _, rfl⟩ := hlookup
  simp [VMInstance.recovered, VMStatus.isOrphaned_recovered] at horphan

/-- The runs that another recovery would find are those that were pending. -/
theorem listRunningTestRuns_recoverState (r : Recovery) (hok : env₁.StoreOk)
    (o : RangeOrder String) :
    (recoverState env₁ r).2.store.listRunningTestRuns o = [] ↔
      ∀ id, r.store.status id ≠ some .pending := by
  have hstatus := (recoverState_spec r hok).2.1
  have hfound : ∀ id, (∃ run ∈ (recoverState env₁ r).2.store.listRunningTestRuns o,
      run.id = id ∧ run.status.isOpen = true) ↔ r.store.status id = some .pending := by
    intro id
    rw [Store.exists_listed_iff _ o id fun _ hst => hst, hstatus id]
    constructor
    · rintro ⟨_, hrec, hopen⟩
      obtain ⟨st, hst, rfl⟩ := Option.map_eq_some_iff.1 hrec
      rw [hst, st.isOpen_recovered_iff.1 hopen]
    · intro hst
      exact ⟨.pending, by rw [hst]; rfl, rfl⟩
  rw [List.eq_nil_iff_forall_not_mem]
  constructor
  · intro hnil id hst
    obtain ⟨run, hrun, _⟩ := (hfound id).2 hst
    exact hnil run hrun
  · intro hnone run hrun
    obtain ⟨_, _, hopen⟩ := Store.mem_listRunningTestRuns.1 hrun
    exact hnone run.id ((hfound run.id).1 ⟨run, hrun, rfl, hopen⟩)

/-- **When a recovery is idempotent.**  Call `RecoverState` twice on the same store and scheduler,
with a store that answers and nothing dispatched in between.  The second call changes neither the
scheduler nor the store if and only if no run was pending before the first one. -/
theorem recoverState_idempotent_iff (r : Recovery) (hok₁ : env₁.AllOk) (hok₂ : env₂.AllOk) :
    ((recoverState env₂ (recoverState env₁ r).2).2.scheduler = (recoverState env₁ r).2.scheduler ∧
        (recoverState env₂ (recoverState env₁ r).2).2.store = (recoverState env₁ r).2.store) ↔
      ∀ id, r.store.status id ≠ some .pending := by
  rw [← listRunningTestRuns_recoverState r hok₁.toStoreOk env₂.runOrder]
  constructor
  · rintro ⟨hsched, _⟩
    -- the second call appends what it finds to the queue
    have hqueue := (recoverState_spec (recoverState env₁ r).2 hok₂.toStoreOk).2.2
    rw [hsched] at hqueue
    simpa using hqueue
  · intro hnil
    rw [recoverState_of_nil _ hok₂.toStoreOk hnil (listOrphanedVMs_recoverState r hok₁ _)]
    exact ⟨rfl, rfl⟩

/-- A run that was executing, and a run that was waiting, when the process crashed. -/
def crashedStore : Store :=
  let executing : TestRun :=
    { id := "r1", deviceID := "dev", testSuiteID := "suite", status := .running }
  let waiting : TestRun :=
    { id := "r2", deviceID := "dev", testSuiteID := "suite", status := .pending }
  (newMemoryStore.insertRun "r1" executing rfl).insertRun "r2" waiting rfl

/-- A recovery in which every store call succeeds. -/
def quietRecovery : RecoverEnv where
  runOrder := .stored _
  vmOrder := .stored _

theorem quietRecovery_allOk : quietRecovery.AllOk := ⟨⟨rfl, fun _ => rfl, rfl⟩, fun _ => rfl⟩

/-- A store with a run that was executing only. -/
def interruptedStore : Store :=
  newMemoryStore.insertRun "r1"
    { id := "r1", deviceID := "dev", testSuiteID := "suite", status := .running } rfl

/-- The run that was executing is queued by the first recovery only. -/
theorem recoverState_idempotent_running :
    (recoverState quietRecovery (recoverState quietRecovery
        ⟨interruptedStore, newScheduler 1, []⟩).2).2.store =
      (recoverState quietRecovery ⟨interruptedStore, newScheduler 1, []⟩).2.store := by
  refine ((recoverState_idempotent_iff ⟨interruptedStore, newScheduler 1, []⟩ quietRecovery_allOk
    quietRecovery_allOk).2 fun id => ?_).2
  rw [interruptedStore, Store.status_insertRun]
  split
  · simp
  · simp [newMemoryStore, Store.status]

/-- **A second recovery queues a pending run again.** -/
theorem recoverState_queues_twice :
    (recoverState quietRecovery ⟨crashedStore, newScheduler 1, []⟩).2.scheduler.queue.map
        TestRun.id =
        ["r2", "r1"] ∧
      (recoverState quietRecovery (recoverState quietRecovery
        ⟨crashedStore, newScheduler 1, []⟩).2).2.scheduler.queue.map TestRun.id =
          ["r2", "r1", "r2"] := by
  decide

end Twice

/-! ### Restarts -/

section Restarts

variable {n : ℤ} {store : Store} {env : RecoverEnv} {envs : List RecoverEnv} {id : String}

/-- The store after some restarts: each run has been marked, if it was interrupted. -/
theorem status_restarts (hok : ∀ env ∈ envs, env.StoreOk) (id : String) :
    ∀ r : Recovery, (envs.foldl (restart n) r).store.status id =
      if envs = [] then r.store.status id
      else (r.store.status id).map TestRunStatus.recovered := by
  induction envs with
  | nil => simp
  | cons env envs ih =>
      intro r
      rw [List.forall_mem_cons] at hok
      have hfirst : (restart n r env).store.status id =
          (r.store.status id).map TestRunStatus.recovered :=
        (recoverState_spec ⟨r.store, newScheduler n, []⟩ hok.1).2.1 id
      rw [List.foldl_cons, ih hok.2 (restart n r env), if_neg (List.cons_ne_nil env envs)]
      split
      · exact hfirst
      · -- a second mark changes nothing any more
        rw [hfirst, Option.map_map]
        congr 1
        funext st
        exact st.recovered_recovered

/-- **Which runs are queued after some restarts**: those that were pending, and if there was only
one restart also those that were interrupted. -/
theorem mem_queue_restarts_iff (hok : ∀ e ∈ envs ++ [env], e.StoreOk) :
    (∃ run ∈ (restarts n store (envs ++ [env])).scheduler.queue, run.id = id) ↔
      ∃ st, store.status id = some st ∧ (st = .pending ∨ envs = [] ∧ st.isInterrupted = true) := by
  rw [List.forall_mem_append, List.forall_mem_singleton] at hok
  have hqueue : (restarts n store (envs ++ [env])).scheduler.queue =
      ((restarts n store envs).store.listRunningTestRuns env.runOrder).map TestRun.requeued := by
    have hspec := recoverState_spec ⟨(restarts n store envs).store, newScheduler n, []⟩ hok.2
    simpa [restarts, restart] using hspec.2.2
  have hlisted : (∃ run ∈ (restarts n store (envs ++ [env])).scheduler.queue, run.id = id) ↔
      ∃ st, (restarts n store envs).store.status id = some st ∧ st.isOpen = true := by
    rw [hqueue]
    refine Iff.trans ?_ (Store.exists_listed_iff _ env.runOrder id fun _ hst => hst)
    constructor
    · rintro ⟨_, hmem, rfl⟩
      obtain ⟨run, hrun, rfl⟩ := List.mem_map.1 hmem
      exact ⟨run, hrun, run.id_requeued.symm, (Store.mem_listRunningTestRuns.1 hrun).choose_spec.2⟩
    · rintro ⟨run, hrun, rfl, _⟩
      exact ⟨_, List.mem_map_of_mem hrun, run.id_requeued⟩
  rw [hlisted, restarts, status_restarts hok.1 id]
  by_cases hnil : envs = []
  · rw [if_pos hnil]
    simp only [hnil, true_and, TestRunStatus.isOpen_iff]
  · rw [if_neg hnil]
    simp only [hnil, false_and, or_false, Option.map_eq_some_iff]
    constructor
    · rintro ⟨_, ⟨st, hst, rfl⟩, hopen⟩
      exact ⟨st, hst, st.isOpen_recovered_iff.1 hopen⟩
    · rintro ⟨st, hst, hpending⟩
      exact ⟨_, ⟨st, hst, rfl⟩, st.isOpen_recovered_iff.2 hpending⟩

/-- **When no accepted run is lost.**  Let the process be restarted some times, the last time with
`env`, with nothing dispatched in between and a store that answers.  Every run that was pending,
queued or running before the first crash is in the queue after the last recovery if and only if
there was only one restart, or no run was running or queued. -/
theorem restarts_keep_all_iff (hok : ∀ e ∈ envs ++ [env], e.StoreOk) :
    (∀ id st, store.status id = some st → st = .pending ∨ st = .queued ∨ st = .running →
        ∃ run ∈ (restarts n store (envs ++ [env])).scheduler.queue, run.id = id) ↔
      envs = [] ∨ ∀ id, store.status id ≠ some .running ∧ store.status id ≠ some .queued := by
  simp only [mem_queue_restarts_iff hok]
  constructor
  · intro hall
    by_cases hnil : envs = []
    · exact Or.inl hnil
    · have hlost : ∀ id st, st.isInterrupted = true → store.status id ≠ some st := by
        intro id st hi hst
        obtain ⟨st', hst', hcase⟩ := hall id st hst (by cases st <;> simp_all
          [TestRunStatus.isInterrupted])
        rw [hst] at hst'
        cases hst'
        rcases hcase with rfl | ⟨hnil', _⟩
        · cases hi
        · exact hnil hnil'
      exact Or.inr fun id => ⟨hlost id _ rfl, hlost id _ rfl⟩
  · intro hcond id st hst hopen
    refine ⟨st, hst, ?_⟩
    rcases hopen with rfl | rfl | rfl
    · exact Or.inl rfl
    · rcases hcond with hnil | hnone
      · exact Or.inr ⟨hnil, rfl⟩
      · exact absurd hst (hnone id).2
    · rcases hcond with hnil | hnone
      · exact Or.inr ⟨hnil, rfl⟩
      · exact absurd hst (hnone id).1

/-- After one restart both runs are queued. -/
theorem restarts_keep_all_once :
    ∃ run ∈ (restarts 1 crashedStore ([] ++ [quietRecovery])).scheduler.queue, run.id = "r1" := by
  have hok : ∀ e ∈ [] ++ [quietRecovery], e.StoreOk := by simp [quietRecovery_allOk.toStoreOk]
  exact (restarts_keep_all_iff hok).2 (Or.inl rfl) "r1" .running (by decide)
    (by decide)

/-- After a second restart before any dispatch, the run that was executing is recorded as `ERRORED`
and is not queued any more. -/
theorem restarts_lose_running :
    crashedStore.status "r1" = some .running ∧
      (restarts 1 crashedStore [quietRecovery, quietRecovery]).store.status "r1" = some .errored ∧
      (restarts 1 crashedStore [quietRecovery, quietRecovery]).scheduler.queue.map TestRun.id =
        ["r2"] := by
  decide

end Restarts

end Dvf
