/-
**The store** (`internal/storage/memory.go`): test runs, test results and virtual machines.

The operations are those of the in-memory store.  A store backed by a database answers the same
calls, with one difference that the engine can observe: a call made with a context that is already
done fails and changes nothing, while the in-memory store ignores its context.  `Dvf.Store.withCtx`
makes this difference explicit; which kind of store is used is the flag `honoursCtx`.

Main definitions:

* `Dvf.Store`, `Dvf.newMemoryStore` — the contents of the store;
* `Dvf.Store.updateTestRunStatus`, `Dvf.Store.listRunningTestRuns` — test runs;
* `Dvf.Store.saveTestResult`, `Dvf.Store.getTestResults` — test results;
* `Dvf.Store.listOrphanedVMs`, `Dvf.Store.updateVMStatus` — virtual machines;
* `Dvf.CtxErr`, `Dvf.Store.withCtx` — contexts.

Main results:

* `Dvf.Store.status_update` — a status write on a known run changes the status of this run only;
* `Dvf.Store.results_update`, `Dvf.Store.results_save` — what writes do to the stored results.
-/

import Dvf.Go
import Dvf.Types

set_option autoImplicit false

namespace Dvf

open Go

/-- Why a context is done: `context.DeadlineExceeded` or `context.Canceled`. -/
inductive CtxErr
  | deadlineExceeded
  | canceled
  deriving DecidableEq, Repr

def CtxErr.error : CtxErr → String
  | deadlineExceeded => "context deadline exceeded"
  | canceled => "context canceled"

/-- The contents of the store; every test run and every machine is stored under its own id. -/
structure Store where
  testRuns : GoMap String TestRun
  testResults : GoMap String (List TestResult)
  vms : GoMap String VMInstance
  keyed : ∀ id run, testRuns.lookup id = some run → run.id = id
  vmKeyed : ∀ id vm, vms.lookup id = some vm → vm.id = id

/-- `NewMemoryStore`. -/
def newMemoryStore : Store where
  testRuns := ∅
  testResults := ∅
  vms := ∅
  keyed := by
    intro id run h
    rw [AList.lookup_empty] at h
    cases h
  vmKeyed := by
    intro id vm h
    rw [AList.lookup_empty] at h
    cases h

theorem keyed_insert {ν : Type} {key : ν → String} {m : GoMap String ν}
    (h : ∀ k v, m.lookup k = some v → key v = k) {k : String} {v : ν} (hkey : key v = k) :
    ∀ k' v', (m.insert k v).lookup k' = some v' → key v' = k' := by
  intro k' v' hv'
  by_cases heq : k' = k
  · subst heq
    rw [AList.lookup_insert] at hv'
    cases hv'
    exact hkey
  · rw [AList.lookup_insert_ne heq] at hv'
    exact h k' v' hv'

namespace Store

/-! ### Test runs -/

/-- Storing a test run under its id. -/
def insertRun (s : Store) (id : String) (run : TestRun) (hid : run.id = id) : Store :=
  { s with
    testRuns := s.testRuns.insert id run
    keyed := keyed_insert s.keyed hid }

/-- `GetTestRun`. -/
def getTestRun (s : Store) (id : String) : Except String TestRun :=
  match s.testRuns.lookup id with
  | some run => .ok run
  | none => .error ("test run " ++ quote id ++ " not found")

/-- `CreateTestRun`, with the id that the store generated. -/
def createTestRun (s : Store) (id : String) (now : ℤ) (run : TestRun) : TestRun × Store :=
  let run := { run with id := id, createdAt := now }
  (run, s.insertRun id run rfl)

/-- The record of a run after a status write at time `now`. -/
def withStatus (now : ℤ) (status : TestRunStatus) (errMsg : String) (run : TestRun) : TestRun :=
  let run := { run with status := status }
  let run := if errMsg ≠ "" then { run with errorMessage := errMsg } else run
  match status with
  | .running => { run with startedAt := some now }
  | .passed | .failed | .errored | .cancelled | .timeout =>
      match run.startedAt with
      | some t => { run with completedAt := some now, durationMs := (now - t).tdiv 1000000 }
      | none => { run with completedAt := some now }
  | .pending | .queued => run

@[simp] theorem id_withStatus (now : ℤ) (st : TestRunStatus) (errMsg : String) (run : TestRun) :
    (withStatus now st errMsg run).id = run.id := by
  unfold withStatus
  by_cases h : errMsg = ""
  · cases st <;> cases run.startedAt <;> simp [h]
  · cases st <;> cases run.startedAt <;> simp [h]

/-- `UpdateTestRunStatus`. -/
def updateTestRunStatus (s : Store) (now : ℤ) (id : String) (status : TestRunStatus)
    (errMsg : String) : Except String Store :=
  match h : s.testRuns.lookup id with
  | some run =>
      .ok (s.insertRun id (withStatus now status errMsg run)
        ((id_withStatus now status errMsg run).trans (s.keyed id run h)))
  | none => .error ("test run " ++ quote id ++ " not found")

/-- `ListRunningTestRuns`: the runs that are pending, queued or running, in the order `o` of the
map loop. -/
def listRunningTestRuns (s : Store) (o : RangeOrder String) : List TestRun :=
  ((o.order s.testRuns.keys).filterMap fun id => s.testRuns.lookup id).filter fun run =>
    run.status = .running || run.status = .queued || run.status = .pending

/-! ### Test results -/

/-- `SaveTestResult`. -/
def saveTestResult (s : Store) (result : TestResult) : Store :=
  let rows := (s.testResults.lookup result.testRunID).getD []
  { s with testResults := s.testResults.insert result.testRunID (rows ++ [result]) }

/-- `GetTestResults`. -/
def getTestResults (s : Store) (testRunID : String) : List TestResult :=
  (s.testResults.lookup testRunID).getD []

/-! ### Virtual machines -/

/-- Storing a machine under its id. -/
def insertVM (s : Store) (id : String) (vm : VMInstance) (hid : vm.id = id) : Store :=
  { s with
    vms := s.vms.insert id vm
    vmKeyed := keyed_insert s.vmKeyed hid }

/-- `SaveVM`, of a machine that has an id. -/
def saveVM (s : Store) (vm : VMInstance) : Store := s.insertVM vm.id vm rfl

/-- `GetVM`. -/
def getVM (s : Store) (id : String) : Except String VMInstance :=
  match s.vms.lookup id with
  | some vm => .ok vm
  | none => .error ("vm " ++ quote id ++ " not found")

/-- `UpdateVMStatus`. -/
def updateVMStatus (s : Store) (id : String) (status : VMStatus) : Except String Store :=
  match h : s.vms.lookup id with
  | some vm => .ok (s.insertVM id { vm with status := status } (s.vmKeyed id vm h))
  | none => .error ("vm " ++ quote id ++ " not found")

/-- `ListOrphanedVMs`: the machines in transient states, in the order `o` of the map loop. -/
def listOrphanedVMs (s : Store) (o : RangeOrder String) : List VMInstance :=
  ((o.order s.vms.keys).filterMap fun id => s.vms.lookup id).filter fun vm =>
    vm.status = .creating || vm.status = .booting || vm.status = .runningTest

/-! ### Contexts -/

/-- A store call with a context: a store that honours contexts fails the call when the context is
done. -/
def withCtx {β : Type} (honoursCtx : Bool) (ctx : Option CtxErr) (op : Except String β) :
    Except String β :=
  match ctx with
  | some e => if honoursCtx = true then .error e.error else op
  | none => op

theorem ok_of_withCtx {β : Type} {honoursCtx : Bool} {ctx : Option CtxErr} {op : Except String β}
    {b : β} (h : withCtx honoursCtx ctx op = .ok b) : op = .ok b := by
  unfold withCtx at h
  split at h
  · split at h
    · cases h
    · exact h
  · exact h

/-! ### Reading back -/

def status (s : Store) (id : String) : Option TestRunStatus :=
  (s.testRuns.lookup id).map TestRun.status

@[simp] theorem status_withStatus (now : ℤ) (st : TestRunStatus) (errMsg : String)
    (run : TestRun) : (withStatus now st errMsg run).status = st := by
  unfold withStatus
  by_cases h : errMsg = ""
  · cases st <;> cases run.startedAt <;> simp [h]
  · cases st <;> cases run.startedAt <;> simp [h]

theorem status_insertRun (s : Store) {id : String} {run : TestRun} (hid : run.id = id)
    (k : String) :
    (s.insertRun id run hid).status k = if k = id then some run.status else s.status k := by
  simp only [status, insertRun]
  by_cases hk : k = id
  · subst hk
    simp
  · rw [AList.lookup_insert_ne hk, if_neg hk]

/-- **A status write** on a known run changes the status of this run only. -/
theorem status_update {s s' : Store} {now : ℤ} {id : String} {st : TestRunStatus}
    {errMsg : String} (h : s.updateTestRunStatus now id st errMsg = .ok s') (k : String) :
    s'.status k = if k = id then some st else s.status k := by
  unfold updateTestRunStatus at h
  split at h
  · next run hrun =>
      cases h
      rw [status_insertRun, status_withStatus]
  · cases h

theorem exists_update {s : Store} {id : String} {st₀ : TestRunStatus} (h : s.status id = some st₀)
    (now : ℤ) (st : TestRunStatus) (errMsg : String) :
    ∃ s', s.updateTestRunStatus now id st errMsg = .ok s' := by
  unfold updateTestRunStatus
  split
  · exact ⟨_, rfl⟩
  · next hnone =>
      rw [status, hnone] at h
      cases h

/-- **A status write on a known run**, by the record of the run. -/
theorem exists_update_of_lookup {s : Store} {id : String} {run : TestRun}
    (h : s.testRuns.lookup id = some run) (now : ℤ) (st : TestRunStatus) (errMsg : String) :
    ∃ s', s.updateTestRunStatus now id st errMsg = .ok s' ∧
      s'.testRuns = s.testRuns.insert id (withStatus now st errMsg run) := by
  unfold updateTestRunStatus
  split
  · next run' hrun =>
      rw [hrun] at h
      cases h
      exact ⟨_, rfl, rfl⟩
  · next hnone =>
      rw [hnone] at h
      cases h

theorem exists_status_of_update {s s' : Store} {now : ℤ} {id : String} {st : TestRunStatus}
    {errMsg : String} (h : s.updateTestRunStatus now id st errMsg = .ok s') :
    ∃ st₀, s.status id = some st₀ := by
  unfold updateTestRunStatus at h
  split at h
  · next run hrun => exact ⟨run.status, by rw [status, hrun]; rfl⟩
  · cases h

theorem results_update {s s' : Store} {now : ℤ} {id : String} {st : TestRunStatus}
    {errMsg : String} (h : s.updateTestRunStatus now id st errMsg = .ok s') (k : String) :
    s'.getTestResults k = s.getTestResults k := by
  unfold updateTestRunStatus at h
  split at h
  · cases h
    rfl
  · cases h

def vmStatus (s : Store) (id : String) : Option VMStatus := (s.vms.lookup id).map VMInstance.status

/-- **A status write** on a known machine changes the status of this machine only. -/
theorem vms_updateVM {s s' : Store} {id : String} {st : VMStatus}
    (h : s.updateVMStatus id st = .ok s') (k : String) :
    s'.vms.lookup k =
      if k = id then (s.vms.lookup id).map fun vm => { vm with status := st }
      else s.vms.lookup k := by
  unfold updateVMStatus at h
  split at h
  · next vm hvm =>
      cases h
      simp only [insertVM]
      by_cases hk : k = id
      · subst hk
        rw [AList.lookup_insert, if_pos rfl, hvm]
        rfl
      · rw [AList.lookup_insert_ne hk, if_neg hk]
  · cases h

theorem runs_updateVM {s s' : Store} {id : String} {st : VMStatus}
    (h : s.updateVMStatus id st = .ok s') :
    s'.testRuns = s.testRuns ∧ s'.testResults = s.testResults := by
  unfold updateVMStatus at h
  split at h
  · cases h
    exact ⟨rfl, rfl⟩
  · cases h

theorem exists_updateVM {s : Store} {id : String} {vm : VMInstance}
    (h : s.vms.lookup id = some vm) (st : VMStatus) : ∃ s', s.updateVMStatus id st = .ok s' := by
  unfold updateVMStatus
  split
  · exact ⟨_, rfl⟩
  · next hnone =>
      rw [hnone] at h
      cases h

theorem vms_update {s s' : Store} {now : ℤ} {id : String} {st : TestRunStatus} {errMsg : String}
    (h : s.updateTestRunStatus now id st errMsg = .ok s') : s'.vms = s.vms := by
  unfold updateTestRunStatus at h
  split at h
  · cases h
    rfl
  · cases h

theorem results_save (s : Store) (r : TestResult) (k : String) :
    (s.saveTestResult r).getTestResults k =
      if k = r.testRunID then s.getTestResults k ++ [r] else s.getTestResults k := by
  simp only [getTestResults, saveTestResult]
  by_cases hk : k = r.testRunID
  · subst hk
    simp
  · rw [AList.lookup_insert_ne hk, if_neg hk]

end Store

end Dvf
